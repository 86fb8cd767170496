import OrbitChain.Campaign.NestedCalls
import OrbitChain.Campaign.MilestoneSchedule
import OrbitChain.Campaign.RefundPolicy

/-!
# The re-entrancy lock

Runs of the contract among token contracts that call back. Token contracts are called under the lock
only (`exec_whileBusy`), so that nothing which takes the lock succeeds inside a call. A successful
call then leaves what the same call leaves with standard tokens that pay it, but for what
administrative calls nested in it wrote (`exists_standard_exec`): everything it records of donors,
milestones and totals is computed from the storage it started with. The invariants of runs with
standard tokens carry over, and with them that a milestone is released once and a donor refunded
once.
-/

set_option autoImplicit false
set_option relaxedAutoImplicit false

namespace OrbitChain.Campaign

open Foundations

/-! ### Tokens are called under the lock -/

/-- A token contract that refuses every call made while no outer call runs. -/
def TokenClient.whileBusy (token : TokenClient) : TokenClient where
  balance t account w := if w.Busy then token.balance t account w else .error .token
  transfer t source target amount w :=
    if w.Busy then token.transfer t source target amount w else .error .token

/-- An environment whose token contracts refuse calls made while no outer call runs. -/
def Env.whileBusy (env : Env) : Env :=
  { env with host := { env.host with token := env.host.token.whileBusy } }

section WhileBusy

variable {env : Env} {w : World}

theorem balance_whileBusy (hbusy : w.Busy) (t account : Address) :
    env.whileBusy.host.token.balance t account w = env.host.token.balance t account w :=
  if_pos hbusy

theorem transfer_whileBusy (hbusy : w.Busy) (t source target : Address) (amount : ℤ) :
    env.whileBusy.host.token.transfer t source target amount w =
      env.host.token.transfer t source target amount w :=
  if_pos hbusy

variable (htoken : env.host.token.Respectful) (hbusy : w.Busy)
include htoken hbusy

namespace CampaignContract

variable {donor : Address} {numerator denominator : ℤ}

theorem payRefund_whileBusy {token : Address} {refund : ℤ} :
    payRefund env donor token refund w = payRefund env.whileBusy donor token refund w := by
  unfold payRefund
  split_ifs
  · rw [balance_whileBusy hbusy]
    refine bind_congr_of_ok fun read hread ↦ ?_
    have hread_busy := (balance_undisturbed htoken hbusy hread).busy hbusy
    refine bind_congr_of_ok fun _ _ ↦ ?_
    rw [transfer_whileBusy hread_busy]
    rfl
  · rfl

theorem refundAssets_whileBusy {assets : List StellarAsset} :
    refundAssets env donor numerator denominator assets w =
      refundAssets env.whileBusy donor numerator denominator assets w := by
  induction assets generalizing w with
  | nil => rfl
  | cons asset rest ih =>
    have hfirst : refundAsset env donor numerator denominator asset w =
        refundAsset env.whileBusy donor numerator denominator asset w := by
      unfold refundAsset
      cases asset.issuer with
      | none => rfl
      | some token =>
        dsimp only
        split_ifs
        · exact bind_congr_of_ok fun _ _ ↦ payRefund_whileBusy htoken hbusy
        · rfl
    rw [refundAssets, refundAssets, ← hfirst]
    refine bind_congr_of_ok fun middle hmiddle ↦ ih ?_
    have hone : refundAssets env donor numerator denominator [asset] w = .ok middle := by
      simp [refundAssets, hmiddle]
    exact (refundAssets_undisturbed htoken hbusy hone).1.busy hbusy

end CampaignContract

theorem ReleaseMilestone.payPrimary_whileBusy {index : ℕ} {recipient : Address} {pending : ℤ}
    {asset : StellarAsset} :
    payPrimary env index recipient pending asset w =
      payPrimary env.whileBusy index recipient pending asset w := by
  unfold payPrimary
  cases asset.issuer with
  | none => rfl
  | some issuer =>
    dsimp only
    rw [balance_whileBusy hbusy]
    refine bind_congr_of_ok fun read hread ↦ ?_
    have hread_busy := (balance_undisturbed htoken hbusy hread).busy hbusy
    split_ifs
    · refine bind_congr_of_ok fun _ _ ↦ ?_
      rw [transfer_whileBusy hread_busy]
      rfl
    · rfl

namespace MultiAssetRelease

variable {index : ℕ} {recipient : Address} {milestoneRelease totalRaised total : ℤ}

theorem releaseAsset_whileBusy {asset : StellarAsset} :
    releaseAsset env index recipient milestoneRelease totalRaised asset w total =
      releaseAsset env.whileBusy index recipient milestoneRelease totalRaised asset w total := by
  unfold releaseAsset
  cases asset.issuer with
  | none => rfl
  | some token =>
    dsimp only
    rw [balance_whileBusy hbusy]
    refine bind_congr_of_ok fun read hread ↦ ?_
    have hread_busy := (balance_undisturbed htoken hbusy hread).busy hbusy
    cases computeAssetRelease (read.2.storage.getAssetRaised token) milestoneRelease
        totalRaised with
    | none => rfl
    | some amount =>
      dsimp only
      unfold payShare
      refine bind_congr_of_ok fun _ _ ↦ ?_
      dsimp only
      split_ifs
      · rfl
      · rw [transfer_whileBusy hread_busy]
        rfl

theorem releaseAssets_whileBusy {assets : List StellarAsset} :
    releaseAssets env index recipient milestoneRelease totalRaised assets w total =
      releaseAssets env.whileBusy index recipient milestoneRelease totalRaised assets w total := by
  induction assets generalizing w total with
  | nil => rfl
  | cons asset rest ih =>
    rw [releaseAssets, releaseAssets, ← releaseAsset_whileBusy htoken hbusy]
    refine bind_congr_of_ok fun middle hmiddle ↦ ih ?_
    obtain ⟨-, -, hundisturbed⟩ := releaseAsset_undisturbed htoken hbusy hmiddle
    exact Undisturbed.busy (w := { w with storage := { w.storage with assetRaised := _ } })
      hundisturbed hbusy

end MultiAssetRelease

end WhileBusy

section Entrypoints

variable {env : Env} {w : World} (htoken : env.host.token.Respectful)
include htoken

theorem CampaignContract.claimRefund_whileBusy (donor : Address) :
    claimRefund env donor w = claimRefund env.whileBusy donor w := by
  refine bind_congr_of_ok fun s hs ↦ bind_congr_of_ok fun _ _ ↦ bind_congr_of_ok fun _ _ ↦
    bind_congr_of_ok fun campaign hcampaign ↦ bind_congr_of_ok fun record _ ↦
    bind_congr_of_ok fun _ _ ↦ bind_congr_of_ok fun _ _ ↦ bind_congr_of_ok fun _ _ ↦ ?_
  obtain ⟨-, rfl⟩ := Storage.acquireLock_eq_ok_iff.mp hs
  have hfound := orFail_eq_ok_iff.mp hcampaign
  refine congrArg (· >>= _) (refundAssets_whileBusy htoken ⟨rfl, ?_⟩)
  exact Option.isSome_of_eq_some hfound

theorem CampaignContract.releaseMilestone_whileBusy (index : ℕ) (recipient : Address) :
    CampaignContract.releaseMilestone env index recipient w =
      CampaignContract.releaseMilestone env.whileBusy index recipient w := by
  refine bind_congr_of_ok fun campaign _ ↦ bind_congr_of_ok fun _ _ ↦ ?_
  refine congrArg (· >>= _) (bind_congr_of_ok fun s hs ↦ bind_congr_of_ok fun found hfound ↦
    bind_congr_of_ok fun _ _ ↦ bind_congr_of_ok fun _ _ ↦ bind_congr_of_ok fun _ _ ↦
    bind_congr_of_ok fun _ _ ↦ bind_congr_of_ok fun _ _ ↦ bind_congr_of_ok fun _ _ ↦
    bind_congr_of_ok fun _ _ ↦ ?_)
  obtain ⟨-, rfl⟩ := Storage.acquireLock_eq_ok_iff.mp hs
  refine congrArg (· >>= _) (ReleaseMilestone.payPrimary_whileBusy htoken ⟨rfl, ?_⟩)
  exact Option.isSome_of_eq_some (orFail_eq_ok_iff.mp hfound)

theorem CampaignContract.releaseMilestoneMultiAsset_whileBusy (index : ℕ) (recipient : Address) :
    CampaignContract.releaseMilestoneMultiAsset env index recipient w =
      CampaignContract.releaseMilestoneMultiAsset env.whileBusy index recipient w := by
  refine bind_congr_of_ok fun campaign _ ↦ bind_congr_of_ok fun _ _ ↦ ?_
  refine congrArg (· >>= _) (bind_congr_of_ok fun s hs ↦ bind_congr_of_ok fun found hfound ↦
    bind_congr_of_ok fun _ _ ↦ bind_congr_of_ok fun milestone _ ↦ bind_congr_of_ok fun _ _ ↦
    bind_congr_of_ok fun _ _ ↦ bind_congr_of_ok fun _ _ ↦ bind_congr_of_ok fun _ _ ↦
    bind_congr_of_ok fun released _ ↦ ?_)
  obtain ⟨-, rfl⟩ := Storage.acquireLock_eq_ok_iff.mp hs
  refine congrArg (· >>= _) (MultiAssetRelease.releaseAssets_whileBusy htoken ?_)
  rw [Storage.setMilestone_eq]
  exact ⟨rfl, Option.isSome_of_eq_some (orFail_eq_ok_iff.mp hfound)⟩

end Entrypoints

/-- The contract calls token contracts while it holds its lock, and at no other time: token
contracts that refuse other calls serve every invocation alike. -/
theorem exec_whileBusy {contract : Address} {overflowChecks : Bool} {token : TokenClient}
    (htoken : token.Respectful) (inv : Invocation) (w : World) :
    (openContract contract overflowChecks).exec token inv w =
      (openContract contract overflowChecks).exec token.whileBusy inv w := by
  have henv : (inv.env ⟨contract, overflowChecks, token⟩).host.token.Respectful := htoken
  refine bind_congr_of_ok fun _ _ ↦ ?_
  cases inv.call with
  | claimRefund donor => exact CampaignContract.claimRefund_whileBusy henv donor
  | releaseMilestone index recipient =>
    exact CampaignContract.releaseMilestone_whileBusy henv index recipient
  | releaseMilestoneMultiAsset index recipient =>
    exact CampaignContract.releaseMilestoneMultiAsset_whileBusy henv index recipient
  | _ => rfl

/-! ### What a call leaves -/

/-- The environment with standard token contracts. -/
def Env.standard (env : Env) : Env :=
  { env with host := { env.host with token := sep41 } }

section Entrypoints

variable {env : Env} {w next : World} (htoken : env.host.token.Respectful)
include htoken

/-- A claim leaves what it leaves with standard tokens that pay it. -/
theorem CampaignContract.claimRefund_standard {donor : Address}
    (h : claimRefund env donor w = .ok next) : ∃ ledger next',
      claimRefund env.standard donor { w with ledger := ledger } = .ok next' ∧
        Undisturbed next'.storage next.storage := by
  simp only [claimRefund, bind_eq_ok_iff, Storage.acquireLock_eq_ok_iff, orFail_eq_ok_iff,
    failIf_eq_ok_iff, Env.requireAuth_eq_ok_iff, checkRefundEligibility_eq_ok_iff,
    pure_eq_ok_iff] at h
  obtain ⟨_, ⟨hlock, rfl⟩, _, hauth, _, hfrozen, campaign, hcampaign, record, hrecord, _,
    ⟨hopen, hwindow, hclaimed⟩, total, htotal, numerator, hnumerator, paid, hwalk, s, hreport,
    rfl⟩ := h
  have hbusy : World.Busy ⟨Storage.setDonor { w.storage with reentrancyLock := true } donor
      { record with refundClaimed := true }, w.ledger, w.events, w.wasmHash⟩ :=
    ⟨rfl, Option.isSome_of_eq_some hcampaign⟩
  obtain ⟨hundisturbed, hcalculable⟩ := refundAssets_undisturbed htoken hbusy hwalk
  obtain ⟨found, status, endTime, concluded, frozen, blocked, _, hfound, hstorage⟩ := hundisturbed
  obtain rfl := Option.some.inj (hcampaign.symm.trans hfound)
  obtain ⟨report, hbuilt, rfl⟩ :=
    (refreshReportCache_eq_ok_iff _ (by rw [World.publish, hstorage])).mp hreport
  have hclaimable : ∀ ledger, Claimable env.standard donor { w with ledger := ledger } campaign
      record numerator := fun ledger ↦
    { lock_free := hlock
      authorised := hauth
      not_frozen := eq_false_of_ne_true hfrozen
      found := hcampaign
      donor_found := hrecord
      refunds_open := hopen
      in_window := hwindow
      not_claimed := hclaimed
      numerator_eq := ⟨total, htotal, hnumerator⟩
      calculable := hcalculable }
  have hreportable := reportable_of_report hbuilt
  have hpayable : ∃ ledger paidLedger, Ledger.transferAll env.host.contract donor
      (refundPayments (w.storage.getDonorAssetDonation donor) numerator campaign.raisedAmount
        campaign.issuers) ledger = some paidLedger :=
    ⟨_, Ledger.transferAll_uniform hauth.2.symm refundPayments_nonneg⟩
  obtain ⟨ledger, paidLedger, hledger⟩ := hpayable
  obtain ⟨next', hclaimed'⟩ := (hclaimable ledger).exists_claimed hreportable hledger
  obtain ⟨report', -, hstorage'⟩ := hclaimed'.storage
  refine ⟨ledger, next', (claimRefund_eq_ok_iff rfl).mpr ⟨campaign, record, numerator, hclaimed'⟩,
    ?_⟩
  rw [hstorage', World.publish, hstorage]
  exact ⟨campaign, status, endTime, concluded, frozen, blocked, some report, hcampaign, rfl⟩

/-- A single-asset release leaves what it leaves with standard tokens that pay it. -/
theorem CampaignContract.releaseMilestone_standard {index : ℕ} {recipient : Address}
    (h : CampaignContract.releaseMilestone env index recipient w = .ok next) : ∃ ledger next',
      CampaignContract.releaseMilestone env.standard index recipient { w with ledger := ledger }
        = .ok next' ∧ Undisturbed next'.storage next.storage := by
  simp only [CampaignContract.releaseMilestone, ReleaseMilestone.releaseMilestone,
    bind_eq_ok_iff, Storage.acquireLock_eq_ok_iff, orFail_eq_ok_iff, failIf_eq_ok_iff, not_not,
    Env.requireAuth_eq_ok_iff, checkedI128_eq_some_iff,
    ReleaseMilestone.checkPredecessor_eq_ok_iff, Storage.setMilestone_eq,
    Storage.incrementReleaseCount_eq_ok_iff, pure_eq_ok_iff] at h
  obtain ⟨campaign, hcampaign, _, hauth, _, ⟨_, ⟨hlock, rfl⟩, _, hsame, _, hfrozen, milestone,
    hmilestone, _, -, _, hunlocked, _, hpredecessor, _, ⟨hrange, rfl⟩, primary, hprimary, paid,
    hpayment, _, ⟨hcount, rfl⟩, rfl⟩, s, hreport, rfl⟩ := h
  obtain rfl : campaign = _ := Option.some.inj (hcampaign.symm.trans hsame)
  have hbusy : World.Busy ⟨{ w.storage with reentrancyLock := true }, w.ledger, w.events,
      w.wasmHash⟩ := ⟨rfl, Option.isSome_of_eq_some hcampaign⟩
  have hundisturbed := ReleaseMilestone.payPrimary_undisturbed htoken hbusy hpayment
  obtain ⟨found, status, endTime, concluded, frozen, blocked, _, hfound, hstorage⟩ := hundisturbed
  obtain rfl := Option.some.inj (hcampaign.symm.trans hfound)
  simp only [hstorage] at hcount hreport
  obtain ⟨report, hbuilt, rfl⟩ := (refreshReportCache_eq_ok_iff _ rfl).mp hreport
  have hreportable := reportable_of_report hbuilt
  have hreleasable : ∀ ledger, ReleaseMilestone.Releasable env.standard index
      { w with ledger := ledger } campaign milestone primary := fun ledger ↦
    { lock_free := hlock
      found := hcampaign
      authorised := hauth
      not_frozen := eq_false_of_ne_true hfrozen
      milestone_found := hmilestone
      unlocked := hunlocked
      predecessor := hpredecessor
      pending_range := hrange
      primary_found := hprimary
      count_range := hcount }
  obtain ⟨ledger, paidLedger, hledger⟩ := ReleaseMilestone.exists_primaryPayment
    env.host.contract recipient (milestone.targetAmount - milestone.releasedAmount) primary
  obtain ⟨next', hreleased⟩ := (hreleasable ledger).exists_released hreportable hledger
  obtain ⟨report', -, hstorage'⟩ := hreleased.storage
  refine ⟨ledger, next', (CampaignContract.releaseMilestone_eq_ok_iff rfl).mpr
    ⟨campaign, milestone, primary, hreleased⟩, ?_⟩
  rw [hstorage']
  exact ⟨campaign, status, endTime, concluded, frozen, blocked, some report, hcampaign, rfl⟩

/-- A multi-asset release leaves what it leaves with standard tokens that pay it. -/
theorem CampaignContract.releaseMilestoneMultiAsset_standard {index : ℕ} {recipient : Address}
    (h : CampaignContract.releaseMilestoneMultiAsset env index recipient w = .ok next) :
    ∃ ledger next', CampaignContract.releaseMilestoneMultiAsset env.standard index recipient
        { w with ledger := ledger } = .ok next' ∧
      Undisturbed next'.storage next.storage := by
  simp only [CampaignContract.releaseMilestoneMultiAsset,
    MultiAssetRelease.releaseMilestoneMultiAsset, bind_eq_ok_iff, Prod.exists,
    Storage.acquireLock_eq_ok_iff, orFail_eq_ok_iff, failIf_eq_ok_iff, not_not, not_lt,
    Env.requireAuth_eq_ok_iff, checkedI128_eq_some_iff, Storage.setMilestone_eq,
    Storage.setTotalRaised_eq_ok_iff, Storage.incrementReleaseCount_eq_ok_iff,
    pure_eq_ok_iff] at h
  obtain ⟨campaign, hcampaign, _, hauth, _, ⟨_, ⟨hlock, rfl⟩, _, hsame, _, hrecipient,
    milestone, hmilestone, _, hunlocked, _, htotal, _, ⟨hrange, rfl⟩, _, hpending, _,
    ⟨htarget, rfl⟩, paid, total, hwalk, _, ⟨hnew, rfl⟩, _, hnonneg, _, ⟨-, rfl⟩, _, ⟨hcount, rfl⟩,
    rfl⟩, s, hreport, rfl⟩ := h
  obtain rfl : campaign = _ := Option.some.inj (hcampaign.symm.trans hsame)
  rw [add_sub_cancel] at htarget hwalk
  obtain ⟨hdeductible, htotal_eq, hundisturbed⟩ := MultiAssetRelease.releaseAssets_undisturbed
    htoken (by exact ⟨rfl, Option.isSome_of_eq_some hcampaign⟩) hwalk
  rw [zero_add] at htotal_eq
  obtain ⟨found, status, endTime, concluded, frozen, blocked, _, hfound, hstorage⟩ := hundisturbed
  obtain rfl := Option.some.inj (hcampaign.symm.trans hfound)
  simp only [hstorage] at hcount hreport
  obtain ⟨report, hbuilt, rfl⟩ := (refreshReportCache_eq_ok_iff _ rfl).mp hreport
  have hreportable := reportable_of_report hbuilt
  have hpaid : total = MultiAssetRelease.milestonePaid w.storage campaign milestone := htotal_eq
  have hreleasable : ∀ ledger, MultiAssetRelease.Releasable env.standard index recipient
      { w with ledger := ledger } campaign milestone := fun ledger ↦
    { lock_free := hlock
      found := hcampaign
      authorised := hauth
      recipient_ne := hrecipient
      milestone_found := hmilestone
      unlocked := hunlocked
      total_ne := htotal
      pending_range := hrange
      pending_ne := hpending
      target_range := htarget
      deductible := hdeductible
      total_range := hpaid ▸ hnew
      total_nonneg := hpaid ▸ hnonneg
      count_range := hcount }
  have hpayable : ∃ ledger paidLedger, Ledger.transferAll env.host.contract recipient
      (MultiAssetRelease.milestonePayments w.storage campaign milestone) ledger =
        some paidLedger :=
    ⟨_, Ledger.transferAll_uniform (Ne.symm hrecipient) fun x hx ↦
      zero_le_one.trans (MultiAssetRelease.releasePayments_pos x hx)⟩
  obtain ⟨ledger, paidLedger, hledger⟩ := hpayable
  obtain ⟨next', hreleased⟩ := (hreleasable ledger).exists_released hreportable hledger
  obtain ⟨report', -, hstorage'⟩ := hreleased.storage
  refine ⟨ledger, next', (CampaignContract.releaseMilestoneMultiAsset_eq_ok_iff rfl).mpr
    ⟨campaign, milestone, hreleased⟩, ?_⟩
  rw [hstorage']
  have hwritten : max ((checkedI128 (w.storage.getTotalRaised - total)).getD 0) 0 =
      w.storage.getTotalRaised - MultiAssetRelease.milestonePaid w.storage campaign milestone := by
    rw [← hpaid]
    exact max_getD_checkedI128 hnew hnonneg
  exact ⟨campaign, status, endTime, concluded, frozen, blocked, some report, hcampaign,
    by rw [← hwritten]; rfl⟩

end Entrypoints

section Calls

variable {contract : Address} {overflowChecks : Bool} {token : TokenClient} {inv : Invocation}
  {w next : World}

/-- The entrypoints that pay nothing call no token contract. -/
theorem exec_of_not_paysOut (hcall : inv.call.paysOut = false) :
    (openContract contract overflowChecks).exec token inv w =
      (chain (standardHost contract overflowChecks)).exec (.invoke inv) w := by
  refine bind_congr_of_ok fun _ _ ↦ ?_
  cases hinv : inv.call with
  | claimRefund | releaseMilestone | releaseMilestoneMultiAsset =>
    rw [hinv] at hcall
    exact absurd hcall.symm Bool.false_ne_true
  | _ => rfl

/-- A successful call leaves what the same call leaves with standard tokens over some ledger, but
for what administrative calls nested in it wrote. -/
theorem exists_standard_exec (htoken : token.Respectful) (hw : Untouched w.storage)
    (h : (openContract contract overflowChecks).exec token inv w = .ok next) : ∃ ledger next',
      (chain (standardHost contract overflowChecks)).exec (.invoke inv) { w with ledger := ledger }
        = .ok next' ∧ Undisturbed next'.storage next.storage := by
  have henv : (inv.env ⟨contract, overflowChecks, token⟩).host.token.Respectful := htoken
  by_cases hcall : inv.call.paysOut = true
  · obtain ⟨htyped, hinvoked⟩ := exec_invoke_eq_ok_iff.mp h
    have hstandard : ∃ ledger next',
        invoke (inv.env (standardHost contract overflowChecks)) inv.call
          { w with ledger := ledger } = .ok next' ∧ Undisturbed next'.storage next.storage := by
      cases hinv : inv.call with
      | claimRefund donor =>
        rw [hinv] at hinvoked
        exact CampaignContract.claimRefund_standard henv hinvoked
      | releaseMilestone index recipient =>
        rw [hinv] at hinvoked
        exact CampaignContract.releaseMilestone_standard henv hinvoked
      | releaseMilestoneMultiAsset index recipient =>
        rw [hinv] at hinvoked
        exact CampaignContract.releaseMilestoneMultiAsset_standard henv hinvoked
      | _ =>
        rw [hinv] at hcall
        exact absurd hcall Bool.false_ne_true
    obtain ⟨ledger, next', hexec, hundisturbed⟩ := hstandard
    exact ⟨ledger, next', exec_invoke_eq_ok_iff.mpr ⟨htyped, hexec⟩, hundisturbed⟩
  · rw [exec_of_not_paysOut (eq_false_of_ne_true hcall)] at h
    have hcampaign := (step_of_exec hw h).campaign_isSome
    exact ⟨w.ledger, next, h, .refl (Option.isSome_iff_ne_none.mpr hcampaign)⟩

end Calls

/-! ### Runs among token contracts that call back -/

namespace Undisturbed

variable {s s' : Storage}

theorem sound (h : Undisturbed s s') (hs : Sound s) : Sound s' := by
  obtain ⟨campaign, status, endTime, concluded, frozen, blocked, report, hfound, rfl⟩ := h
  obtain ⟨v, hv⟩ := hs.established hfound
  exact .inr ⟨_, v, hv.of_amended status endTime concluded frozen blocked report⟩

theorem isReleased_iff (h : Undisturbed s s') (index : ℕ) :
    IsReleased s' index ↔ IsReleased s index := by
  obtain ⟨campaign, status, endTime, concluded, frozen, blocked, report, hfound, rfl⟩ := h
  rfl

theorem refunded_iff {w next : World} (h : Undisturbed w.storage next.storage) (donor : Address) :
    Refunded donor next ↔ Refunded donor w := by
  obtain ⟨campaign, status, endTime, concluded, frozen, blocked, report, hfound, hstorage⟩ := h
  rw [Refunded, hstorage]
  rfl

end Undisturbed

/-- The contract with every token contract that calls back. -/
def reentrantChain (contract : Address) (overflowChecks : Bool) :
    System (Interaction Invocation (Ledger Address Address)
      (openContract contract overflowChecks).Reentrant) World Failure :=
  (openContract contract overflowChecks).closed (openContract contract overflowChecks).Reentrant

/-- A run from deployment among token contracts that call back, with a receipt for every successful
call that is not nested in another. -/
abbrev ReentrantRun (contract : Address) (overflowChecks : Bool) (ledger : Ledger Address Address)
    (wasmHash : BitVec 256) :
    List (Receipt (Interaction Invocation (Ledger Address Address)
      (openContract contract overflowChecks).Reentrant) World) → World → Prop :=
  Run (reentrantChain contract overflowChecks) (.deployed ledger wasmHash)

section Runs

variable {contract : Address} {overflowChecks : Bool} {ledger : Ledger Address Address}
  {wasmHash : BitVec 256} {w next : World}

/-- A call is a step with standard tokens, but for what administrative calls nested in it wrote. -/
theorem exists_step {token : Subtype (openContract contract overflowChecks).Reentrant}
    {inv : Invocation} (hw : Sound w.storage)
    (h : (reentrantChain contract overflowChecks).exec (.call token inv) w = .ok next) :
    ∃ ledger next', Step (standardHost contract overflowChecks) (.invoke inv)
      { w with ledger := ledger } next' ∧ Undisturbed next'.storage next.storage := by
  obtain ⟨ledger, next', hexec, hundisturbed⟩ :=
    exists_standard_exec (respectful_of_reentrant token.2) hw.untouched h
  exact ⟨ledger, next', step_of_exec hw.untouched hexec, hundisturbed⟩

/-- Every state between calls is sound. -/
theorem ReentrantRun.sound
    {history : List (Receipt (Interaction Invocation (Ledger Address Address)
      (openContract contract overflowChecks).Reentrant) World)}
    (run : ReentrantRun contract overflowChecks ledger wasmHash history w) : Sound w.storage := by
  refine run.state_invariant (I := fun w ↦ Sound w.storage) (.inl rfl) ?_
  intro label before after hbefore hexec
  cases label with
  | call token inv =>
    obtain ⟨_, _, hstep, hundisturbed⟩ := exists_step hbefore hexec
    exact hundisturbed.sound (hstep.sound hbefore)
  | move ledger =>
    obtain rfl := Except.ok.inj hexec
    exact hbefore

theorem Sound.lock_free {s : Storage} (h : Sound s) : s.reentrancyLock = false := by
  rcases h with rfl | ⟨campaign, v, h⟩
  · rfl
  · exact h.lock_free

/-- What a call that is one of a kind did once with standard tokens, it did once. -/
theorem marksOnce_reentrant {Key : Type} {key : Call → Option Key} (Marked : Key → World → Prop)
    (hundisturbed : ∀ {w next : World}, Undisturbed w.storage next.storage → ∀ k,
      Marked k next ↔ Marked k w)
    (hledger : ∀ {w : World} {ledger} {k}, Marked k { w with ledger := ledger } ↔ Marked k w)
    (hfresh : ∀ {inv w next k}, Step (standardHost contract overflowChecks) (.invoke inv) w next →
      key inv.call = some k → ¬ Marked k w)
    (hmarks : ∀ {inv w next k}, Step (standardHost contract overflowChecks) (.invoke inv) w next →
      Sound w.storage → key inv.call = some k → Marked k next)
    (hkeeps : ∀ {inv w next k}, Step (standardHost contract overflowChecks) (.invoke inv) w next →
      Sound w.storage → Marked k w → Marked k next) :
    MarksOnce (reentrantChain contract overflowChecks) (.deployed ledger wasmHash)
      (Interaction.key fun inv ↦ key inv.call) Marked where
  fresh {_ label _ _ _} prior step hkey := by
    cases label with
    | call token inv =>
      obtain ⟨_, _, hstep, -⟩ := exists_step (ReentrantRun.sound prior) step
      exact mt hledger.mpr (hfresh hstep hkey)
    | move ledger => exact nomatch hkey
  marks {_ label _ _ _} prior step hkey := by
    cases label with
    | call token inv =>
      have hw := ReentrantRun.sound prior
      obtain ⟨_, _, hstep, hleft⟩ := exists_step hw step
      exact (hundisturbed hleft _).mpr (hmarks hstep hw hkey)
    | move ledger => exact nomatch hkey
  keeps {_ label _ _ _} prior step hmarked := by
    cases label with
    | call token inv =>
      have hw := ReentrantRun.sound prior
      obtain ⟨_, _, hstep, hleft⟩ := exists_step hw step
      exact (hundisturbed hleft _).mpr (hkeeps hstep hw (hledger.mpr hmarked))
    | move ledger =>
      obtain rfl := Except.ok.inj step
      exact hledger.mpr hmarked

/-- A call as the lock guards it: it called token contracts under the lock only, and it left what it
leaves with standard tokens over some ledger, but for what administrative calls nested in it
wrote. -/
structure GuardedCall (contract : Address) (overflowChecks : Bool) (token : TokenClient)
    (inv : Invocation) (w next : World) : Prop where
  under_lock : (openContract contract overflowChecks).exec token.whileBusy inv w = .ok next
  computed : ∃ ledger next',
    (chain (standardHost contract overflowChecks)).exec (.invoke inv) { w with ledger := ledger } =
      .ok next' ∧ Undisturbed next'.storage next.storage

/-- Among token contracts that call back, in every state between calls the lock is free; every call
is guarded; while an outer call runs, no nested call takes the lock, at any depth; no milestone is
released twice and no donor refunded twice. -/
theorem reentrancy_guarded
    {history : List (Receipt (Interaction Invocation (Ledger Address Address)
      (openContract contract overflowChecks).Reentrant) World)}
    (run : ReentrantRun contract overflowChecks ledger wasmHash history w) :
    w.storage.reentrancyLock = false ∧
    (∀ r ∈ history, ∀ token inv, r.label = .call token inv →
      GuardedCall contract overflowChecks token.1 inv r.before r.after) ∧
    (∀ (depth : ℕ) (outer returned : World) nested, outer.Busy →
      Run ((openContract contract overflowChecks).closed
        ((openContract contract overflowChecks).ReentrantTo depth)) outer nested returned →
      ∀ r ∈ nested, r.label.calls (fun inv ↦ inv.call.locks) = false) ∧
    (history.Pairwise fun later earlier ↦
      ∀ index, later.label.key (fun inv ↦ inv.call.releasedIndex) = some index →
        earlier.label.key (fun inv ↦ inv.call.releasedIndex) ≠ some index) ∧
    history.Pairwise fun later earlier ↦
      ∀ donor, later.label.key (fun inv ↦ inv.call.claimant) = some donor →
        earlier.label.key (fun inv ↦ inv.call.claimant) ≠ some donor := by
  refine ⟨(ReentrantRun.sound run).lock_free, ?_,
    fun depth outer returned nested hbusy hnested ↦ (not_locks_of_busy hnested hbusy).2,
    run.once (marksOnce_reentrant (fun index w ↦ IsReleased w.storage index)
      (fun h index ↦ h.isReleased_iff index) Iff.rfl
      (fun hstep hindex ↦ hstep.not_isReleased hindex)
      (fun hstep hw hindex ↦ hstep.isReleased_of_releasedIndex hw hindex)
      (fun hstep hw hreleased ↦ hstep.isReleased hw hreleased)),
    run.once (marksOnce_reentrant Refunded (fun h donor ↦ h.refunded_iff donor) Iff.rfl
      (fun hstep hclaimant ↦ (hstep.claimant_refunded hclaimant).1)
      (fun hstep _ hclaimant ↦ (hstep.claimant_refunded hclaimant).2)
      (fun hstep _ hrefunded ↦ hstep.refunded hrefunded))⟩
  intro r hr token inv hlabel
  obtain ⟨hexec, _, hprior⟩ := run.fired hr
  rw [hlabel] at hexec
  have hrespectful := respectful_of_reentrant token.2
  exact
    { under_lock := (exec_whileBusy hrespectful inv r.before).symm.trans hexec
      computed := exists_standard_exec hrespectful (ReentrantRun.sound hprior).untouched hexec }

end Runs

namespace Sample

/-- A signed invocation. -/
def signed (signer : Address) (call : Call) : Invocation := ⟨20, 2, [signer], call⟩

/-- A token whose transfers first let the donor claim once more. -/
def reclaiming : TokenClient where
  balance := sep41.balance
  transfer t source target amount w :=
    sep41.transfer t source target amount
      (((openContract contract true).exec sep41 (signed donor (.claimRefund donor)) w).toOption.getD
        w)

/-- A standard transfer moves the ledger. -/
theorem run_sep41 {Admitted : TokenClient → Prop} {t source target : Address} {amount : ℤ}
    {w next : World} (h : sep41.transfer t source target amount w = .ok next) :
    ∃ history, Run ((openContract contract true).closed Admitted) w history next := by
  simp only [sep41, bind_eq_ok_iff, pure_eq_ok_iff] at h
  obtain ⟨ledger, -, rfl⟩ := h
  have hmove : ((openContract contract true).closed Admitted).exec (.move ledger) w =
      .ok { w with ledger := ledger } := rfl
  exact ⟨_, Run.start.accept hmove⟩

theorem reentrantTo_sep41 : (openContract contract true).ReentrantTo 1 sep41 := by
  rintro w next (⟨t, account, balance, h⟩ | ⟨t, source, target, amount, h⟩)
  · obtain ⟨-, rfl⟩ := Prod.mk.inj (Except.ok.inj h)
    exact ⟨[], .start⟩
  · exact run_sep41 h

theorem reentrantTo_reclaiming : (openContract contract true).ReentrantTo 2 reclaiming := by
  rintro w next (⟨t, account, balance, h⟩ | ⟨t, source, target, amount, h⟩)
  · obtain ⟨-, rfl⟩ := Prod.mk.inj (Except.ok.inj h)
    exact ⟨[], .start⟩
  · obtain ⟨transfers, htransfer⟩ := run_sep41 h
    cases hclaim : (openContract contract true).exec sep41
      (signed donor (.claimRefund donor)) w with
    | error failure =>
      have hrejected : ((openContract contract true).closed
          ((openContract contract true).ReentrantTo 1)).exec
          (.call ⟨sep41, reentrantTo_sep41⟩ (signed donor (.claimRefund donor))) w =
            .error failure := hclaim
      rw [hclaim] at htransfer
      exact ⟨_, (Run.start.reject hrejected).append htransfer⟩
    | ok claimed =>
      have haccepted : ((openContract contract true).closed
          ((openContract contract true).ReentrantTo 1)).exec
          (.call ⟨sep41, reentrantTo_sep41⟩ (signed donor (.claimRefund donor))) w =
            .ok claimed := hclaim
      rw [hclaim] at htransfer
      exact ⟨_, (Run.start.accept haccepted).append htransfer⟩

/-- A donor gives, the creator cancels, and the donor claims in a token that claims once more. -/
def reclaim : List (Interaction Invocation (Ledger Address Address)
    (openContract contract true).Reentrant) :=
  [.call ⟨sep41, 1, reentrantTo_sep41⟩ (signed creator (.initializeCampaign creator 1000 1000
      [⟨"XLM", some token⟩] [milestone 1000] 0)),
    .call ⟨sep41, 1, reentrantTo_sep41⟩ (signed donor (.donate donor 100 (.stellar token))),
    .call ⟨sep41, 1, reentrantTo_sep41⟩ (signed creator .cancelCampaign),
    .call ⟨reclaiming, 2, reentrantTo_reclaiming⟩ (signed donor (.claimRefund donor))]

end Sample

theorem reentrancy_guarded_reclaim :
    ((reentrantChain Sample.contract true).replay Sample.reclaim
      (.deployed (.uniform 1000) 0)).2.storage.reentrancyLock = false ∧
    ((reentrantChain Sample.contract true).replay Sample.reclaim
      (.deployed (.uniform 1000) 0)).2.ledger.balance Sample.token Sample.donor = 1100 := by
  obtain ⟨hlock, -⟩ := reentrancy_guarded
    (System.run_replay (reentrantChain Sample.contract true) Sample.reclaim
      (.deployed (.uniform 1000) 0))
  refine ⟨hlock, ?_⟩
  decide +kernel

end OrbitChain.Campaign
