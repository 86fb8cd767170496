import OrbitChain.Campaign.Contract
import OrbitChain.Foundations.Callbacks

/-!
# Calls from inside a call

Token contracts are somebody else's code. While the contract waits for a balance or a transfer, a
token may change its own ledger in any way and call the contract's entrypoints back, any number of
them, signed by anyone, with tokens that do the same (`openContract`).

While an outer call runs it holds the re-entrancy lock of an initialized contract (`World.Busy`).
The entrypoints that take the lock then fail, initialization fails because there is a campaign, and
what is left are administrative calls: the contract is as it was but for what they write
(`Undisturbed`), whatever the token did. The three entrypoints that pay through tokens call them
under the lock only, and compute from storage that nested calls leave alone.
-/

set_option autoImplicit false
set_option relaxedAutoImplicit false

namespace OrbitChain.Campaign

open Foundations

namespace Call

/-- The entrypoints that take the re-entrancy lock. -/
def locks : Call → Bool
  | .donate _ _ _ | .claimRefund _ | .releaseMilestone _ _ | .releaseMilestoneMultiAsset _ _ => true
  | _ => false

/-- The entrypoints that pay through token contracts. -/
def paysOut : Call → Bool
  | .claimRefund _ | .releaseMilestone _ _ | .releaseMilestoneMultiAsset _ _ => true
  | _ => false

end Call

/-- An outer call is running: the lock of an initialized contract is held. -/
def World.Busy (w : World) : Prop :=
  w.storage.reentrancyLock = true ∧ w.storage.campaignData.isSome = true

instance (w : World) : Decidable w.Busy :=
  inferInstanceAs (Decidable (_ ∧ _))

/-- The worlds in which a token contract returns from a balance or a transfer. -/
def TokenClient.Returns (token : TokenClient) (w next : World) : Prop :=
  (∃ t account balance, token.balance t account w = .ok (balance, next)) ∨
    ∃ t source target amount, token.transfer t source target amount w = .ok next

/-- The contract between token contracts that may call it back. The ledger is their own state, and
they change it as they like. -/
def openContract (contract : Address) (overflowChecks : Bool) :
    OpenSystem TokenClient Invocation (Ledger Address Address) World Failure where
  exec token inv w := (chain ⟨contract, overflowChecks, token⟩).exec (.invoke inv) w
  move ledger w := { w with ledger := ledger }
  Returns := TokenClient.Returns

/-- A storage of an initialized contract that administrative calls may have left of another: the
freeze flag, the block list and the report may differ, and the status, the deadline and the
conclusion of the campaign. -/
def Undisturbed (s s' : Storage) : Prop :=
  ∃ campaign status endTime concluded frozen blockedAsset cachedReport,
    s.campaignData = some campaign ∧
    s' = { s with
      campaignData := some { campaign with
        status := status, endTime := endTime, concludedAtLedger := concluded }
      frozen := frozen
      blockedAsset := blockedAsset
      cachedReport := cachedReport }

namespace Undisturbed

variable {s s' s'' : Storage}

theorem refl (h : s.campaignData.isSome = true) : Undisturbed s s := by
  obtain ⟨campaign, hfound⟩ := Option.isSome_iff_exists.mp h
  refine ⟨campaign, campaign.status, campaign.endTime, campaign.concludedAtLedger, s.frozen,
    s.blockedAsset, s.cachedReport, hfound, ?_⟩
  rw [← hfound]

theorem trans (h : Undisturbed s s') (h' : Undisturbed s' s'') : Undisturbed s s'' := by
  obtain ⟨campaign, _, _, _, _, _, _, hfound, rfl⟩ := h
  obtain ⟨_, status, endTime, concluded, frozen, blocked, report, hfound', rfl⟩ := h'
  obtain rfl := Option.some.inj hfound'
  exact ⟨campaign, status, endTime, concluded, frozen, blocked, report, hfound, rfl⟩

/-- Recorded amounts are written on top of what administration wrote. -/
theorem withAssetRaised (h : Undisturbed s s') (recorded : Address → Option ℤ) :
    Undisturbed { s with assetRaised := recorded } { s' with assetRaised := recorded } := by
  obtain ⟨campaign, status, endTime, concluded, frozen, blocked, report, hfound, rfl⟩ := h
  exact ⟨campaign, status, endTime, concluded, frozen, blocked, report, hfound, rfl⟩

theorem assetRaised_eq (h : Undisturbed s s') : s'.assetRaised = s.assetRaised := by
  obtain ⟨campaign, status, endTime, concluded, frozen, blocked, report, hfound, rfl⟩ := h
  rfl

theorem donorAssetDonation_eq (h : Undisturbed s s') :
    s'.donorAssetDonation = s.donorAssetDonation := by
  obtain ⟨campaign, status, endTime, concluded, frozen, blocked, report, hfound, rfl⟩ := h
  rfl

theorem busy {w next : World} (h : Undisturbed w.storage next.storage) (hbusy : w.Busy) :
    next.Busy := by
  obtain ⟨campaign, status, endTime, concluded, frozen, blocked, report, hfound, hstorage⟩ := h
  rw [World.Busy, hstorage]
  exact ⟨hbusy.1, rfl⟩

end Undisturbed

/-! ### Nested calls -/

section Nested

variable {env : Env} {call : Call} {w next : World}

/-- The entrypoints that take the lock find it free. -/
theorem lock_free_of_invoke (hcall : call.locks = true) (h : invoke env call w = .ok next) :
    w.storage.reentrancyLock = false := by
  cases call with
  | donate donor amount asset =>
    simp only [invoke, CampaignContract.donate, bind_eq_ok_iff, Storage.acquireLock_eq_ok_iff] at h
    obtain ⟨_, ⟨hlock, -⟩, -⟩ := h
    exact hlock
  | claimRefund donor =>
    simp only [invoke, CampaignContract.claimRefund, bind_eq_ok_iff,
      Storage.acquireLock_eq_ok_iff] at h
    obtain ⟨_, ⟨hlock, -⟩, -⟩ := h
    exact hlock
  | releaseMilestone index recipient =>
    simp only [invoke, CampaignContract.releaseMilestone, ReleaseMilestone.releaseMilestone,
      bind_eq_ok_iff, Storage.acquireLock_eq_ok_iff] at h
    obtain ⟨_, -, _, -, _, ⟨_, ⟨hlock, -⟩, -⟩, -⟩ := h
    exact hlock
  | releaseMilestoneMultiAsset index recipient =>
    simp only [invoke, CampaignContract.releaseMilestoneMultiAsset,
      MultiAssetRelease.releaseMilestoneMultiAsset, bind_eq_ok_iff,
      Storage.acquireLock_eq_ok_iff] at h
    obtain ⟨_, -, _, -, _, ⟨_, ⟨hlock, -⟩, -⟩, -⟩ := h
    exact hlock
  | _ => exact absurd hcall Bool.false_ne_true

/-- Initialization finds no campaign. -/
theorem initializeCampaign_fresh {creator : Address} {goalAmount : ℤ} {endTime : ℕ}
    {acceptedAssets : List StellarAsset} {milestones : List MilestoneData}
    {minDonationAmount : ℤ}
    (h : CampaignContract.initializeCampaign env creator goalAmount endTime acceptedAssets
      milestones minDonationAmount w = .ok next) : w.storage.campaignData.isSome = false := by
  simp only [CampaignContract.initializeCampaign, bind_eq_ok_iff, failIf_eq_ok_iff] at h
  obtain ⟨_, -, _, hfresh, -⟩ := h
  exact eq_false_of_ne_true hfresh

/-- While an outer call runs, only administrative calls succeed. -/
theorem isAdministrative_of_busy (hbusy : w.Busy) (h : invoke env call w = .ok next) :
    call.isAdministrative = true := by
  cases call with
  | initializeCampaign creator goalAmount endTime acceptedAssets milestones minDonationAmount =>
    exact absurd ((initializeCampaign_fresh h).symm.trans hbusy.2) Bool.false_ne_true
  | donate donor amount asset | claimRefund donor | releaseMilestone index recipient
  | releaseMilestoneMultiAsset index recipient =>
    exact absurd ((lock_free_of_invoke rfl h).symm.trans hbusy.1) Bool.false_ne_true
  | _ => rfl

theorem Call.locks_of_isAdministrative (h : call.isAdministrative = true) : call.locks = false := by
  cases call with
  | donate | claimRefund | releaseMilestone | releaseMilestoneMultiAsset =>
    exact absurd h Bool.false_ne_true
  | _ => rfl

/-- A nested call leaves the outer one undisturbed, whatever its token contracts do. -/
theorem undisturbed_of_busy (hbusy : w.Busy) (h : invoke env call w = .ok next) :
    Undisturbed w.storage next.storage := by
  obtain ⟨campaign, endTime, concluded, hadministered⟩ :=
    administered_of_invoke (isAdministrative_of_busy hbusy h) h
  obtain ⟨frozen, blocked, report, hstorage⟩ := hadministered.storage
  exact ⟨campaign, _, endTime, concluded, frozen, blocked, report, hadministered.found, hstorage⟩

end Nested

/-- A token contract that leaves a running call undisturbed. -/
def TokenClient.Respectful (token : TokenClient) : Prop :=
  ∀ w next, token.Returns w next → w.Busy → Undisturbed w.storage next.storage

section Tokens

variable {contract : Address} {overflowChecks : Bool}

/-- Whatever a token contract that calls back does, it leaves a running call undisturbed. -/
theorem respectful_of_reentrant {token : TokenClient}
    (h : (openContract contract overflowChecks).Reentrant token) : token.Respectful := by
  intro w next hreturns hbusy
  refine (h.guarded (I := fun w' ↦ w'.Busy ∧ Undisturbed w.storage w'.storage) ?_ ?_ hreturns
    ⟨hbusy, .refl hbusy.2⟩).2
  · intro ledger w' hw'
    exact hw'
  · rintro client inv before after ⟨hbefore, hundisturbed⟩ hexec
    have hnested := undisturbed_of_busy hbefore (exec_invoke_eq_ok_iff.mp hexec).2
    exact ⟨hnested.busy hbefore, hundisturbed.trans hnested⟩

/-- While an outer call runs, no nested call that takes the lock succeeds. -/
theorem not_locks_of_busy {Admitted : TokenClient → Prop} {w next : World}
    {nested : List (Receipt (Interaction Invocation (Ledger Address Address) Admitted) World)}
    (run : Run ((openContract contract overflowChecks).closed Admitted) w nested next)
    (hbusy : w.Busy) :
    next.Busy ∧ ∀ r ∈ nested, r.label.calls (fun inv ↦ inv.call.locks) = false := by
  refine run.invariant
    (I := fun nested next ↦ next.Busy ∧
      ∀ r ∈ nested, r.label.calls (fun inv ↦ inv.call.locks) = false) ⟨hbusy, by simp⟩ ?_
  rintro earlier before label after - ⟨hbefore, hearlier⟩ hexec
  cases label with
  | call token inv =>
    have hinvoked := (exec_invoke_eq_ok_iff.mp hexec).2
    refine ⟨(undisturbed_of_busy hbefore hinvoked).busy hbefore, fun r hr ↦ ?_⟩
    rcases List.mem_cons.mp hr with rfl | hr
    · exact Call.locks_of_isAdministrative (isAdministrative_of_busy hbefore hinvoked)
    · exact hearlier r hr
  | move ledger =>
    obtain rfl := Except.ok.inj hexec
    refine ⟨hbefore, fun r hr ↦ ?_⟩
    rcases List.mem_cons.mp hr with rfl | hr
    · rfl
    · exact hearlier r hr

end Tokens

/-! ### Payments through token contracts that call back -/

section Walks

variable {env : Env} {w next : World} (htoken : env.host.token.Respectful) (hbusy : w.Busy)
include htoken hbusy

theorem balance_undisturbed {t account : Address} {balance : ℤ}
    (h : env.host.token.balance t account w = .ok (balance, next)) :
    Undisturbed w.storage next.storage :=
  htoken w next (.inl ⟨t, account, balance, h⟩) hbusy

theorem transfer_undisturbed {t source target : Address} {amount : ℤ}
    (h : env.host.token.transfer t source target amount w = .ok next) :
    Undisturbed w.storage next.storage :=
  htoken w next (.inr ⟨t, source, target, amount, h⟩) hbusy

namespace CampaignContract

variable {donor : Address} {numerator denominator : ℤ}

theorem payRefund_undisturbed {token : Address} {refund : ℤ}
    (h : payRefund env donor token refund w = .ok next) : Undisturbed w.storage next.storage := by
  unfold payRefund at h
  split_ifs at h with hrefund
  · simp only [bind_eq_ok_iff, Prod.exists, pure_eq_ok_iff] at h
    obtain ⟨balance, middle, hbalance, _, -, paid, htransfer, rfl⟩ := h
    have hmiddle := balance_undisturbed htoken hbusy hbalance
    have hpaid := transfer_undisturbed htoken (hmiddle.busy hbusy) htransfer
    exact hmiddle.trans hpaid
  · obtain rfl := pure_eq_ok_iff.mp h
    exact .refl hbusy.2

/-- The walk of a claim leaves the contract undisturbed, and every amount due could be computed from
what the donor had given when it started. -/
theorem refundAssets_undisturbed {assets : List StellarAsset}
    (h : refundAssets env donor numerator denominator assets w = .ok next) :
    Undisturbed w.storage next.storage ∧
      ∀ token ∈ assets.filterMap StellarAsset.issuer,
        0 < w.storage.getDonorAssetDonation donor token →
        0 < denominator ∧ InI128 (w.storage.getDonorAssetDonation donor token * numerator) := by
  induction assets generalizing w with
  | nil =>
    obtain rfl := pure_eq_ok_iff.mp h
    exact ⟨.refl hbusy.2, by simp⟩
  | cons asset rest ih =>
    simp only [refundAssets, bind_eq_ok_iff] at h
    obtain ⟨middle, hfirst, hrest⟩ := h
    have hentry : Undisturbed w.storage middle.storage ∧
        ∀ token ∈ asset.issuer.toList, 0 < w.storage.getDonorAssetDonation donor token →
          0 < denominator ∧
            InI128 (w.storage.getDonorAssetDonation donor token * numerator) := by
      unfold refundAsset at hfirst
      cases hissuer : asset.issuer with
      | none =>
        rw [hissuer] at hfirst
        obtain rfl := pure_eq_ok_iff.mp hfirst
        exact ⟨.refl hbusy.2, by simp⟩
      | some token =>
        simp only [hissuer] at hfirst
        split_ifs at hfirst with hdonated
        · obtain ⟨refund, hrefund, hpaid⟩ := bind_eq_ok_iff.mp hfirst
          obtain ⟨hdenominator, hrange, -⟩ := calculateRefundAmount_eq_ok_iff.mp hrefund
          exact ⟨payRefund_undisturbed htoken hbusy hpaid,
            by simpa using fun _ ↦ ⟨hdenominator, hrange⟩⟩
        · obtain rfl := pure_eq_ok_iff.mp hfirst
          exact ⟨.refl hbusy.2, by simpa using fun hpos ↦ absurd hpos hdonated⟩
    obtain ⟨hmiddle, hcalculable⟩ := hentry
    obtain ⟨hnext, hcalculable'⟩ := ih (hmiddle.busy hbusy) hrest
    have hsame : middle.storage.getDonorAssetDonation donor =
        w.storage.getDonorAssetDonation donor := by
      funext token
      rw [Storage.getDonorAssetDonation, hmiddle.donorAssetDonation_eq]
      rfl
    rw [hsame] at hcalculable'
    have hsplit : (asset :: rest).filterMap StellarAsset.issuer =
        asset.issuer.toList ++ rest.filterMap StellarAsset.issuer := by
      cases hissuer : asset.issuer <;> simp [hissuer]
    refine ⟨hmiddle.trans hnext, fun token hmem ↦ ?_⟩
    rw [hsplit] at hmem
    exact (List.mem_append.mp hmem).elim (hcalculable token) (hcalculable' token)

end CampaignContract

/-- The payment of a single-asset release leaves the contract undisturbed. -/
theorem ReleaseMilestone.payPrimary_undisturbed {index : ℕ} {recipient : Address} {pending : ℤ}
    {asset : StellarAsset} (h : payPrimary env index recipient pending asset w = .ok next) :
    Undisturbed w.storage next.storage := by
  unfold payPrimary at h
  cases hissuer : asset.issuer with
  | none =>
    rw [hissuer] at h
    obtain rfl := pure_eq_ok_iff.mp h
    exact .refl hbusy.2
  | some issuer =>
    simp only [hissuer, bind_eq_ok_iff, Prod.exists] at h
    obtain ⟨balance, middle, hbalance, h⟩ := h
    have hmiddle := balance_undisturbed htoken hbusy hbalance
    split_ifs at h with hpays
    · simp only [bind_eq_ok_iff, pure_eq_ok_iff] at h
      obtain ⟨_, -, paid, htransfer, rfl⟩ := h
      have hpaid := transfer_undisturbed htoken (hmiddle.busy hbusy) htransfer
      exact hmiddle.trans hpaid
    · obtain rfl := pure_eq_ok_iff.mp h
      exact hmiddle

namespace MultiAssetRelease

variable {index : ℕ} {recipient : Address} {milestoneRelease totalRaised total total' : ℤ}

/-- Paying a share lowers the recorded amount of its token and leaves the rest undisturbed. -/
theorem payShare_undisturbed {token : Address} {assetCode : String} {balance amount : ℤ}
    {before : World} (hamount : 1 ≤ amount)
    (hbefore : Undisturbed before.storage w.storage)
    (h : payShare env index recipient token assetCode balance
      (before.storage.getAssetRaised token) amount total w = .ok (next, total')) :
    Deductible before.storage.assetRaised total [(token, amount)] ∧ total' = total + amount ∧
      Undisturbed { before.storage with
        assetRaised := deductAll before.storage.assetRaised [(token, amount)] } next.storage := by
  simp only [payShare, bind_eq_ok_iff, failIf_eq_ok_iff, not_lt] at h
  obtain ⟨_, hbalance, h⟩ := h
  rw [min_eq_left hbalance, if_neg (by unfold minTransferAmount; omega)] at h
  simp only [bind_eq_ok_iff, orFail_eq_ok_iff, pure_eq_ok_iff, checkedI128_eq_some_iff,
    failIf_eq_ok_iff, not_lt, Storage.setAssetRaised_eq_ok_iff, Prod.mk.injEq] at h
  obtain ⟨paid, htransfer, _, ⟨hrange, rfl⟩, _, hnonneg, _, ⟨-, rfl⟩, _, ⟨htotal, rfl⟩, rfl, rfl⟩ :=
    h
  have hpaid := hbefore.trans (transfer_undisturbed htoken hbusy htransfer)
  have hwritten := hpaid.withAssetRaised (deductAll before.storage.assetRaised [(token, amount)])
  have hdeducted : Function.update paid.storage.assetRaised token
      (some (before.storage.getAssetRaised token - amount)) =
        deductAll before.storage.assetRaised [(token, amount)] := by
    rw [hpaid.assetRaised_eq]
    rfl
  rw [← hdeducted] at hwritten ⊢
  exact ⟨⟨hrange, hnonneg, htotal, trivial⟩, rfl, hwritten⟩

/-- One entry pays what the recorded amounts it finds ask for. -/
theorem releaseAsset_undisturbed {asset : StellarAsset}
    (h : releaseAsset env index recipient milestoneRelease totalRaised asset w total
      = .ok (next, total')) :
    Deductible w.storage.assetRaised total
        (entryPayments milestoneRelease totalRaised w.storage.assetRaised asset) ∧
      total' = total +
        ((entryPayments milestoneRelease totalRaised w.storage.assetRaised asset).map
          Prod.snd).sum ∧
      Undisturbed { w.storage with
        assetRaised := deductAll w.storage.assetRaised
          (entryPayments milestoneRelease totalRaised w.storage.assetRaised asset) }
        next.storage := by
  unfold releaseAsset at h
  unfold entryPayments
  cases hissuer : asset.issuer with
  | none =>
    simp only [hissuer, pure_eq_ok_iff, Prod.mk.injEq] at h
    obtain ⟨rfl, rfl⟩ := h
    exact ⟨trivial, by simp, .refl hbusy.2⟩
  | some token =>
    simp only [hissuer, bind_eq_ok_iff, Prod.exists] at h
    obtain ⟨balance, middle, hbalance, h⟩ := h
    have hmiddle := balance_undisturbed htoken hbusy hbalance
    have hsame : middle.storage.getAssetRaised token = w.storage.getAssetRaised token := by
      rw [Storage.getAssetRaised, hmiddle.assetRaised_eq]
      rfl
    have hrecorded : w.storage.getAssetRaised token = (w.storage.assetRaised token).getD 0 := rfl
    rw [hsame] at h
    simp only [← hrecorded]
    cases hrelease : computeAssetRelease (w.storage.getAssetRaised token) milestoneRelease
        totalRaised with
    | none =>
      simp only [hrelease, pure_eq_ok_iff, Prod.mk.injEq] at h
      obtain ⟨rfl, rfl⟩ := h
      exact ⟨trivial, by simp, hmiddle⟩
    | some amount =>
      simp only [hrelease] at h
      have hamount := (computeAssetRelease_eq_some hrelease).2.2.2.1
      obtain ⟨hdeductible, htotal, hnext⟩ :=
        payShare_undisturbed htoken (hmiddle.busy hbusy) hamount hmiddle h
      exact ⟨hdeductible, by simpa using htotal, hnext⟩

/-- The walk of a multi-asset release deducts the payments that the recorded amounts asked for when
it started, and leaves the rest undisturbed. -/
theorem releaseAssets_undisturbed {assets : List StellarAsset}
    (h : releaseAssets env index recipient milestoneRelease totalRaised assets w total
      = .ok (next, total')) :
    Deductible w.storage.assetRaised total
        (releasePayments milestoneRelease totalRaised w.storage.assetRaised assets) ∧
      total' = total +
        ((releasePayments milestoneRelease totalRaised w.storage.assetRaised assets).map
          Prod.snd).sum ∧
      Undisturbed { w.storage with
        assetRaised := deductAll w.storage.assetRaised
          (releasePayments milestoneRelease totalRaised w.storage.assetRaised assets) }
        next.storage := by
  induction assets generalizing w total with
  | nil =>
    simp only [releaseAssets, pure_eq_ok_iff, Prod.mk.injEq] at h
    obtain ⟨rfl, rfl⟩ := h
    exact ⟨trivial, by simp [releasePayments], .refl hbusy.2⟩
  | cons asset rest ih =>
    simp only [releaseAssets, bind_eq_ok_iff, Prod.exists] at h
    obtain ⟨middle, paid, hfirst, hrest⟩ := h
    obtain ⟨hentry, rfl, hmiddle⟩ := releaseAsset_undisturbed htoken hbusy hfirst
    have hmiddle_busy : middle.Busy := by
      refine Undisturbed.busy (w := { w with storage := { w.storage with assetRaised := _ } })
        hmiddle hbusy
    obtain ⟨hdeductible, rfl, hnext⟩ := ih hmiddle_busy hrest
    have hrecorded := hmiddle.assetRaised_eq
    simp only at hrecorded
    rw [hrecorded] at hdeductible hnext
    have hwritten := hmiddle.withAssetRaised
      (deductAll middle.storage.assetRaised
        (releasePayments milestoneRelease totalRaised middle.storage.assetRaised rest))
    rw [hrecorded] at hwritten
    rw [releasePayments, deductible_append, deductAll_append, List.map_append, List.sum_append]
    refine ⟨⟨hentry, hdeductible⟩, ?_, hwritten.trans hnext⟩
    rw [hrecorded, add_assoc]

end MultiAssetRelease

end Walks

end OrbitChain.Campaign
