import OrbitChain.Campaign.IncrementalPayout

/-!
# Releases that pay

A single-asset release marks its milestone as released whether or not it paid. It pays the whole
pending amount, or fails, when the first accepted asset has a token contract of which the contract
holds something; otherwise it pays nothing and succeeds. A milestone that counts as released has
been paid exactly when its release found the primary asset held.
-/

set_option autoImplicit false
set_option relaxedAutoImplicit false

namespace OrbitChain.Campaign

open Foundations

/-- The asset that a single-asset release pays in. -/
def Storage.primaryAsset (s : Storage) : Option StellarAsset :=
  s.campaignData.bind fun campaign ↦ campaign.acceptedAssets.head?

/-- The pending amount went from the contract to the recipient in the primary asset, and one event
carries it. -/
def PaidInFull (contract recipient : Address) (index timestamp : ℕ) (w next : World) : Prop :=
  ∃ assetCode issuer, w.storage.primaryAsset = some ⟨assetCode, some issuer⟩ ∧
    next.ledger.balance issuer recipient = w.ledger.balance issuer recipient +
      (w.storage.target index - w.storage.released index) ∧
    next.ledger.balance issuer contract = w.ledger.balance issuer contract -
      (w.storage.target index - w.storage.released index) ∧
    next.events = w.events ++ [.milestoneReleased index
      (w.storage.target index - w.storage.released index) assetCode recipient timestamp]

/-- A release of a pending amount to somebody else is paid in full. -/
def PaysPending (contract : Address) (r : Receipt Action World) : Prop :=
  match r.label with
  | .invoke ⟨timestamp, _, _, .releaseMilestone index recipient⟩ =>
    0 < r.before.storage.target index - r.before.storage.released index →
      recipient ≠ contract → PaidInFull contract recipient index timestamp r.before r.after
  | _ => True

/-- A release of a pending amount to somebody else finds the primary asset held. -/
def FindsPrimary (contract : Address) (r : Receipt Action World) : Prop :=
  match r.label with
  | .invoke ⟨_, _, _, .releaseMilestone index recipient⟩ =>
    0 < r.before.storage.target index - r.before.storage.released index →
      recipient ≠ contract → PrimaryHeld contract r.before
  | _ => True

instance (contract : Address) (r : Receipt Action World) : Decidable (FindsPrimary contract r) :=
  match r with
  | ⟨.transfer _ _ _ _, _, _⟩ => inferInstanceAs (Decidable True)
  | ⟨.invoke ⟨_, _, _, call⟩, _, _⟩ =>
    match call with
    | .releaseMilestone _ _ => inferInstanceAs (Decidable (_ → _ → _))
    | .initializeCampaign _ _ _ _ _ _ | .donate _ _ _ | .claimRefund _ | .endCampaign
    | .cancelCampaign | .extendDeadline _ | .releaseMilestoneMultiAsset _ _ | .upgrade _ | .freeze
    | .unfreeze | .blockAsset _ | .unblockAsset _ | .bumpStorage =>
      inferInstanceAs (Decidable True)

/-- The contract does not hold the pending amount of a milestone in the primary asset. -/
def Unpayable (contract : Address) (w : World) (index : ℕ) : Prop :=
  ∀ issuer, w.storage.primaryIssuer = some issuer →
    w.ledger.balance issuer contract < w.storage.target index - w.storage.released index

theorem Storage.primaryIssuer_eq (s : Storage) :
    s.primaryIssuer = s.primaryAsset.bind StellarAsset.issuer := by
  unfold primaryIssuer primaryAsset
  rw [Option.bind_assoc]

theorem primaryHeld_iff {contract : Address} {w : World} :
    PrimaryHeld contract w ↔
      ∃ issuer, w.storage.primaryIssuer = some issuer ∧ 0 < w.ledger.balance issuer contract := by
  unfold PrimaryHeld
  cases w.storage.primaryIssuer with
  | none => simp
  | some issuer => simp

/-- What was paid in full had been held. -/
theorem PaidInFull.covered {contract recipient : Address} {index timestamp : ℕ} {w next : World}
    (h : PaidInFull contract recipient index timestamp w next) :
    ∃ issuer, w.storage.primaryIssuer = some issuer ∧
      w.storage.target index - w.storage.released index ≤ w.ledger.balance issuer contract := by
  obtain ⟨assetCode, issuer, hprimary, -, hcontract, -⟩ := h
  have hnonneg := next.ledger.balance_nonneg issuer contract
  refine ⟨issuer, ?_, by omega⟩
  rw [Storage.primaryIssuer_eq, hprimary]
  rfl

section Released

variable {host : Host} {inv : Invocation} {index : ℕ} {recipient : Address} {w next : World}
  {campaign : CampaignData} {milestone : MilestoneData} {primary : StellarAsset}

/-- A release of a pending amount pays it in full when the primary asset is held. -/
theorem paidInFull_of_released
    (h : ReleaseMilestone.Released (inv.env host) index recipient w next campaign milestone primary)
    (hpending : 0 < w.storage.target index - w.storage.released index)
    (hrecipient : recipient ≠ host.contract) (hheld : PrimaryHeld host.contract w) :
    PaidInFull host.contract recipient index inv.timestamp w next := by
  obtain ⟨issuer, hissuer, hbalance⟩ := primaryHeld_iff.mp hheld
  have hprimary : w.storage.primaryAsset = some primary := by
    rw [Storage.primaryAsset, h.found, Option.bind_some, h.primary_found]
  rw [Storage.primaryIssuer_eq, hprimary, Option.bind_some] at hissuer
  rw [target_of_found h.milestone_found, released_of_found h.milestone_found] at hpending
  have hpayment : ReleaseMilestone.primaryPayment w.ledger host.contract
      (milestone.targetAmount - milestone.releasedAmount) primary =
      [(issuer, milestone.targetAmount - milestone.releasedAmount)] := by
    rw [ReleaseMilestone.primaryPayment_of_issuer hissuer, if_pos ⟨hbalance, hpending⟩]
  have hledger := h.ledger
  have hevents := h.events
  have hcontract : (inv.env host).host.contract = host.contract := rfl
  rw [hcontract, hpayment] at hledger hevents
  have hpaid : paidIn issuer [(issuer, milestone.targetAmount - milestone.releasedAmount)] =
      milestone.targetAmount - milestone.releasedAmount := by
    rw [paidIn_cons, if_pos rfl, paidIn_nil, add_zero]
  refine ⟨primary.assetCode, issuer, ?_, ?_, ?_, ?_⟩
  · rw [hprimary, ← hissuer]
  · rw [Ledger.balance_transferAll hledger, if_neg hrecipient, if_pos rfl, hpaid, sub_zero,
      target_of_found h.milestone_found, released_of_found h.milestone_found]
  · rw [Ledger.balance_source_transferAll hrecipient.symm hledger, hpaid,
      target_of_found h.milestone_found, released_of_found h.milestone_found]
  · rw [hevents, target_of_found h.milestone_found, released_of_found h.milestone_found]
    rfl

end Released

/-- A release pays in full exactly when it finds the primary asset held. -/
theorem Step.paysPending_iff {host : Host} {action : Action} {w next : World}
    (hstep : Step host action w next) :
    PaysPending host.contract ⟨action, w, next⟩ ↔ FindsPrimary host.contract ⟨action, w, next⟩ := by
  cases action with
  | transfer => exact Iff.rfl
  | invoke inv =>
    obtain ⟨timestamp, sequence, authorisers, call⟩ := inv
    cases call with
    | releaseMilestone index recipient =>
      obtain ⟨campaign, milestone, primary, hreleased⟩ := hstep.of_releaseMilestone rfl
      refine forall_congr' fun hpending ↦ forall_congr' fun hrecipient ↦ ⟨fun hpaid ↦ ?_,
        paidInFull_of_released hreleased hpending hrecipient⟩
      obtain ⟨issuer, hissuer, hcovered⟩ := hpaid.covered
      exact primaryHeld_iff.mpr ⟨issuer, hissuer, lt_of_lt_of_le hpending hcovered⟩
    | _ => exact Iff.rfl

section Runs

variable {contract : Address} {overflowChecks : Bool} {ledger : Ledger Address Address}
  {wasmHash : BitVec 256} {history : List (Receipt Action World)} {w : World}

theorem CampaignRun.paysPending_iff
    (run : CampaignRun contract overflowChecks ledger wasmHash history w) :
    (∀ r ∈ history, PaysPending contract r) ↔ ∀ r ∈ history, FindsPrimary contract r :=
  forall_congr' fun _ ↦ forall_congr' fun hr ↦ (CampaignRun.step_of_mem run hr).1.paysPending_iff

/-- Every release of a run pays its pending amount exactly when every one of them finds the
primary asset held; and where it is held, a release that cannot be paid fails and leaves
everything as it was. -/
theorem released_means_paid_iff
    (run : CampaignRun contract overflowChecks ledger wasmHash history w) :
    ((∀ r ∈ history, PaysPending contract r) ↔ ∀ r ∈ history, FindsPrimary contract r) ∧
    ∀ inv index recipient, inv.call = .releaseMilestone index recipient →
      0 < w.storage.target index - w.storage.released index → recipient ≠ contract →
      Unpayable contract w index → PrimaryHeld contract w →
      (chain (standardHost contract overflowChecks)).replay [.invoke inv] w = ([], w) := by
  refine ⟨CampaignRun.paysPending_iff run, ?_⟩
  intro inv index recipient hcall hpending hrecipient hunpayable hheld
  cases hexec : (chain (standardHost contract overflowChecks)).exec (.invoke inv) w with
  | error failure => exact System.replay_cons_of_error _ hexec []
  | ok next =>
    have hstep := step_of_exec (CampaignRun.untouched run) hexec
    obtain ⟨campaign, milestone, primary, hreleased⟩ := hstep.of_releaseMilestone hcall
    obtain ⟨issuer, hissuer, hcovered⟩ :=
      (paidInFull_of_released hreleased hpending hrecipient hheld).covered
    exact absurd hcovered (not_le.mpr (hunpayable issuer hissuer))

end Runs

theorem released_means_paid_iff_stagedRelease :
    PaidInFull Sample.contract Sample.recipient 0 20
      (Sample.reached (Sample.stagedRelease.take 3))
      (Sample.reached (Sample.stagedRelease.take 4)) := by
  have hpaid := (released_means_paid_iff (Sample.run (Sample.stagedRelease.take 4))).1.mpr
    (by decide +kernel)
    ⟨Sample.call Sample.creator (.releaseMilestone 0 Sample.recipient),
      Sample.reached (Sample.stagedRelease.take 3), Sample.reached (Sample.stagedRelease.take 4)⟩
    List.mem_cons_self
  exact hpaid (by decide +kernel) (by decide)

/-- A donor gives the goal and settles nothing, and the milestone is released. -/
def Sample.unpaidRelease : List Action :=
  [Sample.opening [⟨"XLM", some Sample.token⟩] [Sample.milestone 1000] 1000,
    Sample.giving Sample.donor 1000 Sample.token,
    Sample.call Sample.creator (.releaseMilestone 0 Sample.recipient)]

/-- A contract that holds nothing releases a milestone without paying. -/
theorem release_without_payment :
    ¬ ∀ (contract : Address) (overflowChecks : Bool) (ledger : Ledger Address Address)
      (wasmHash : BitVec 256) (history : List (Receipt Action World)) (w : World),
      CampaignRun contract overflowChecks ledger wasmHash history w →
        ∀ r ∈ history, PaysPending contract r := by
  intro h
  have hpays := h _ _ _ _ _ _ (Sample.run Sample.unpaidRelease)
  rw [CampaignRun.paysPending_iff (Sample.run Sample.unpaidRelease)] at hpays
  revert hpays
  decide +kernel

end OrbitChain.Campaign
