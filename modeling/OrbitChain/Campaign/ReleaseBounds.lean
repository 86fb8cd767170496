import OrbitChain.Campaign.IncrementalPayout

/-!
# What a multi-asset release can take

The walk over the accepted list reads a token's recorded amount afresh at every entry and shares
the pending amount out over the total that was recorded before it began. A token is never paid more
than what is recorded of it. All tokens together are paid at most the pending amount as long as
no token listed several times is due a share again of what its first entry left, and the milestone
does not count more as released than its target.
-/

set_option autoImplicit false
set_option relaxedAutoImplicit false

namespace OrbitChain.Campaign

open Foundations

/-- A multi-asset release starts with no more released than the target, and no token is due a
share again once it has been paid. -/
def SharesOnce (r : Receipt Action World) : Prop :=
  match r.label with
  | .invoke ⟨_, _, _, .releaseMilestoneMultiAsset index _⟩ =>
    r.before.storage.released index ≤ r.before.storage.target index ∧
      MultiAssetRelease.DueOnce
        (r.before.storage.target index - r.before.storage.released index)
        r.before.storage.getTotalRaised r.before.storage.assetRaised r.before.storage.issuers
  | _ => True

instance (r : Receipt Action World) : Decidable (SharesOnce r) :=
  match r with
  | ⟨.transfer _ _ _ _, _, _⟩ => inferInstanceAs (Decidable True)
  | ⟨.invoke ⟨_, _, _, call⟩, _, _⟩ =>
    match call with
    | .releaseMilestoneMultiAsset _ _ => inferInstanceAs (Decidable (_ ∧ _))
    | .initializeCampaign _ _ _ _ _ _ | .donate _ _ _ | .claimRefund _ | .endCampaign
    | .cancelCampaign | .extendDeadline _ | .releaseMilestone _ _ | .upgrade _ | .freeze
    | .unfreeze | .blockAsset _ | .unblockAsset _ | .bumpStorage =>
      inferInstanceAs (Decidable True)

/-- A multi-asset release pays, by the transfer log, at most the pending amount of its milestone
over all tokens, and in each token at most what was recorded of it. -/
def PaysWithin (contract : Address) (r : Receipt Action World) : Prop :=
  match r.label with
  | .invoke ⟨_, _, _, .releaseMilestoneMultiAsset index _⟩ =>
    releasePaid contract r ≤
        r.before.storage.target index - r.before.storage.released index ∧
      ∀ t, multiAssetPaid contract t r ≤ r.before.storage.getAssetRaised t
  | _ => True

section Released

variable {host : Host} {inv : Invocation} {index : ℕ} {recipient : Address} {w next : World}
  {campaign : CampaignData} {milestone : MilestoneData} {book : PledgeBook Address Address}

/-- A release takes no more of a token than is recorded of it. -/
theorem multiAssetPaid_le_recorded
    (hcall : inv.call = .releaseMilestoneMultiAsset index recipient)
    (h : MultiAssetRelease.Released (inv.env host) index recipient w next campaign milestone)
    (hbook : Mirrors w.storage book) (token : Address) :
    multiAssetPaid host.contract token ⟨.invoke inv, w, next⟩ ≤ w.storage.getAssetRaised token := by
  rw [multiAssetPaid_of_released hcall h]
  exact h.deductible.paidIn_le hbook.getAssetRaised_nonneg token

/-- A release in which every token is due one share takes at most the pending amount. -/
theorem releasePaid_le_pending
    (hcall : inv.call = .releaseMilestoneMultiAsset index recipient)
    (h : MultiAssetRelease.Released (inv.env host) index recipient w next campaign milestone)
    (hbook : Mirrors w.storage book)
    (hreleased : milestone.releasedAmount ≤ milestone.targetAmount)
    (hdue : MultiAssetRelease.DueOnce (milestone.targetAmount - milestone.releasedAmount)
      w.storage.getTotalRaised w.storage.assetRaised campaign.issuers) :
    releasePaid host.contract ⟨.invoke inv, w, next⟩ ≤
      milestone.targetAmount - milestone.releasedAmount := by
  have houtgoings := Ledger.outgoings_transferAll h.ledger
  have hcontract : (inv.env host).host.contract = host.contract := rfl
  have htotal : 0 < w.storage.getTotalRaised :=
    lt_of_le_of_ne hbook.getTotalRaised_nonneg h.total_ne.symm
  have hshares : _ ≤ max (milestone.targetAmount - milestone.releasedAmount) 0 :=
    MultiAssetRelease.sum_releasePayments_le hdue hbook.getAssetRaised_nonneg htotal
      (hbook.sum_issuers h.found)
  rw [hcontract] at houtgoings
  rw [max_eq_left (sub_nonneg.mpr hreleased)] at hshares
  rw [releasePaid_of_release (by rw [hcall]; rfl), houtgoings, add_sub_cancel_left]
  exact hshares

end Released

theorem Step.paysWithin {host : Host} {action : Action} {w next : World}
    (hstep : Step host action w next) {book : PledgeBook Address Address}
    (hbook : Mirrors w.storage book) (h : SharesOnce ⟨action, w, next⟩) :
    PaysWithin host.contract ⟨action, w, next⟩ := by
  cases action with
  | transfer => exact trivial
  | invoke inv =>
    obtain ⟨timestamp, sequence, authorisers, call⟩ := inv
    cases call with
    | releaseMilestoneMultiAsset index recipient =>
      obtain ⟨campaign, milestone, hreleased⟩ := hstep.of_releaseMilestoneMultiAsset rfl
      obtain ⟨hwithin, hdue⟩ := h
      simp only at hwithin hdue
      rw [issuers_of_found hreleased.found] at hdue
      rw [target_of_found hreleased.milestone_found, released_of_found hreleased.milestone_found]
        at hwithin hdue
      refine ⟨?_, multiAssetPaid_le_recorded rfl hreleased hbook⟩
      simp only
      rw [target_of_found hreleased.milestone_found, released_of_found hreleased.milestone_found]
      exact releasePaid_le_pending rfl hreleased hbook hwithin hdue
    | _ => exact trivial

/-- Every multi-asset release of a run in which each token is due one share of a milestone that
counts no more than its target as released pays at most the pending amount, and in each token at
most what was recorded of it. -/
theorem multi_release_bounded {contract : Address} {overflowChecks : Bool}
    {ledger : Ledger Address Address} {wasmHash : BitVec 256}
    {history : List (Receipt Action World)} {w : World}
    (run : CampaignRun contract overflowChecks ledger wasmHash history w)
    {r : Receipt Action World} (hr : r ∈ history) (h : SharesOnce r) :
    PaysWithin contract r := by
  obtain ⟨hstep, earlier, hearlier⟩ := CampaignRun.step_of_mem run hr
  obtain ⟨book, hbook, -⟩ := CampaignRun.mirrors hearlier
  exact hstep.paysWithin hbook h

/-- Everything raised is released over two codes of one token; nothing is left for the second. -/
def Sample.wholeRelease : List Action :=
  [Sample.opening [⟨"XLM", some Sample.token⟩, ⟨"USDC", some Sample.token⟩]
      [Sample.milestone 1000] 1000,
    Sample.giving Sample.donor 1000 Sample.token,
    .transfer Sample.token Sample.donor Sample.contract 1000,
    Sample.call Sample.creator (.releaseMilestoneMultiAsset 0 Sample.recipient)]

/-- Half the raised amount is released over two codes of one token. -/
def Sample.repeatedRelease : List Action :=
  [Sample.opening [⟨"XLM", some Sample.token⟩, ⟨"USDC", some Sample.token⟩]
      [Sample.milestone 500, Sample.milestone 1000] 1000,
    Sample.giving Sample.donor 1000 Sample.token,
    .transfer Sample.token Sample.donor Sample.contract 1000,
    Sample.call Sample.creator (.releaseMilestoneMultiAsset 0 Sample.recipient)]

theorem multi_release_bounded_wholeRelease :
    PaysWithin Sample.contract
      ⟨Sample.call Sample.creator (.releaseMilestoneMultiAsset 0 Sample.recipient),
        Sample.reached (Sample.wholeRelease.take 3), Sample.reached Sample.wholeRelease⟩ := by
  have hall : ∀ r ∈ Sample.history Sample.wholeRelease, SharesOnce r := by
    decide +kernel
  exact multi_release_bounded (Sample.run Sample.wholeRelease) List.mem_cons_self
    (hall _ List.mem_cons_self)

/-- The second code is paid a share of what the first left, and 750 is released instead of 500. -/
theorem repeated_shares_exceed_pending :
    ¬ ∀ (contract : Address) (overflowChecks : Bool) (ledger : Ledger Address Address)
      (wasmHash : BitVec 256) (history : List (Receipt Action World)) (w : World),
      CampaignRun contract overflowChecks ledger wasmHash history w →
        ∀ r ∈ history, PaysWithin contract r := by
  intro h
  have hwithin := h _ _ _ _ _ _ (Sample.run Sample.repeatedRelease)
    ⟨Sample.call Sample.creator (.releaseMilestoneMultiAsset 0 Sample.recipient),
      Sample.reached (Sample.repeatedRelease.take 3), Sample.reached Sample.repeatedRelease⟩
    List.mem_cons_self
  have hpaid := hwithin.1
  revert hpaid
  decide +kernel

end OrbitChain.Campaign
