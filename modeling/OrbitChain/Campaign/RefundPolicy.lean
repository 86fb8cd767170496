import OrbitChain.Campaign.MilestoneOrder
import OrbitChain.Campaign.RefundOrders

/-!
# The refund policy

The documented policy pays a donor once, within the refund window, from a campaign that was
cancelled, or that ended short of its goal with nothing released. The contract enforces all of it
but the goal: a campaign that raised its goal and then ended pays refunds as long as nothing has
been released. A run keeps to the policy exactly when no donor claims from such a campaign
(`refund_policy_iff`).
-/

set_option autoImplicit false
set_option relaxedAutoImplicit false

namespace OrbitChain.Campaign

open Foundations

/-- The policy for a donor's claim: what it must find in the contract at the time of the call. -/
structure RefundPolicy (inv : Invocation) (donor : Address) (w : World) (campaign : CampaignData)
    (record : DonorRecord) : Prop where
  found : w.storage.campaignData = some campaign
  donor_found : w.storage.donorData donor = some record
  concluded : campaign.status = .cancelled ∨ campaign.status = .ended ∧
    campaign.raisedAmount < campaign.goalAmount ∧ ∀ i, ¬ IsReleased w.storage i
  in_window : inv.timestamp ≤ campaign.endTime + refundWindow
  not_claimed : record.refundClaimed = false

/-- Every claim of a run was made within the policy, by a donor who had not claimed before. -/
def RefundsByPolicy (history : List (Receipt Action World)) : Prop :=
  ∀ later r earlier, history = later ++ r :: earlier →
    ∀ inv donor, r.label = .invoke inv → inv.call = .claimRefund donor →
      (∃ campaign record, RefundPolicy inv donor r.before campaign record) ∧
        ∀ r' ∈ earlier, r'.label.claimant ≠ some donor

/-- If the step is a claim, the campaign was cancelled or has not raised its goal. -/
def ClaimsShortOfGoal (r : Receipt Action World) : Prop :=
  r.label.invokes Call.isRefund = true →
    ∀ campaign, r.before.storage.campaignData = some campaign →
      campaign.status = .cancelled ∨ campaign.raisedAmount < campaign.goalAmount

/-- The donor has been refunded. -/
def Refunded (donor : Address) (w : World) : Prop :=
  ∃ record, w.storage.donorData donor = some record ∧ record.refundClaimed = true

/-! ### Claims are made once -/

/-- No step takes a donor's mark back. -/
theorem Step.refunded {host : Host} {action : Action} {w next : World}
    (h : Step host action w next) {donor : Address} (hrefunded : Refunded donor w) :
    Refunded donor next := by
  have hother (hsame : next.storage.donorData = w.storage.donorData) : Refunded donor next := by
    rw [Refunded, hsame]
    exact hrefunded
  obtain ⟨record, hfound, hclaimed⟩ := hrefunded
  cases h with
  | @donated _ _ _ giver _ _ _ _ _ _ h =>
    obtain ⟨record', happly, hdata⟩ := h.donorData
    by_cases hgiver : donor = giver
    · subst hgiver
      rw [hfound] at happly
      refine ⟨record', by rw [hdata, Function.update_self], ?_⟩
      rw [(DonorRecord.applyDonation_ok happly).2.2.1]
      exact hclaimed
    · exact ⟨record, by rw [hdata, Function.update_of_ne hgiver, hfound], hclaimed⟩
  | @claimed _ _ _ claimant _ record' _ _ _ h =>
    obtain ⟨report, -, hstorage⟩ := h.storage
    have hdata : next.storage.donorData = Function.update w.storage.donorData claimant
        (some { record' with refundClaimed := true }) := by rw [hstorage]
    by_cases hclaimant : donor = claimant
    · exact ⟨_, by rw [hdata, hclaimant, Function.update_self], rfl⟩
    · exact ⟨record, by rw [hdata, Function.update_of_ne hclaimant, hfound], hclaimed⟩
  | transferred _ _ hstorage => exact hother (by rw [hstorage])
  | initialized _ _ _ h =>
    obtain ⟨report, hstorage⟩ := h.storage
    exact hother (by rw [hstorage])
  | released _ _ h | multiReleased _ _ h =>
    obtain ⟨report, -, hstorage⟩ := h.storage
    exact hother (by rw [hstorage])
  | administered _ _ h =>
    obtain ⟨frozen, blocked, report, hstorage⟩ := h.storage
    exact hother (by rw [hstorage])

/-- A claim found its donor unmarked and marked it. -/
theorem Step.claimant_refunded {host : Host} {action : Action} {w next : World}
    (h : Step host action w next) {donor : Address} (hclaimant : action.claimant = some donor) :
    ¬ Refunded donor w ∧ Refunded donor next := by
  obtain ⟨inv, rfl, hcall⟩ := Action.claimant_eq_some hclaimant
  obtain ⟨campaign, record, numerator, hclaimed⟩ := h.of_claimRefund hcall
  obtain ⟨report, -, hstorage⟩ := hclaimed.storage
  refine ⟨?_, { record with refundClaimed := true }, ?_, rfl⟩
  · rintro ⟨record', hfound, hmarked⟩
    obtain rfl := Option.some.inj (hclaimed.donor_found.symm.trans hfound)
    exact absurd (hclaimed.not_claimed.symm.trans hmarked) Bool.false_ne_true
  · rw [hstorage]
    exact Function.update_self ..

section Standard

variable {contract : Address} {overflowChecks : Bool} {ledger : Ledger Address Address}
  {wasmHash : BitVec 256} {history : List (Receipt Action World)} {w next : World}

/-- A donor's claims happen once. -/
theorem marksOnce_claims (contract : Address) (overflowChecks : Bool)
    (ledger : Ledger Address Address) (wasmHash : BitVec 256) :
    MarksOnce (chain (standardHost contract overflowChecks)) (.deployed ledger wasmHash)
      Action.claimant Refunded where
  fresh prior step hkey :=
    ((step_of_exec (CampaignRun.untouched prior) step).claimant_refunded hkey).1
  marks prior step hkey :=
    ((step_of_exec (CampaignRun.untouched prior) step).claimant_refunded hkey).2
  keeps prior step hmarked := (step_of_exec (CampaignRun.untouched prior) step).refunded hmarked

/-- A claim is within the policy exactly when the campaign was cancelled or is short of its goal. -/
theorem refundPolicy_iff {inv : Invocation} {donor : Address} {found : CampaignData}
    {record : DonorRecord} {numerator : ℤ} (hw : Sound w.storage)
    (h : CampaignContract.Claimed (inv.env (standardHost contract overflowChecks)) donor w next
      found record numerator) :
    (∃ campaign record, RefundPolicy inv donor w campaign record) ↔
      found.status = .cancelled ∨ found.raisedAmount < found.goalAmount := by
  obtain ⟨v, hestablished⟩ := hw.established h.found
  constructor
  · rintro ⟨campaign, record', hpolicy⟩
    obtain rfl := hestablished.campaign_eq hpolicy.found
    exact hpolicy.concluded.imp_right fun hended ↦ hended.2.1
  · intro hgoal
    obtain ⟨closing, hclosing, htime⟩ := h.in_window
    refine ⟨found, record,
      { found := h.found
        donor_found := h.donor_found
        concluded := ?_
        in_window := le_trans htime (uncheckedU64_le hclosing)
        not_claimed := h.not_claimed }⟩
    rcases hestablished.refundsOpen_iff.mp h.refunds_open with hcancelled | ⟨hended, hnone⟩
    · exact .inl hcancelled
    · refine hgoal.imp_right fun hshort ↦ ⟨hended, hshort, hnone⟩

/-- A donor gives the whole goal, the creator ends the campaign and the donor claims. -/
def Sample.refundAtGoal : List Action :=
  [Sample.opening [⟨"XLM", some Sample.token⟩] [Sample.milestone 1000] 1000,
    Sample.giving Sample.donor 1000 Sample.token,
    .transfer Sample.token Sample.donor Sample.contract 1000,
    Sample.call Sample.creator .endCampaign,
    Sample.call Sample.donor (.claimRefund Sample.donor)]

/-- A run refunds by the policy exactly when every claim is made from a campaign that was
cancelled or has not raised its goal. -/
theorem refund_policy_iff
    (run : CampaignRun contract overflowChecks ledger wasmHash history w) :
    RefundsByPolicy history ↔ ∀ r ∈ history, ClaimsShortOfGoal r := by
  have honce := run.once (marksOnce_claims contract overflowChecks ledger wasmHash)
  constructor
  · intro hpolicy r hr hrefund found hfound
    obtain ⟨later, earlier, rfl⟩ := List.append_of_mem hr
    obtain ⟨hstep, _, hprior⟩ := CampaignRun.step_of_mem run hr
    obtain ⟨inv, donor, campaign, record, numerator, hlabel, hcall, hclaimed⟩ :=
      hstep.claimed_of_isRefund hrefund
    obtain rfl := Option.some.inj (hclaimed.found.symm.trans hfound)
    exact (refundPolicy_iff (CampaignRun.sound hprior) hclaimed).mp
      (hpolicy _ _ _ rfl inv donor hlabel hcall).1
  · rintro hshort later r earlier rfl inv donor hlabel hcall
    have hr : r ∈ later ++ r :: earlier := by simp
    obtain ⟨hstep, _, hprior⟩ := CampaignRun.step_of_mem run hr
    rw [hlabel] at hstep
    obtain ⟨campaign, record, numerator, hclaimed⟩ := hstep.of_claimRefund hcall
    have hrefund : r.label.invokes Call.isRefund = true := by
      rw [hlabel, Action.invokes, hcall]
      rfl
    have hclaimant : r.label.claimant = some donor := by
      rw [hlabel, Action.claimant, hcall]
      rfl
    refine ⟨(refundPolicy_iff (CampaignRun.sound hprior) hclaimed).mpr
      (hshort r hr hrefund campaign hclaimed.found), fun r' hr' ↦ ?_⟩
    have hpairs := (List.pairwise_append.mp honce).2.1
    exact List.rel_of_pairwise_cons hpairs hr' donor hclaimant

end Standard

/-- The claim of the sample run finds the goal raised and the campaign ended. -/
theorem Sample.exists_claim_at_goal : ∃ r ∈ Sample.history Sample.refundAtGoal,
    r.label = Sample.call Sample.donor (.claimRefund Sample.donor) ∧
      ∃ campaign, r.before.storage.campaignData = some campaign ∧ campaign.status = .ended ∧
        ¬ campaign.raisedAmount < campaign.goalAmount := by
  have hclaim : ∃ r ∈ Sample.history Sample.refundAtGoal,
      r.label = Sample.call Sample.donor (.claimRefund Sample.donor) ∧
        r.before.storage.campaignData.any (fun campaign ↦ campaign.status = .ended ∧
          ¬ campaign.raisedAmount < campaign.goalAmount) = true := by decide +kernel
  obtain ⟨r, hr, hlabel, hcampaign⟩ := hclaim
  obtain ⟨campaign, hfound, hended⟩ := Option.any_eq_true _ _ |>.mp hcampaign
  exact ⟨r, hr, hlabel, campaign, hfound, of_decide_eq_true hended⟩

theorem refund_policy_iff_refundAtGoal :
    ¬ RefundsByPolicy (Sample.history Sample.refundAtGoal) := by
  rw [refund_policy_iff (Sample.run Sample.refundAtGoal)]
  obtain ⟨r, hr, hlabel, campaign, hfound, hended, hgoal⟩ := Sample.exists_claim_at_goal
  intro hshort
  rcases hshort r hr (by rw [hlabel]; rfl) campaign hfound with hcancelled | hbelow
  · rw [hended] at hcancelled
    exact nomatch hcancelled
  · exact hgoal hbelow

/-- A donor can be refunded from a campaign that ended with its goal raised. -/
theorem refunded_at_goal :
    ¬ ∀ (contract : Address) (overflowChecks : Bool) (ledger : Ledger Address Address)
      (wasmHash : BitVec 256) (history : List (Receipt Action World)) (w : World),
      CampaignRun contract overflowChecks ledger wasmHash history w → RefundsByPolicy history := by
  intro h
  have hpolicy := h _ _ _ _ _ _ (Sample.run Sample.refundAtGoal)
  obtain ⟨r, hr, hlabel, campaign, hfound, hended, hgoal⟩ := Sample.exists_claim_at_goal
  obtain ⟨later, earlier, hsplit⟩ := List.append_of_mem hr
  obtain ⟨⟨campaign', record, hclaim⟩, -⟩ := hpolicy _ _ _ hsplit _ _ hlabel rfl
  obtain rfl := Option.some.inj (hfound.symm.trans hclaim.found)
  rcases hclaim.concluded with hcancelled | ⟨-, hbelow, -⟩
  · rw [hended] at hcancelled
    exact nomatch hcancelled
  · exact hgoal hbelow

end OrbitChain.Campaign
