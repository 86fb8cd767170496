import OrbitChain.Campaign.Custody
import OrbitChain.Campaign.StatusTransitions

/-!
# Funds that stay

A concluded campaign takes no donations, so none of its milestones is unlocked any more. Its tokens
leave by refunds while the refund window is open, and by releases of milestones that were unlocked
when it was concluded. When there is no such milestone and the window has closed, what is left
stays with the contract for good, whoever calls it (`locked_up_for_good`).
-/

set_option autoImplicit false
set_option relaxedAutoImplicit false

namespace OrbitChain.Campaign

open Foundations

/-- The campaign is concluded, with this deadline, and no milestone waits to be released. -/
structure LockedUp (endTime : ℕ) (s : Storage) : Prop where
  concluded : ∃ campaign, s.campaignData = some campaign ∧ campaign.status.isTerminal = true ∧
    campaign.endTime = endTime
  none_unlocked : ∀ milestone ∈ s.getMilestonesVec, milestone.status ≠ .unlocked

/-- The refund window of a deadline is closed when the action is taken. -/
def Action.isAfterWindow (endTime : ℕ) : Action → Bool
  | .transfer .. => true
  | .invoke inv => endTime + refundWindow < inv.timestamp

section Steps

variable {contract : Address} {overflowChecks : Bool} {endTime : ℕ} {action : Action}
  {w next : World}

theorem LockedUp.getMilestone (h : LockedUp endTime w.storage) (hw : Sound w.storage) {index : ℕ}
    {milestone : MilestoneData} (hmilestone : w.storage.getMilestone index = some milestone) :
    milestone.status ≠ .unlocked := by
  obtain ⟨campaign, hfound, -⟩ := h.concluded
  obtain ⟨v, hv⟩ := hw.established hfound
  have hvec : w.storage.getMilestonesVec = v := by rw [Storage.getMilestonesVec, hv.vec]
  exact h.none_unlocked milestone (hvec ▸ List.mem_of_getElem? (hv.milestone_found hmilestone))

/-- A step after the window leaves the campaign as it is and takes nothing from the contract. -/
theorem LockedUp.step (h : LockedUp endTime w.storage) (hw : Sound w.storage)
    (hstep : Step (standardHost contract overflowChecks) action w next)
    (hafter : action.isAfterWindow endTime = true) :
    LockedUp endTime next.storage ∧ ∀ t, next.ledger.spent t contract = w.ledger.spent t contract ∧
      w.ledger.balance t contract ≤ next.ledger.balance t contract := by
  obtain ⟨campaign, hfound, hterminal, hend⟩ := h.concluded
  cases hstep with
  | transferred hsource hledger hstorage =>
    exact ⟨hstorage ▸ h, fun t ↦ Ledger.spent_transfer_of_ne hledger hsource t⟩
  | initialized _ _ hempty =>
    rw [hempty] at hfound
    cases hfound
  | donated _ _ hdonated =>
    obtain rfl := Option.some.inj (hfound.symm.trans hdonated.found)
    have haccepts := hdonated.accepts
    rw [CampaignStatus.acceptsDonations_eq_not_isTerminal, hterminal] at haccepts
    cases haccepts
  | claimed _ _ hclaimed =>
    obtain rfl := Option.some.inj (hfound.symm.trans hclaimed.found)
    obtain ⟨closing, hclosing, hopen⟩ := hclaimed.in_window
    -- the sum the contract computes is never later than the plain one
    have hbound := uncheckedU64_le hclosing
    rw [hend] at hbound
    exact absurd (hopen.trans hbound) (not_le.mpr (of_decide_eq_true hafter))
  | released _ _ hreleased =>
    exact absurd hreleased.unlocked (h.getMilestone hw hreleased.milestone_found)
  | multiReleased _ _ hreleased =>
    exact absurd hreleased.unlocked (h.getMilestone hw hreleased.milestone_found)
  | administered _ _ hadmin =>
    obtain rfl := Option.some.inj (hfound.symm.trans hadmin.found)
    obtain ⟨frozen, blocked, report, hstorage⟩ := hadmin.storage
    rw [hadmin.ledger]
    refine ⟨⟨⟨_, by rw [hstorage], ?_, ?_⟩, ?_⟩, fun t ↦ ⟨rfl, le_rfl⟩⟩
    · rcases hadmin.status_eq with ⟨hsame, -⟩ | ⟨-, hconcludes, -⟩
      · exact (congrArg _ hsame).trans hterminal
      · exact hconcludes
    · rcases hadmin.endTime_eq with hsame | ⟨haccepts, -⟩
      · exact hsame.trans hend
      · rw [CampaignStatus.acceptsDonations_eq_not_isTerminal, hterminal] at haccepts
        cases haccepts
    · rw [hstorage]
      exact h.none_unlocked

end Steps

/-- Once a concluded campaign has no unlocked milestone and its refund window is closed, no action
of anyone takes tokens from the contract or makes a milestone releasable. -/
theorem locked_up_for_good {contract : Address} {overflowChecks : Bool}
    {ledger : Ledger Address Address} {wasmHash : BitVec 256} {endTime : ℕ}
    {earlier later : List (Receipt Action World)} {w final : World}
    (run : CampaignRun contract overflowChecks ledger wasmHash earlier w)
    (hlocked : LockedUp endTime w.storage)
    (continuation : Run (chain (standardHost contract overflowChecks)) w later final)
    (hafter : ∀ r ∈ later, r.label.isAfterWindow endTime = true) :
    LockedUp endTime final.storage ∧
      ∀ t, final.ledger.spent t contract = w.ledger.spent t contract ∧
        w.ledger.balance t contract ≤ final.ledger.balance t contract := by
  revert hafter
  refine continuation.invariant (I := fun later final ↦
    (∀ r ∈ later, r.label.isAfterWindow endTime = true) →
      LockedUp endTime final.storage ∧
        ∀ t, final.ledger.spent t contract = w.ledger.spent t contract ∧
          w.ledger.balance t contract ≤ final.ledger.balance t contract)
    (fun _ ↦ ⟨hlocked, fun _ ↦ ⟨rfl, le_rfl⟩⟩) ?_
  intro later reached action next prior ih hexec hafter
  obtain ⟨hhead, hrest⟩ := List.forall_mem_cons.mp hafter
  obtain ⟨hreached, hkept⟩ := ih hrest
  have hsound := CampaignRun.sound (run.append prior)
  obtain ⟨hnext, hsame⟩ := hreached.step hsound (step_of_exec hsound.untouched hexec) hhead
  exact ⟨hnext, fun t ↦ ⟨(hsame t).1.trans (hkept t).1, (hkept t).2.trans (hsame t).2⟩⟩

/-- A campaign that was cancelled short of its first milestone. -/
def Sample.abandonedShort : List Action :=
  [opening [⟨"XLM", some token⟩] [milestone 1000] 1000, giving donor 100 token,
    .transfer token donor contract 100, call creator .cancelCampaign]

/-- When the window is closed, the donor asks for a refund, the creator for a release, and someone
sends ten more. -/
def Sample.tooLate : List Action :=
  [.invoke ⟨2593001, 3, [donor], .claimRefund donor⟩,
    .invoke ⟨2593002, 4, [creator], .releaseMilestoneMultiAsset 0 recipient⟩,
    .transfer token secondDonor contract 10]

theorem locked_up_for_good_tooLate :
    100 ≤ ((chain (standardHost Sample.contract true)).replay Sample.tooLate
      (Sample.reached Sample.abandonedShort)).2.ledger.balance Sample.token Sample.contract := by
  have hlocked : LockedUp 1000 (Sample.reached Sample.abandonedShort).storage :=
    ⟨⟨_, rfl, rfl, rfl⟩, by decide +kernel⟩
  have hkept := locked_up_for_good (Sample.run Sample.abandonedShort) hlocked
    (System.run_replay _ Sample.tooLate _) (by decide +kernel)
  exact (show (100 : ℤ) ≤ _ by decide +kernel).trans (hkept.2 Sample.token).2

end OrbitChain.Campaign
