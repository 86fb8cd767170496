import OrbitChain.Campaign.MilestoneRecords

/-!
# Status and raised amount

An active campaign has not reached its goal; one that reached it has raised the goal, and no
milestone of it is locked, because every target is at most the goal and the donation that reached
it unlocked what it raised. Nothing locks a milestone again, and the raised amount only grows.
-/

set_option autoImplicit false
set_option relaxedAutoImplicit false

namespace OrbitChain.Campaign

open Foundations

/-- No stored milestone is locked. -/
def NoneLocked (s : Storage) : Prop := ∀ i m, s.getMilestone i = some m → m.status ≠ .locked

/-- The status of the campaign agrees with what was raised and with the milestones. -/
structure StatusCoherent (s : Storage) (campaign : CampaignData) : Prop where
  active : campaign.status = .active → campaign.raisedAmount < campaign.goalAmount
  goal_reached : campaign.status = .goalReached →
    campaign.goalAmount ≤ campaign.raisedAmount ∧ NoneLocked s

/-! ### What a step does to locked milestones -/

/-- No step locks a milestone. -/
theorem MilestoneStep.not_locked {host : Host} {action : Action} {index : ℕ}
    {record record' : Option MilestoneData} (h : MilestoneStep host action index record record')
    (hbefore : ∀ m, record = some m → m.status ≠ .locked) :
    ∀ m, record' = some m → m.status ≠ .locked := by
  cases h with
  | kept _ _ => exact hbefore
  | unlocked _ _ | released _ _ _ | multiReleased _ _ _ =>
    intro m hm
    rw [← Option.some.inj hm]
    exact MilestoneStatus.noConfusion

theorem Step.noneLocked {host : Host} {action : Action} {w next : World}
    (h : Step host action w next) (hw : Sound w.storage)
    (hcampaign : w.storage.campaignData ≠ none) (hbefore : NoneLocked w.storage) :
    NoneLocked next.storage :=
  fun i ↦ (h.milestoneStep hw hcampaign i).not_locked (hbefore i)

/-- A donation that raises the goal leaves no milestone locked. -/
theorem noneLocked_of_donated {env : Env} {donor : Address} {amount : ℤ} {asset : AssetInfo}
    {w next : World} {campaign : CampaignData} {token : Address}
    (h : CampaignContract.Donated env donor amount asset w next campaign token)
    (hw : Sound w.storage) (hgoal : campaign.goalAmount ≤ campaign.raisedAmount + amount) :
    NoneLocked next.storage := by
  obtain ⟨v, hv⟩ := hw.established h.found
  have hnext := (hv.of_donated h).2
  intro i m hm
  have hmem := List.mem_of_getElem? ((hnext.getMilestone i).symm.trans hm)
  have htarget : m.targetAmount ≤ campaign.goalAmount := hnext.schedule.target_le hmem
  refine (unlockedAsRaised_of_donated h hw).reached i m hm ?_
  rw [hnext.raisedAmount_eq]
  exact htarget.trans hgoal

/-! ### What a step does to the status -/

theorem StatusCoherent.of_donated {env : Env} {donor : Address} {amount : ℤ} {asset : AssetInfo}
    {w next : World} {campaign : CampaignData} {token : Address}
    (hcoherent : StatusCoherent w.storage campaign)
    (h : CampaignContract.Donated env donor amount asset w next campaign token)
    (hw : Sound w.storage) :
    StatusCoherent next.storage (campaign.withRaised (campaign.raisedAmount + amount)) := by
  have hstatus : (campaign.withRaised (campaign.raisedAmount + amount)).status =
      if campaign.goalAmount ≤ campaign.raisedAmount + amount ∧ campaign.status = .active
      then .goalReached else campaign.status := rfl
  constructor
  · intro hactive
    rw [hstatus] at hactive
    split_ifs at hactive with hreached
    exact not_le.mp fun hgoal ↦ hreached ⟨hgoal, hactive⟩
  · intro hreached
    have hgoal : campaign.goalAmount ≤ campaign.raisedAmount + amount := by
      rw [hstatus] at hreached
      split_ifs at hreached with hnow
      · exact hnow.1
      · exact (hcoherent.goal_reached hreached).1.trans
          (le_add_of_nonneg_right h.amount_pos.le)
    exact ⟨hgoal, noneLocked_of_donated h hw hgoal⟩

section Steps

variable {host : Host} {action : Action} {w next : World} (h : Step host action w next)
  (hw : Sound w.storage)
include h hw

/-- A step keeps the status coherent. -/
theorem Step.statusCoherent
    (ih : ∀ campaign, w.storage.campaignData = some campaign → StatusCoherent w.storage campaign)
    {campaign : CampaignData} (hfound : next.storage.campaignData = some campaign) :
    StatusCoherent next.storage campaign := by
  have hkeep : ∀ {before : CampaignData}, w.storage.campaignData = some before →
      campaign.goalAmount = before.goalAmount → campaign.raisedAmount = before.raisedAmount →
      campaign.status = before.status ∨ campaign.status.isTerminal = true →
      StatusCoherent next.storage campaign := by
    intro before hbefore hgoal hraised hstatus
    have hcoherent := ih before hbefore
    have hnone := h.noneLocked hw (by rw [hbefore]; exact Option.some_ne_none before)
    constructor
    · intro hactive
      rw [hgoal, hraised]
      rcases hstatus with hsame | hterminal
      · exact hcoherent.active (hsame ▸ hactive)
      · rw [hactive] at hterminal
        exact absurd hterminal Bool.false_ne_true
    · intro hreached
      rw [hgoal, hraised]
      rcases hstatus with hsame | hterminal
      · exact (hcoherent.goal_reached (hsame ▸ hreached)).imp_right hnone
      · rw [hreached] at hterminal
        exact absurd hterminal Bool.false_ne_true
  cases h with
  | transferred _ _ hstorage =>
    rw [hstorage] at hfound ⊢
    exact ih campaign hfound
  | initialized _ _ hempty h =>
    have hv := Established.of_initialized h hempty
    obtain rfl := hv.campaign_eq hfound
    exact ⟨fun _ ↦ hv.goal_pos, CampaignStatus.noConfusion⟩
  | donated _ _ h =>
    obtain ⟨v, hv⟩ := hw.established h.found
    obtain rfl := (hv.of_donated h).2.campaign_eq hfound
    exact (ih _ hv.found).of_donated h hw
  | claimed _ _ h =>
    obtain ⟨v, hv⟩ := hw.established h.found
    obtain rfl := (hv.of_claimed h).2.campaign_eq hfound
    exact hkeep hv.found rfl rfl (.inl rfl)
  | released _ _ h =>
    obtain ⟨v, hv⟩ := hw.established h.found
    obtain rfl := (hv.of_released h).2.2.campaign_eq hfound
    exact hkeep hv.found rfl rfl (.inl rfl)
  | multiReleased _ _ h =>
    obtain ⟨v, hv⟩ := hw.established h.found
    obtain rfl := (hv.of_multiReleased h).2.2.campaign_eq hfound
    exact hkeep hv.found rfl rfl (.inl rfl)
  | administered _ _ h =>
    obtain ⟨v, hv⟩ := hw.established h.found
    obtain rfl := (hv.of_administered h).2.campaign_eq hfound
    refine hkeep h.found rfl rfl ?_
    exact h.status_eq.imp And.left fun hconcluded ↦ hconcluded.2.1

/-- A step lowers no raised amount. -/
theorem Step.raisedAmount_le : w.storage.raisedAmount ≤ next.storage.raisedAmount := by
  by_cases hcampaign : w.storage.campaignData = none
  · have hnothing : w.storage.raisedAmount = 0 := by
      rw [Storage.raisedAmount, hcampaign]
      rfl
    rw [hnothing]
    exact (h.sound hw).raisedAmount_nonneg
  · exact (h.schedule hw hcampaign).2

end Steps

section Runs

variable {contract : Address} {overflowChecks : Bool} {ledger : Ledger Address Address}
  {wasmHash : BitVec 256} {history : List (Receipt Action World)} {w : World}

/-- In every state of a run the status agrees with the raised amount and with the milestones, and
what was raised by any earlier step is still raised. -/
theorem status_coherent
    (run : CampaignRun contract overflowChecks ledger wasmHash history w) :
    (∀ campaign, w.storage.campaignData = some campaign → StatusCoherent w.storage campaign) ∧
    ∀ r ∈ history, r.before.storage.raisedAmount ≤ r.after.storage.raisedAmount ∧
      r.after.storage.raisedAmount ≤ w.storage.raisedAmount := by
  refine CampaignRun.induction (I := fun history w ↦
    (∀ campaign, w.storage.campaignData = some campaign → StatusCoherent w.storage campaign) ∧
    ∀ r ∈ history, r.before.storage.raisedAmount ≤ r.after.storage.raisedAmount ∧
      r.after.storage.raisedAmount ≤ w.storage.raisedAmount) ⟨?_, by simp⟩ ?_ run
  · intro campaign hfound
    exact absurd hfound.symm (Option.some_ne_none campaign)
  · rintro history w action next prior ⟨hcoherent, hraised⟩ hstep
    have hsound := CampaignRun.sound prior
    have hle := hstep.raisedAmount_le hsound
    refine ⟨fun campaign hfound ↦ hstep.statusCoherent hsound hcoherent hfound, fun r hr ↦ ?_⟩
    rcases List.mem_cons.mp hr with rfl | hr
    · exact ⟨hle, le_rfl⟩
    · exact ⟨(hraised r hr).1, (hraised r hr).2.trans hle⟩

end Runs

theorem status_coherent_splitRelease :
    ∃ campaign, (Sample.reached Sample.splitRelease).storage.campaignData = some campaign ∧
      StatusCoherent (Sample.reached Sample.splitRelease).storage campaign :=
  ⟨_, rfl, (status_coherent (Sample.run Sample.splitRelease)).1 _ rfl⟩

end OrbitChain.Campaign
