import OrbitChain.Campaign.MilestoneOrder

/-!
# The schedule of milestones

Three writers rewrite the milestone vector: the unlock burst of a donation and the two releases.
`VectorStep` says what each of them does to it, given the vector it found. A milestone `Advances`
when it keeps its terms, which are its index, its target and its description, and its status stays
or takes one documented step. Every step of a run advances every milestone, so the schedule stored
at initialization stays what it was, and each milestone is released at most once
(`schedule_integrity`).
-/

set_option autoImplicit false
set_option relaxedAutoImplicit false

namespace OrbitChain.Campaign

open Foundations

/-- What a milestone is, apart from what has become of it. -/
def MilestoneData.terms (m : MilestoneData) : ℕ × ℤ × BitVec 256 :=
  (m.index, m.targetAmount, m.descriptionHash)

/-- A milestone keeps its terms, and its status stays or takes one documented step. -/
structure Advances (m m' : MilestoneData) : Prop where
  terms : m'.terms = m.terms
  status : m'.status = m.status ∨ m.status.canTransitionTo m'.status = true

theorem Advances.refl (m : MilestoneData) : Advances m m := ⟨rfl, .inl rfl⟩

/-- Milestones that advance one by one keep their terms. -/
theorem map_terms_of_advances {v v' : List MilestoneData} (h : List.Forall₂ Advances v v') :
    v'.map MilestoneData.terms = v.map MilestoneData.terms := by
  induction h with
  | nil => rfl
  | cons hm _ ih => rw [List.map_cons, List.map_cons, hm.terms, ih]

/-- The terms of a schedule determine its targets. -/
theorem map_targets_of_terms {v v' : List MilestoneData}
    (h : v'.map MilestoneData.terms = v.map MilestoneData.terms) :
    v'.map MilestoneData.targetAmount = v.map MilestoneData.targetAmount := by
  have htargets := congrArg (List.map fun terms ↦ terms.2.1) h
  simpa [MilestoneData.terms, Function.comp_def] using htargets

/-! ### What a step does to the vector -/

/-- What a step makes of a campaign and its milestone vector. -/
inductive VectorStep (action : Action) (campaign : CampaignData) (v : List MilestoneData) :
    CampaignData → List MilestoneData → Prop
  | kept {campaign' : CampaignData} (release : action.releasedIndex = none)
      (raised : campaign'.raisedAmount = campaign.raisedAmount) :
      VectorStep action campaign v campaign' v
  | unlocked {campaign' : CampaignData} {amount : ℤ}
      (donation : action.invokes Call.isDonation = true) (release : action.releasedIndex = none)
      (positive : 0 < amount) (raised : campaign'.raisedAmount = campaign.raisedAmount + amount) :
      VectorStep action campaign v campaign' (Storage.unlockScan campaign'.raisedAmount 0 v).1
  | released {campaign' : CampaignData} {index : ℕ} {m data : MilestoneData}
      (release : action.releasedIndex = some index) (found : v[index]? = some m)
      (was_unlocked : m.status = .unlocked) (terms : data.terms = m.terms)
      (is_released : data.status = .released)
      (raised : campaign'.raisedAmount = campaign.raisedAmount) :
      VectorStep action campaign v campaign' (v.set index data)

/-- Every step of an established contract is one of these, and keeps the goal. -/
theorem Step.vectorStep {host : Host} {action : Action} {w next : World} {campaign : CampaignData}
    {v : List MilestoneData} (h : Step host action w next)
    (hv : Established w.storage campaign v) :
    ∃ campaign' v', Established next.storage campaign' v' ∧
      campaign'.goalAmount = campaign.goalAmount ∧ VectorStep action campaign v campaign' v' := by
  cases h with
  | transferred _ _ hstorage =>
    exact ⟨campaign, v, by rwa [hstorage], rfl, .kept rfl rfl⟩
  | initialized _ _ _ h => exact absurd (h.fresh.symm.trans hv.found) (by simp)
  | donated _ hcall h =>
    obtain ⟨rfl, hnext⟩ := hv.of_donated h
    rw [← hv.unlockScan_fst] at hnext
    exact ⟨_, _, hnext, rfl, .unlocked (Action.invokes_of_call hcall _)
      (Action.releasedIndex_of_call hcall) h.amount_pos rfl⟩
  | claimed _ hcall h =>
    exact ⟨_, _, (hv.of_claimed h).2, rfl, .kept (Action.releasedIndex_of_call hcall) rfl⟩
  | released _ hcall h =>
    obtain ⟨rfl, hm, hnext⟩ := hv.of_released h
    exact ⟨_, _, hnext, rfl,
      .released (Action.releasedIndex_of_call hcall) hm h.unlocked rfl rfl rfl⟩
  | multiReleased _ hcall h =>
    obtain ⟨rfl, hm, hnext⟩ := hv.of_multiReleased h
    exact ⟨_, _, hnext, rfl,
      .released (Action.releasedIndex_of_call hcall) hm h.unlocked rfl rfl rfl⟩
  | administered _ hcall h =>
    obtain ⟨rfl, hnext⟩ := hv.of_administered h
    exact ⟨_, _, hnext, rfl, .kept (Call.releasedIndex_of_administrative hcall) rfl⟩

/-- A scan advances every milestone. -/
theorem advances_unlockScan (raised : ℤ) (i : ℕ) (v : List MilestoneData) :
    List.Forall₂ Advances v (Storage.unlockScan raised i v).1 := by
  induction v generalizing i with
  | nil => exact .nil
  | cons m rest ih =>
    unfold Storage.unlockScan
    split_ifs with htarget hlocked
    · exact List.forall₂_same.mpr fun m _ ↦ .refl m
    · refine .cons ⟨rfl, .inr ?_⟩ (ih _)
      rw [hlocked]
      rfl
    · exact .cons (.refl m) (ih _)

/-- Replacing a milestone by one it advances to advances every milestone. -/
theorem advances_set {v : List MilestoneData} {index : ℕ} {m data : MilestoneData}
    (hm : v[index]? = some m) (hdata : Advances m data) :
    List.Forall₂ Advances v (v.set index data) := by
  induction v generalizing index with
  | nil => exact .nil
  | cons head rest ih =>
    cases index with
    | zero =>
      obtain rfl : head = m := by simpa using hm
      exact .cons hdata (List.forall₂_same.mpr fun m _ ↦ .refl m)
    | succ index => exact .cons (.refl head) (ih (by simpa using hm))

theorem VectorStep.advances {action : Action} {campaign campaign' : CampaignData}
    {v v' : List MilestoneData} (h : VectorStep action campaign v campaign' v') :
    List.Forall₂ Advances v v' := by
  cases h with
  | kept _ _ => exact List.forall₂_same.mpr fun m _ ↦ .refl m
  | unlocked _ _ _ _ => exact advances_unlockScan _ _ _
  | released _ hfound hunlocked hterms hreleased _ =>
    refine advances_set hfound ⟨hterms, .inr ?_⟩
    rw [hunlocked, hreleased]
    rfl

theorem VectorStep.targets {action : Action} {campaign campaign' : CampaignData}
    {v v' : List MilestoneData} (h : VectorStep action campaign v campaign' v') :
    v'.map MilestoneData.targetAmount = v.map MilestoneData.targetAmount :=
  map_targets_of_terms (map_terms_of_advances h.advances)

theorem VectorStep.raised_le {action : Action} {campaign campaign' : CampaignData}
    {v v' : List MilestoneData} (h : VectorStep action campaign v campaign' v') :
    campaign.raisedAmount ≤ campaign'.raisedAmount := by
  cases h with
  | kept _ hraised | released _ _ _ _ _ hraised => exact hraised.ge
  | unlocked _ _ hpos hraised => exact (le_add_of_nonneg_right hpos.le).trans_eq hraised.symm

/-! ### The schedule along a run -/

/-- The goal and the milestones a call initializes the contract with. -/
def Call.initialization : Call → Option (ℤ × List MilestoneData)
  | .initializeCampaign _ goalAmount _ _ milestones _ => some (goalAmount, milestones)
  | _ => none

def Action.initialization : Action → Option (ℤ × List MilestoneData)
  | .invoke inv => inv.call.initialization
  | .transfer _ _ _ _ => none

/-- The step initialized the contract with a goal and a list of milestones. -/
def Initializes (r : Receipt Action World) (goalAmount : ℤ) (milestones : List MilestoneData) :
    Prop :=
  r.label.initialization = some (goalAmount, milestones)

theorem Action.initialization_eq_some {action : Action} {goalAmount : ℤ}
    {milestones : List MilestoneData} (h : action.initialization = some (goalAmount, milestones)) :
    ∃ inv creator endTime acceptedAssets minDonationAmount, action = .invoke inv ∧
      inv.call = .initializeCampaign creator goalAmount endTime acceptedAssets milestones
        minDonationAmount := by
  cases action with
  | transfer => exact nomatch h
  | invoke inv =>
    rw [Action.initialization] at h
    cases hcall : inv.call with
    | initializeCampaign creator goal endTime acceptedAssets list minDonationAmount =>
      rw [hcall] at h
      obtain ⟨rfl, rfl⟩ : goal = goalAmount ∧ list = milestones := by
        simpa [Call.initialization] using h
      exact ⟨inv, creator, endTime, acceptedAssets, minDonationAmount, rfl, hcall⟩
    | _ =>
      rw [hcall] at h
      exact nomatch h

/-- The stored schedule is the one of a goal and a list of milestones: the vector has its terms and
is all there is, and it is a valid schedule for the goal. -/
structure StoresSchedule (s : Storage) (goalAmount : ℤ) (milestones : List MilestoneData) :
    Prop where
  campaign : ∃ campaign, s.campaignData = some campaign ∧ campaign.goalAmount = goalAmount ∧
    campaign.milestoneCount = milestones.length
  terms : s.getMilestonesVec.map MilestoneData.terms = milestones.map MilestoneData.terms
  entries : ∀ i, s.getMilestone i = s.getMilestonesVec[i]?
  valid : ValidSchedule s.getMilestonesVec goalAmount

theorem Established.storesSchedule {s : Storage} {campaign : CampaignData}
    {v milestones : List MilestoneData} (h : Established s campaign v)
    (hterms : v.map MilestoneData.terms = milestones.map MilestoneData.terms) :
    StoresSchedule s campaign.goalAmount milestones := by
  have hvec := Storage.getMilestonesVec_of_vec h.vec
  have hlength : v.length = milestones.length := by simpa using congrArg List.length hterms
  exact
    { campaign := ⟨campaign, h.found, rfl, h.count.trans hlength⟩
      terms := by rw [hvec, hterms]
      entries := fun i ↦ by rw [hvec, h.getMilestone]
      valid := by rw [hvec]; exact h.schedule }

section Standard

variable {contract : Address} {overflowChecks : Bool} {ledger : Ledger Address Address}
  {wasmHash : BitVec 256} {history : List (Receipt Action World)} {w : World}

/-- Whatever holds right after the initialization and is kept by every step of an established
contract holds from the initialization on. -/
theorem CampaignRun.since_initialization
    {I : ℤ → List MilestoneData → List (Receipt Action World) → CampaignData →
      List MilestoneData → Prop}
    (hinit : ∀ goalAmount milestones history r campaign, campaign.goalAmount = goalAmount →
      Initializes r goalAmount milestones →
      I goalAmount milestones (r :: history) campaign milestones)
    (hstep : ∀ goalAmount milestones history r campaign v campaign' v',
      Established r.before.storage campaign v → Established r.after.storage campaign' v' →
      VectorStep r.label campaign v campaign' v' → campaign'.goalAmount = campaign.goalAmount →
      I goalAmount milestones history campaign v →
      I goalAmount milestones (r :: history) campaign' v')
    (run : CampaignRun contract overflowChecks ledger wasmHash history w) :
    ∀ r ∈ history, ∀ goalAmount milestones, Initializes r goalAmount milestones →
      ∃ campaign v, Established w.storage campaign v ∧
        I goalAmount milestones history campaign v := by
  refine CampaignRun.induction (I := fun history w ↦ ∀ r ∈ history, ∀ goalAmount milestones,
    Initializes r goalAmount milestones → ∃ campaign v, Established w.storage campaign v ∧
      I goalAmount milestones history campaign v) (by simp) ?_ run
  intro history w action next prior ih hstep' r hr goalAmount milestones hinitializes
  rcases List.mem_cons.mp hr with rfl | hr
  · obtain ⟨inv, creator, endTime, acceptedAssets, minDonationAmount, rfl, hcall⟩ :=
      Action.initialization_eq_some hinitializes
    obtain ⟨hempty, hinitialized⟩ := hstep'.of_initialize hcall
    exact ⟨_, _, .of_initialized hinitialized hempty, hinit _ _ _ _ _ rfl hinitializes⟩
  · obtain ⟨campaign, v, hestablished, hI⟩ := ih r hr goalAmount milestones hinitializes
    obtain ⟨campaign', v', hestablished', hgoal, hvector⟩ := hstep'.vectorStep hestablished
    exact ⟨campaign', v', hestablished', hstep _ _ _ _ _ _ _ _ hestablished hestablished' hvector
      hgoal hI⟩

/-- The contract is initialized once. -/
theorem marksOnce_initialization (contract : Address) (overflowChecks : Bool)
    (ledger : Ledger Address Address) (wasmHash : BitVec 256) :
    MarksOnce (chain (standardHost contract overflowChecks)) (.deployed ledger wasmHash)
      (fun action ↦ action.initialization.map fun _ ↦ ())
      (fun _ w ↦ w.storage.campaignData ≠ none) where
  fresh prior step hkey := by
    obtain ⟨⟨goalAmount, milestones⟩, hinit, -⟩ := Option.map_eq_some_iff.mp hkey
    obtain ⟨inv, _, _, _, _, rfl, hcall⟩ := Action.initialization_eq_some hinit
    have hstep := step_of_exec (CampaignRun.untouched prior) step
    have hinitialized := hstep.of_initialize hcall
    exact not_not_intro hinitialized.2.fresh
  marks prior step hkey := by
    obtain ⟨⟨goalAmount, milestones⟩, hinit, -⟩ := Option.map_eq_some_iff.mp hkey
    obtain ⟨inv, _, _, _, _, rfl, -⟩ := Action.initialization_eq_some hinit
    exact (step_of_exec (CampaignRun.untouched prior) step).campaign_isSome
  keeps prior step hmarked := by
    have hstep := step_of_exec (CampaignRun.untouched prior) step
    obtain ⟨campaign, hfound⟩ := Option.ne_none_iff_exists'.mp hmarked
    obtain ⟨v, hv⟩ := (CampaignRun.sound prior).established hfound
    obtain ⟨campaign', v', hv', -⟩ := hstep.vectorStep hv
    rw [hv'.found]
    exact Option.some_ne_none _

/-- Two initializations of a run are the same. -/
theorem CampaignRun.initializes_unique
    (run : CampaignRun contract overflowChecks ledger wasmHash history w)
    {r r' : Receipt Action World} (hr : r ∈ history) (hr' : r' ∈ history)
    {goalAmount goalAmount' : ℤ}
    {milestones milestones' : List MilestoneData} (h : Initializes r goalAmount milestones)
    (h' : Initializes r' goalAmount' milestones') : r = r' := by
  refine run.eq_of_key (marksOnce_initialization contract overflowChecks ledger wasmHash) hr hr'
    (k := ()) ?_ ?_
  · rw [h]
    rfl
  · rw [h']
    rfl

/-- The schedule stored at initialization stays what it was. -/
theorem CampaignRun.storesSchedule
    (run : CampaignRun contract overflowChecks ledger wasmHash history w) :
    ∀ r ∈ history, ∀ goalAmount milestones, Initializes r goalAmount milestones →
      StoresSchedule w.storage goalAmount milestones := by
  intro r hr goalAmount milestones hinitializes
  obtain ⟨campaign, v, hestablished, rfl, hterms⟩ := CampaignRun.since_initialization
    (I := fun goalAmount milestones _ campaign v ↦ campaign.goalAmount = goalAmount ∧
      v.map MilestoneData.terms = milestones.map MilestoneData.terms)
    (fun _ _ _ _ _ hgoal _ ↦ ⟨hgoal, rfl⟩) (fun _ _ _ _ _ _ _ _ _ _ hvector hgoal hI ↦
      ⟨hgoal.trans hI.1, (map_terms_of_advances hvector.advances).trans hI.2⟩)
    run r hr goalAmount milestones hinitializes
  exact hestablished.storesSchedule hterms

/-- Every step after the initialization advances every milestone. -/
theorem CampaignRun.advances
    (run : CampaignRun contract overflowChecks ledger wasmHash history w) :
    ∀ r ∈ history, r.before.storage.campaignData ≠ none →
      List.Forall₂ Advances r.before.storage.getMilestonesVec r.after.storage.getMilestonesVec := by
  intro r hr hcampaign
  obtain ⟨hstep, earlier, hearlier⟩ := CampaignRun.step_of_mem run hr
  obtain ⟨campaign, hfound⟩ := Option.ne_none_iff_exists'.mp hcampaign
  obtain ⟨v, hv⟩ := (CampaignRun.sound hearlier).established hfound
  obtain ⟨campaign', v', hv', -, hvector⟩ := hstep.vectorStep hv
  rw [Storage.getMilestonesVec_of_vec hv.vec, Storage.getMilestonesVec_of_vec hv'.vec]
  exact hvector.advances

/-- A milestone's releases happen once. -/
theorem marksOnce_releases (contract : Address) (overflowChecks : Bool)
    (ledger : Ledger Address Address) (wasmHash : BitVec 256) :
    MarksOnce (chain (standardHost contract overflowChecks)) (.deployed ledger wasmHash)
      Action.releasedIndex (fun index w ↦ IsReleased w.storage index) where
  fresh prior step hkey := (step_of_exec (CampaignRun.untouched prior) step).not_isReleased hkey
  marks prior step hkey :=
    (step_of_exec (CampaignRun.untouched prior) step).isReleased_of_releasedIndex
      (CampaignRun.sound prior) hkey
  keeps prior step hmarked :=
    (step_of_exec (CampaignRun.untouched prior) step).isReleased (CampaignRun.sound prior) hmarked

/-- Along every run, the schedule stored at initialization keeps its length, its terms and its
order, every step advances each milestone by one documented transition at most, and no milestone is
released twice. -/
theorem schedule_integrity
    (run : CampaignRun contract overflowChecks ledger wasmHash history w) :
    (∀ r ∈ history, ∀ goalAmount milestones, Initializes r goalAmount milestones →
      StoresSchedule w.storage goalAmount milestones) ∧
    (∀ r ∈ history, r.before.storage.campaignData ≠ none →
      List.Forall₂ Advances r.before.storage.getMilestonesVec
        r.after.storage.getMilestonesVec) ∧
    history.Pairwise fun later earlier ↦
      ∀ index, later.label.releasedIndex = some index →
        earlier.label.releasedIndex ≠ some index :=
  ⟨CampaignRun.storesSchedule run, CampaignRun.advances run,
    run.once (marksOnce_releases contract overflowChecks ledger wasmHash)⟩

/-- Two milestones are released by different calls, and the first is tried again. -/
def Sample.bothReleased : List Action :=
  [Sample.opening [⟨"XLM", some Sample.token⟩] [Sample.milestone 500, Sample.milestone 1000] 1000,
    Sample.giving Sample.donor 1000 Sample.token,
    .transfer Sample.token Sample.donor Sample.contract 1500,
    Sample.call Sample.creator (.releaseMilestone 0 Sample.recipient),
    Sample.call Sample.creator (.releaseMilestoneMultiAsset 1 Sample.recipient),
    Sample.call Sample.creator (.releaseMilestoneMultiAsset 0 Sample.recipient)]

theorem schedule_integrity_bothReleased :
    (Sample.history Sample.bothReleased).filterMap (fun r ↦ r.label.releasedIndex) = [1, 0] ∧
      StoresSchedule (Sample.reached Sample.bothReleased).storage 1000
        [Sample.milestone 500, Sample.milestone 1000] ∧
      (Sample.history Sample.bothReleased).Pairwise fun later earlier ↦
        ∀ index, later.label.releasedIndex = some index →
          earlier.label.releasedIndex ≠ some index := by
  obtain ⟨hstores, -, honce⟩ := schedule_integrity (Sample.run Sample.bothReleased)
  have hopened : ∃ r ∈ Sample.history Sample.bothReleased,
      Initializes r 1000 [Sample.milestone 500, Sample.milestone 1000] := by
    unfold Initializes
    decide +kernel
  obtain ⟨r, hr, hinit⟩ := hopened
  exact ⟨by decide +kernel, hstores r hr _ _ hinit, honce⟩

end Standard

end OrbitChain.Campaign
