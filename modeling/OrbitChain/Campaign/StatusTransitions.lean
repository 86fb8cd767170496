import OrbitChain.Campaign.Administration
import OrbitChain.Campaign.Invariants

/-!
# The campaign's life cycle

The status of a campaign moves along the documented transitions of
`CampaignStatus.canTransitionTo`, in which ended and cancelled campaigns stay what they are. Three
places write the status: the donation that reaches the goal, and the two calls that conclude the
campaign. The calls decide by a table of their own, `validateCampaignTransition`, which also lets
an ended campaign be cancelled. A run follows the documented life cycle exactly when no step of it
does that (`lifecycle_iff`).
-/

set_option autoImplicit false
set_option relaxedAutoImplicit false

namespace OrbitChain.Campaign

open Foundations

/-- A change of the campaign record that the documented life cycle allows. -/
structure LifecycleStep (before after : CampaignData) : Prop where
  transition : after.status = before.status ∨
    before.status.canTransitionTo after.status = true
  absorbing : before.status.isTerminal = true → after.status = before.status
  conclusion : before.concludedAtLedger.isSome = true →
    after.concludedAtLedger = before.concludedAtLedger

/-- A step of a run that changes the campaign record as the life cycle allows. -/
def FollowsLifecycle (r : Receipt Action World) : Prop :=
  ∀ before after, r.before.storage.campaignData = some before →
    r.after.storage.campaignData = some after → LifecycleStep before after

/-- The ledger of the conclusion is recorded exactly in concluded campaigns. -/
def ConclusionRecorded (s : Storage) : Prop :=
  ∀ campaign, s.campaignData = some campaign →
    (campaign.concludedAtLedger.isSome = true ↔ campaign.status.isTerminal = true)

/-- Every status and conclusion that a run recorded is still there in the world. -/
def ConclusionsKept (history : List (Receipt Action World)) (w : World) : Prop :=
  ∀ r ∈ history, ∀ campaign, r.after.storage.campaignData = some campaign →
    campaign.status.isTerminal = true →
      ∃ current, w.storage.campaignData = some current ∧ current.status = campaign.status ∧
        current.concludedAtLedger = campaign.concludedAtLedger

/-- The step cancels a campaign that has ended. -/
def CancelsEnded (r : Receipt Action World) : Prop :=
  r.label.invokes Call.cancels = true ∧
    ∃ campaign, r.before.storage.campaignData = some campaign ∧ campaign.status = .ended

/-! ### What a step does to the record -/

theorem LifecycleStep.refl (campaign : CampaignData) : LifecycleStep campaign campaign where
  transition := .inl rfl
  absorbing := fun _ ↦ rfl
  conclusion := fun _ ↦ rfl

/-- From an open campaign without a recorded conclusion every documented transition is allowed. -/
theorem LifecycleStep.of_open {before after : CampaignData}
    (hopen : before.status.isTerminal = false) (hconcluded : before.concludedAtLedger = none)
    (htransition : after.status = before.status ∨
      before.status.canTransitionTo after.status = true) : LifecycleStep before after where
  transition := htransition
  absorbing := fun hterminal ↦ absurd (hopen.symm.trans hterminal) Bool.false_ne_true
  conclusion := fun hsome ↦ by
    rw [hconcluded] at hsome
    exact absurd hsome Bool.false_ne_true

/-- An open campaign has no recorded conclusion. -/
theorem ConclusionRecorded.eq_none {s : Storage} (h : ConclusionRecorded s)
    {campaign : CampaignData} (hfound : s.campaignData = some campaign)
    (hopen : campaign.status.isTerminal = false) : campaign.concludedAtLedger = none := by
  rw [← Option.not_isSome_iff_eq_none, h campaign hfound, hopen]
  exact Bool.false_ne_true

/-- A donation changes the status only by reaching the goal. -/
theorem transition_withRaised (campaign : CampaignData) (raised : ℤ) :
    (campaign.withRaised raised).status = campaign.status ∨
      campaign.status.canTransitionTo (campaign.withRaised raised).status = true := by
  unfold CampaignData.withRaised
  dsimp only
  split_ifs with hreached
  · rw [hreached.2]
    exact .inr rfl
  · exact .inl rfl

/-- A donation concludes nothing. -/
theorem withRaised_isTerminal (campaign : CampaignData) (raised : ℤ) :
    (campaign.withRaised raised).status.isTerminal = campaign.status.isTerminal := by
  unfold CampaignData.withRaised
  dsimp only
  split_ifs with hreached
  · rw [hreached.2]
    rfl
  · rfl

/-- Open campaigns can be ended and cancelled. -/
theorem canTransitionTo_of_open {status target : CampaignStatus}
    (hopen : status.acceptsDonations = true) (htarget : target.isTerminal = true) :
    status.canTransitionTo target = true := by
  cases status <;> cases target <;> simp_all [CampaignStatus.acceptsDonations,
    CampaignStatus.isTerminal, CampaignStatus.canTransitionTo]

/-- An amendment follows the life cycle unless it cancels an ended campaign. -/
theorem lifecycleStep_amended_iff {env : Env} {call : Call} {w next : World}
    {campaign : CampaignData} (h : CampaignContract.Amended env call w next campaign)
    (hrecorded : ConclusionRecorded w.storage) :
    LifecycleStep campaign (call.amended env campaign) ↔
      ¬ (call.cancels = true ∧ campaign.status = .ended) := by
  rcases h.permitted with hopen | ⟨rfl, hended⟩
  · have hterminal : campaign.status.isTerminal = false := by
      rwa [CampaignStatus.acceptsDonations_eq_not_isTerminal, Bool.not_eq_true'] at hopen
    refine iff_of_true (.of_open hterminal (hrecorded.eq_none h.found hterminal) ?_) ?_
    · cases call with
      | endCampaign => exact .inr (canTransitionTo_of_open hopen rfl)
      | cancelCampaign => exact .inr (canTransitionTo_of_open hopen rfl)
      | _ => exact .inl rfl
    · rintro ⟨-, hended⟩
      rw [hended] at hterminal
      exact absurd hterminal.symm Bool.false_ne_true
  · refine iff_of_false (fun hstep ↦ ?_) (not_not_intro ⟨rfl, hended⟩)
    have hsame := hstep.absorbing (by rw [hended]; rfl)
    rw [hended] at hsame
    exact nomatch hsame

/-- A call that does not conclude the campaign does not cancel it. -/
theorem not_cancelsEnded_of_concludes {r : Receipt Action World}
    (h : r.label.invokes Call.concludes = false) : ¬ CancelsEnded r := by
  rintro ⟨hcancels, -⟩
  rw [Action.invokes_of_invokes Call.concludes_of_cancels hcancels] at h
  exact absurd h.symm Bool.false_ne_true

/-- A step follows the life cycle exactly when it does not cancel an ended campaign. -/
theorem RecordStep.followsLifecycle_iff {host : Host} {action : Action} {w next : World}
    (h : RecordStep host action w next) (hrecorded : ConclusionRecorded w.storage) :
    FollowsLifecycle ⟨action, w, next⟩ ↔ ¬ CancelsEnded ⟨action, w, next⟩ := by
  cases h with
  | kept hcall hsame =>
    refine iff_of_true (fun before after hbefore hafter ↦ ?_) (not_cancelsEnded_of_concludes hcall)
    obtain rfl := Option.some.inj (hbefore.symm.trans (hsame.symm.trans hafter))
    exact .refl before
  | created _ _ hfresh _ =>
    refine iff_of_true (fun before _ hbefore _ ↦ ?_) ?_
    · exact absurd (hfresh.symm.trans hbefore) (by simp)
    · rintro ⟨-, campaign, hfound, -⟩
      exact absurd (hfresh.symm.trans hfound) (by simp)
  | donated hcall hfound hopen hleft =>
    refine iff_of_true (fun before after hbefore hafter ↦ ?_) ?_
    · obtain rfl := Option.some.inj (hfound.symm.trans hbefore)
      obtain rfl := Option.some.inj (hleft.symm.trans hafter)
      exact .of_open hopen (hrecorded.eq_none hfound hopen) (transition_withRaised _ _)
    · rintro ⟨-, campaign, hfound', hended⟩
      obtain rfl := Option.some.inj (hfound.symm.trans hfound')
      rw [hended] at hopen
      exact absurd hopen.symm Bool.false_ne_true
  | amended _ h =>
    have hstep := lifecycleStep_amended_iff h hrecorded
    constructor
    · rintro hfollows ⟨hname, found, hfound, hended⟩
      obtain rfl := Option.some.inj (h.found.symm.trans hfound)
      exact hstep.mp (hfollows _ _ h.found h.campaignData_eq) ⟨hname, hended⟩
    · intro hcancel before after hbefore hafter
      obtain rfl := Option.some.inj (h.found.symm.trans hbefore)
      obtain rfl := Option.some.inj (h.campaignData_eq.symm.trans hafter)
      exact hstep.mpr fun hboth ↦ hcancel ⟨hboth.1, _, h.found, hboth.2⟩

/-- Every step records the ledger of a conclusion, and no other. -/
theorem RecordStep.conclusionRecorded {host : Host} {action : Action} {w next : World}
    (h : RecordStep host action w next) (hrecorded : ConclusionRecorded w.storage) :
    ConclusionRecorded next.storage := by
  intro after hafter
  cases h with
  | kept _ hsame => exact hrecorded after (hsame.symm.trans hafter)
  | created _ _ _ hleft =>
    obtain rfl := Option.some.inj (hleft.symm.trans hafter)
    exact iff_of_false Bool.false_ne_true Bool.false_ne_true
  | @donated _ _ _ campaign _ _ hfound hopen hleft =>
    obtain rfl := Option.some.inj (hleft.symm.trans hafter)
    rw [withRaised_isTerminal, hopen]
    show campaign.concludedAtLedger.isSome = true ↔ false = true
    rw [hrecorded.eq_none hfound hopen]
    exact iff_of_false Bool.false_ne_true Bool.false_ne_true
  | @amended inv _ _ campaign _ h =>
    obtain rfl := Option.some.inj (h.campaignData_eq.symm.trans hafter)
    have hsame := hrecorded campaign h.found
    cases inv.call with
    | endCampaign => exact iff_of_true rfl rfl
    | cancelCampaign => exact iff_of_true rfl rfl
    | _ => exact hsame

/-- A step that follows the life cycle keeps every conclusion recorded before it. -/
theorem ConclusionsKept.cons {history : List (Receipt Action World)} {w next : World}
    {action : Action} (h : ConclusionsKept history w)
    (hkeeps : w.storage.campaignData ≠ none → next.storage.campaignData ≠ none)
    (hrecorded : ConclusionRecorded w.storage) (hfollows : FollowsLifecycle ⟨action, w, next⟩) :
    ConclusionsKept (⟨action, w, next⟩ :: history) next := by
  intro r hr campaign hfound hterminal
  rcases List.mem_cons.mp hr with rfl | hr
  · exact ⟨campaign, hfound, rfl, rfl⟩
  · obtain ⟨current, hcurrent, hstatus, hconcluded⟩ := h r hr campaign hfound hterminal
    obtain ⟨after, hafter⟩ := Option.ne_none_iff_exists'.mp (hkeeps (by rw [hcurrent]; simp))
    have hstep := hfollows current after hcurrent hafter
    have hterminal' : current.status.isTerminal = true := by rwa [hstatus]
    exact ⟨after, hafter, (hstep.absorbing hterminal').trans hstatus,
      (hstep.conclusion ((hrecorded current hcurrent).mpr hterminal')).trans hconcluded⟩

/-- A campaign record is never removed. -/
theorem RecordStep.campaignData_ne_none {host : Host} {action : Action} {w next : World}
    (h : RecordStep host action w next) (hw : w.storage.campaignData ≠ none) :
    next.storage.campaignData ≠ none := by
  cases h with
  | kept _ hsame => rwa [hsame]
  | created _ _ _ hleft => simp [hleft]
  | donated _ _ _ hleft => simp [hleft]
  | amended _ h => simp [h.campaignData_eq]

/-! ### The life cycle of a run -/

section Standard

variable {contract : Address} {overflowChecks : Bool} {ledger : Ledger Address Address}
  {wasmHash : BitVec 256} {history : List (Receipt Action World)} {w : World}

/-- Every reachable state records the ledger of the conclusion exactly in concluded campaigns. -/
theorem CampaignRun.conclusionRecorded
    (run : CampaignRun contract overflowChecks ledger wasmHash history w) :
    ConclusionRecorded w.storage :=
  run.invariant (I := fun _ w ↦ ConclusionRecorded w.storage)
    (fun _ hfound ↦ absurd hfound (by simp [World.deployed, Storage.empty]))
    fun _ _ _ _ prior hrecorded hexec ↦
      (recordStep_of_exec (CampaignRun.untouched prior) hexec).conclusionRecorded hrecorded

/-- A run that follows the life cycle step by step keeps every conclusion to its end. -/
theorem CampaignRun.conclusionsKept
    (run : CampaignRun contract overflowChecks ledger wasmHash history w)
    (hfollows : ∀ r ∈ history, FollowsLifecycle r) : ConclusionsKept history w := by
  refine run.invariant
    (I := fun history w ↦ (∀ r ∈ history, FollowsLifecycle r) → ConclusionsKept history w)
    (fun _ r hr ↦ absurd hr List.not_mem_nil) ?_ hfollows
  intro history w action next prior ih hexec hfollows
  have hstep := recordStep_of_exec (CampaignRun.untouched prior) hexec
  exact (ih fun r hr ↦ hfollows r (List.mem_cons_of_mem _ hr)).cons hstep.campaignData_ne_none
    (CampaignRun.conclusionRecorded prior) (hfollows _ List.mem_cons_self)

/-- The creator ends a campaign and then cancels it. -/
def Sample.cancelEnded : List Action :=
  [Sample.opening [⟨"XLM", some Sample.token⟩] [Sample.milestone 1000] 1000,
    Sample.call Sample.creator .endCampaign, Sample.call Sample.creator .cancelCampaign]

/-- A run follows the documented life cycle, keeps every conclusion it recorded and records them
exactly in concluded campaigns if and only if it never cancels a campaign that has ended. -/
theorem lifecycle_iff (run : CampaignRun contract overflowChecks ledger wasmHash history w) :
    ((∀ r ∈ history, FollowsLifecycle r) ∧ ConclusionsKept history w ∧
      ConclusionRecorded w.storage) ↔ ∀ r ∈ history, ¬ CancelsEnded r := by
  have hsteps : (∀ r ∈ history, FollowsLifecycle r) ↔ ∀ r ∈ history, ¬ CancelsEnded r := by
    refine forall₂_congr fun r hr ↦ ?_
    obtain ⟨hexec, earlier, hearlier⟩ := run.fired hr
    exact (recordStep_of_exec (CampaignRun.untouched hearlier) hexec).followsLifecycle_iff
      (CampaignRun.conclusionRecorded hearlier)
  rw [← hsteps]
  exact ⟨And.left, fun hfollows ↦
    ⟨hfollows, CampaignRun.conclusionsKept run hfollows, CampaignRun.conclusionRecorded run⟩⟩

end Standard

/-- The last step of the sample run cancels the ended campaign. -/
theorem Sample.exists_cancelsEnded : ∃ r ∈ Sample.history Sample.cancelEnded, CancelsEnded r := by
  have hcancel : ∃ r ∈ Sample.history Sample.cancelEnded,
      r.label = Sample.call Sample.creator .cancelCampaign ∧
        r.before.storage.campaignData.map CampaignData.status = some .ended := by decide +kernel
  obtain ⟨r, hr, hlabel, hended⟩ := hcancel
  exact ⟨r, hr, by rw [hlabel]; rfl, Option.map_eq_some_iff.mp hended⟩

theorem lifecycle_iff_cancelEnded :
    ¬ ((∀ r ∈ Sample.history Sample.cancelEnded, FollowsLifecycle r) ∧
      ConclusionsKept (Sample.history Sample.cancelEnded) (Sample.reached Sample.cancelEnded) ∧
        ConclusionRecorded (Sample.reached Sample.cancelEnded).storage) := by
  rw [lifecycle_iff (Sample.run Sample.cancelEnded)]
  obtain ⟨r, hr, hcancel⟩ := Sample.exists_cancelsEnded
  exact fun h ↦ h r hr hcancel

/-- The status of an ended campaign can change to cancelled. -/
theorem ended_not_absorbing :
    ¬ ∀ (contract : Address) (overflowChecks : Bool) (ledger : Ledger Address Address)
      (wasmHash : BitVec 256) (history : List (Receipt Action World)) (w : World),
      CampaignRun contract overflowChecks ledger wasmHash history w →
        ∀ r ∈ history, FollowsLifecycle r := by
  intro h
  have hfollows := h _ _ _ _ _ _ (Sample.run Sample.cancelEnded)
  have hcancelled : ∃ r ∈ Sample.history Sample.cancelEnded,
      r.before.storage.campaignData.map CampaignData.status = some .ended ∧
        r.after.storage.campaignData.map CampaignData.status = some .cancelled := by
    decide +kernel
  obtain ⟨r, hr, hbefore, hafter⟩ := hcancelled
  obtain ⟨before, hbefore, hended⟩ := Option.map_eq_some_iff.mp hbefore
  obtain ⟨after, hafter, hcancelled⟩ := Option.map_eq_some_iff.mp hafter
  have hstep := (hfollows r hr before after hbefore hafter).absorbing (by rw [hended]; rfl)
  rw [hended, hcancelled] at hstep
  exact nomatch hstep

end OrbitChain.Campaign
