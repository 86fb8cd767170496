import OrbitChain.Campaign.Invariants

/-!
# The order of releases

`release_milestone` releases a milestone only after its predecessor, and nothing takes a release
back. Two paths around the rule remain: `initialize` stores whatever statuses it is given, and
`release_milestone_multi_asset` does not look at the predecessor. A step is `InOrder` when it
takes neither, and the released milestones are a prefix of the schedule throughout a run exactly
when every step of the run is in order.
-/

set_option autoImplicit false
set_option relaxedAutoImplicit false

namespace OrbitChain.Campaign

open Foundations

/-- A milestone record, if any, is released. -/
def IsReleasedRecord (milestone : Option MilestoneData) : Prop :=
  milestone.map MilestoneData.status = some .released

instance (milestone : Option MilestoneData) : Decidable (IsReleasedRecord milestone) :=
  inferInstanceAs (Decidable (_ = _))

/-- Milestone `i` of a storage is released. -/
def IsReleased (s : Storage) (i : ℕ) : Prop := IsReleasedRecord (s.getMilestone i)

instance (s : Storage) (i : ℕ) : Decidable (IsReleased s i) :=
  inferInstanceAs (Decidable (IsReleasedRecord _))

/-- The released milestones form a prefix of the schedule. -/
def ReleasedPrefix (s : Storage) : Prop := ∀ i j, j < i → IsReleased s i → IsReleased s j

/-- The step obeys the order of releases: a schedule starts with its released milestones, and a
multi-asset release follows the release of the predecessor. -/
def InOrder (r : Receipt Action World) : Prop :=
  match r.label with
  | .invoke ⟨_, _, _, .initializeCampaign _ _ _ _ milestones _⟩ =>
    ∀ i j : ℕ, j < i → IsReleasedRecord milestones[i]? → IsReleasedRecord milestones[j]?
  | .invoke ⟨_, _, _, .releaseMilestoneMultiAsset index _⟩ =>
    ReleaseMilestone.PredecessorReleased r.before.storage index
  | _ => True

namespace Call

/-- The milestone a call releases. -/
def releasedIndex : Call → Option ℕ
  | .releaseMilestone index _ | .releaseMilestoneMultiAsset index _ => some index
  | _ => none

theorem releasedIndex_of_administrative {call : Call} (h : call.isAdministrative = true) :
    call.releasedIndex = none := by
  cases call with
  | releaseMilestone | releaseMilestoneMultiAsset => exact absurd h Bool.false_ne_true
  | _ => rfl

theorem isRelease_eq_isSome (call : Call) : call.isRelease = call.releasedIndex.isSome := by
  cases call <;> rfl

end Call

/-- The milestone an action releases. -/
def Action.releasedIndex : Action → Option ℕ
  | .invoke inv => inv.call.releasedIndex
  | .transfer _ _ _ _ => none

theorem Action.releasedIndex_of_call {inv : Invocation} {call : Call} (hcall : inv.call = call) :
    (Action.invoke inv).releasedIndex = call.releasedIndex :=
  congrArg Call.releasedIndex hcall

/-- An action that releases a milestone calls one of the two release entrypoints with its index. -/
theorem Action.of_releasedIndex {action : Action} {index : ℕ}
    (h : action.releasedIndex = some index) :
    ∃ timestamp sequence authorisers recipient,
      action = .invoke ⟨timestamp, sequence, authorisers, .releaseMilestone index recipient⟩ ∨
      action = .invoke
        ⟨timestamp, sequence, authorisers, .releaseMilestoneMultiAsset index recipient⟩ := by
  obtain ⟨timestamp, sequence, authorisers, call⟩ | _ := action
  · cases call with
    | releaseMilestone found recipient =>
      obtain rfl := Option.some.inj h
      exact ⟨timestamp, sequence, authorisers, recipient, .inl rfl⟩
    | releaseMilestoneMultiAsset found recipient =>
      obtain rfl := Option.some.inj h
      exact ⟨timestamp, sequence, authorisers, recipient, .inr rfl⟩
    | _ => exact absurd h.symm (Option.some_ne_none index)
  · exact absurd h.symm (Option.some_ne_none index)

theorem Action.isRelease_eq_isSome (action : Action) :
    action.invokes Call.isRelease = action.releasedIndex.isSome := by
  cases action with
  | invoke inv => exact inv.call.isRelease_eq_isSome
  | transfer => rfl

theorem isReleasedRecord_iff {milestone : Option MilestoneData} :
    IsReleasedRecord milestone ↔ ∃ m, milestone = some m ∧ m.status = .released :=
  Option.map_eq_some_iff

/-- The predecessor rule in terms of released milestones. -/
theorem predecessorReleased_iff {s : Storage} {index : ℕ} :
    ReleaseMilestone.PredecessorReleased s index ↔ ∀ i, index = i + 1 → IsReleased s i :=
  forall₂_congr fun _ _ ↦ isReleasedRecord_iff.symm

/-- The refund policy finds a released milestone of an established contract when there is one. -/
theorem Established.anyMilestoneReleased_iff {s : Storage} {campaign : CampaignData}
    {v : List MilestoneData} (hs : Established s campaign v) :
    anyMilestoneReleased s campaign.milestoneCount = true ↔ ∃ i, IsReleased s i := by
  have hfound (i : ℕ) : ((s.getMilestone i).any fun m ↦ m.status = .released) = true ↔
      IsReleased s i := by
    rw [IsReleased, isReleasedRecord_iff]
    cases s.getMilestone i <;> simp
  rw [anyMilestoneReleased, List.any_eq_true]
  constructor
  · rintro ⟨i, -, hreleased⟩
    exact ⟨i, (hfound i).mp hreleased⟩
  · rintro ⟨i, hreleased⟩
    obtain ⟨m, hm, -⟩ := isReleasedRecord_iff.mp hreleased
    have hi := (List.getElem?_eq_some_iff.mp (hs.milestone_found hm)).1
    exact ⟨i, List.mem_range.mpr (hs.count ▸ hi), (hfound i).mpr hreleased⟩

/-- In an established contract refunds are open when the campaign is cancelled, or ended with no
milestone released. -/
theorem Established.refundsOpen_iff {s : Storage} {campaign : CampaignData}
    {v : List MilestoneData} (hs : Established s campaign v) :
    RefundsOpen s campaign ↔ campaign.status = .cancelled ∨
      campaign.status = .ended ∧ ∀ i, ¬ IsReleased s i := by
  rw [RefundsOpen, ← Bool.not_eq_true, hs.anyMilestoneReleased_iff, not_exists]

/-! ### What a step does to the released milestones -/

/-- An unlock releases nothing and takes no release back. -/
theorem isReleasedRecord_unlock (raised : ℤ) (milestone : Option MilestoneData) :
    IsReleasedRecord (milestone.map (MilestoneData.unlock raised)) ↔
      IsReleasedRecord milestone := by
  cases milestone with
  | none => exact Iff.rfl
  | some m =>
    have hstatus : decide ((m.unlock raised).status = .released) =
        decide (m.status = .released) := by
      apply MilestoneData.apply_unlock fun m ↦ decide (m.status = .released)
      intro m hlocked
      rw [hlocked]
      rfl
    simpa [IsReleasedRecord] using hstatus

/-- Writing a released record releases its milestone and no other. -/
theorem set_released {v : List MilestoneData} {index : ℕ} {m data : MilestoneData}
    (hm : v[index]? = some m) (hdata : data.status = .released) (i : ℕ) :
    IsReleasedRecord (v.set index data)[i]? ↔ index = i ∨ IsReleasedRecord v[i]? := by
  rw [List.getElem?_set]
  by_cases hi : index = i
  · have hindex := (List.getElem?_eq_some_iff.mp hm).1
    rw [if_pos hi, if_pos hindex]
    simp [IsReleasedRecord, hdata, hi]
  · rw [if_neg hi]
    simp [hi]

/-- Initialization releases what its schedule says. -/
theorem isReleased_of_initialized {env : Env} {creator : Address} {goalAmount : ℤ}
    {endTime : ℕ} {acceptedAssets : List StellarAsset} {milestones : List MilestoneData}
    {minDonationAmount : ℤ} {w next : World}
    (h : CampaignContract.Initialized env creator goalAmount endTime acceptedAssets milestones
      minDonationAmount w next) (hempty : w.storage = .empty) (i : ℕ) :
    IsReleased next.storage i ↔ IsReleasedRecord milestones[i]? := by
  rw [IsReleased, (Established.of_initialized h hempty).getMilestone]

/-- Any other action releases the milestone it names, if any, and takes no release back. -/
theorem Step.isReleased_iff {host : Host} {action : Action} {w next : World}
    (h : Step host action w next) (hw : Sound w.storage)
    (hcampaign : w.storage.campaignData ≠ none) (i : ℕ) :
    IsReleased next.storage i ↔ action.releasedIndex = some i ∨ IsReleased w.storage i := by
  cases h with
  | transferred _ _ hstorage =>
    rw [hstorage]
    simp [Action.releasedIndex]
  | initialized _ _ _ h => exact absurd h.fresh hcampaign
  | donated _ hcall h =>
    obtain ⟨v, hv⟩ := hw.established h.found
    rw [IsReleased, IsReleased, (hv.of_donated h).2.getMilestone, hv.getMilestone,
      List.getElem?_map, isReleasedRecord_unlock, Action.releasedIndex_of_call hcall]
    simp [Call.releasedIndex]
  | claimed _ hcall h =>
    obtain ⟨v, hv⟩ := hw.established h.found
    rw [IsReleased, IsReleased, (hv.of_claimed h).2.getMilestone, hv.getMilestone,
      Action.releasedIndex_of_call hcall]
    simp [Call.releasedIndex]
  | released _ hcall h =>
    obtain ⟨v, hv⟩ := hw.established h.found
    obtain ⟨-, hm, hnext⟩ := hv.of_released h
    rw [IsReleased, IsReleased, hnext.getMilestone, hv.getMilestone, set_released hm rfl,
      Action.releasedIndex_of_call hcall]
    simp [Call.releasedIndex]
  | multiReleased _ hcall h =>
    obtain ⟨v, hv⟩ := hw.established h.found
    obtain ⟨-, hm, hnext⟩ := hv.of_multiReleased h
    rw [IsReleased, IsReleased, hnext.getMilestone, hv.getMilestone, set_released hm rfl,
      Action.releasedIndex_of_call hcall]
    simp [Call.releasedIndex]
  | administered _ hcall h =>
    obtain ⟨v, hv⟩ := hw.established h.found
    rw [IsReleased, IsReleased, (hv.of_administered h).2.getMilestone, hv.getMilestone,
      Action.releasedIndex, Call.releasedIndex_of_administrative hcall]
    simp

/-- Before there is a campaign, nothing is released. -/
theorem Step.releasedIndex_of_fresh {host : Host} {action : Action} {w next : World}
    (h : Step host action w next) (hfresh : w.storage.campaignData = none) :
    action.releasedIndex = none := by
  cases action with
  | transfer => rfl
  | invoke inv =>
    obtain ⟨_, _, _, _, _, _, hcall⟩ := h.initialize_of_fresh hfresh
    exact Action.releasedIndex_of_call hcall

/-- A release finds its milestone unlocked. -/
theorem Step.exists_unlocked {host : Host} {action : Action} {w next : World}
    (h : Step host action w next) {index : ℕ} (hindex : action.releasedIndex = some index) :
    ∃ m, w.storage.getMilestone index = some m ∧ m.status = .unlocked := by
  cases h with
  | released _ hcall h | multiReleased _ hcall h =>
    rw [Action.releasedIndex_of_call hcall] at hindex
    obtain rfl := Option.some.inj hindex
    exact ⟨_, h.milestone_found, h.unlocked⟩
  | administered _ hcall _ =>
    rw [Action.releasedIndex, Call.releasedIndex_of_administrative hcall] at hindex
    exact absurd hindex (by simp)
  | transferred => exact absurd hindex (by simp [Action.releasedIndex])
  | initialized _ hcall _ _ | donated _ hcall _ | claimed _ hcall _ =>
    rw [Action.releasedIndex_of_call hcall] at hindex
    exact absurd hindex (by simp [Call.releasedIndex])

/-- A milestone that is released is not released again. -/
theorem Step.not_isReleased {host : Host} {action : Action} {w next : World}
    (h : Step host action w next) {index : ℕ} (hindex : action.releasedIndex = some index) :
    ¬ IsReleased w.storage index := by
  obtain ⟨m, hm, hunlocked⟩ := h.exists_unlocked hindex
  rw [IsReleased, IsReleasedRecord, hm, Option.map_some, hunlocked]
  simp

/-- A release releases its milestone. -/
theorem Step.isReleased_of_releasedIndex {host : Host} {action : Action} {w next : World}
    (h : Step host action w next) (hw : Sound w.storage) {index : ℕ}
    (hindex : action.releasedIndex = some index) : IsReleased next.storage index := by
  have hcampaign : w.storage.campaignData ≠ none := by
    intro hfresh
    rw [h.releasedIndex_of_fresh hfresh] at hindex
    exact nomatch hindex
  exact (h.isReleased_iff hw hcampaign index).mpr (.inl hindex)

/-- A released milestone stays released. -/
theorem Step.isReleased {host : Host} {action : Action} {w next : World}
    (h : Step host action w next) (hw : Sound w.storage) {index : ℕ}
    (hreleased : IsReleased w.storage index) : IsReleased next.storage index := by
  obtain ⟨m, hm, -⟩ := isReleasedRecord_iff.mp hreleased
  exact (h.isReleased_iff hw (hw.untouched.campaign_ne_none hm) index).mpr (.inr hreleased)

/-- Releasing a milestone keeps a prefix exactly when its predecessor is released. -/
theorem releasedPrefix_of_predecessor {s s' : Storage} {index : ℕ}
    (h : ∀ i, IsReleased s' i ↔ index = i ∨ IsReleased s i) (hs : ReleasedPrefix s)
    (hpredecessor : ReleaseMilestone.PredecessorReleased s index) : ReleasedPrefix s' := by
  rw [predecessorReleased_iff] at hpredecessor
  intro i j hj hi
  rw [h] at hi ⊢
  right
  rcases hi with rfl | hi
  · obtain ⟨k, rfl⟩ := Nat.exists_eq_succ_of_ne_zero (Nat.ne_zero_of_lt hj)
    have hk := hpredecessor k rfl
    rcases Nat.lt_succ_iff_lt_or_eq.mp hj with hlt | rfl
    · exact hs k j hlt hk
    · exact hk
  · exact hs i j hj hi

theorem predecessor_of_releasedPrefix {s s' : Storage} {index : ℕ}
    (h : ∀ i, IsReleased s' i ↔ index = i ∨ IsReleased s i) (hs' : ReleasedPrefix s') :
    ReleaseMilestone.PredecessorReleased s index := by
  rw [predecessorReleased_iff]
  rintro i rfl
  have hi := (h i).mp (hs' (i + 1) i (Nat.lt_succ_self i) ((h (i + 1)).mpr (.inl rfl)))
  rcases hi with hi | hi
  · exact absurd hi (Nat.succ_ne_self i)
  · exact hi

/-! ### The order of a run -/

/-- A step that keeps the prefix is in order. -/
theorem Step.inOrder {host : Host} {action : Action} {w next : World}
    (h : Step host action w next) (hw : Sound w.storage) (hnext : ReleasedPrefix next.storage) :
    InOrder ⟨action, w, next⟩ := by
  cases action with
  | transfer token source target amount => exact trivial
  | invoke inv =>
    obtain ⟨timestamp, sequence, authorisers, call⟩ := inv
    cases call with
    | initializeCampaign creator goalAmount endTime acceptedAssets milestones minDonationAmount =>
      obtain ⟨hempty, hinit⟩ := h.of_initialize rfl
      intro i j hj hi
      rw [← isReleased_of_initialized hinit hempty] at hi ⊢
      exact hnext i j hj hi
    | releaseMilestoneMultiAsset index recipient =>
      obtain ⟨campaign, milestone, hreleased⟩ := h.of_releaseMilestoneMultiAsset rfl
      refine predecessor_of_releasedPrefix (fun i ↦ ?_) hnext
      rw [h.isReleased_iff hw (by simp [hreleased.found])]
      simp [Action.releasedIndex, Call.releasedIndex]
    | _ => exact trivial

/-- A step in order keeps the prefix. -/
theorem Step.releasedPrefix {host : Host} {action : Action} {w next : World}
    (h : Step host action w next) (hw : Sound w.storage) (hordered : ReleasedPrefix w.storage)
    (horder : InOrder ⟨action, w, next⟩) : ReleasedPrefix next.storage := by
  cases action with
  | transfer token source target amount =>
    cases h with
    | transferred _ _ hstorage => rwa [hstorage]
  | invoke inv =>
    obtain ⟨timestamp, sequence, authorisers, call⟩ := inv
    by_cases hcampaign : w.storage.campaignData = none
    · obtain ⟨creator, goalAmount, endTime, acceptedAssets, milestones, minDonationAmount, rfl⟩ :=
        h.initialize_of_fresh hcampaign
      obtain ⟨hempty, hinit⟩ := h.of_initialize rfl
      intro i j hj hi
      rw [isReleased_of_initialized hinit hempty] at hi ⊢
      exact horder i j hj hi
    · have hreleased := h.isReleased_iff hw hcampaign
      cases call with
      | releaseMilestone index recipient =>
        obtain ⟨campaign, milestone, primary, hsingle⟩ := h.of_releaseMilestone rfl
        simp only [Action.releasedIndex, Call.releasedIndex, Option.some.injEq] at hreleased
        exact releasedPrefix_of_predecessor hreleased hordered hsingle.predecessor
      | releaseMilestoneMultiAsset index recipient =>
        simp only [Action.releasedIndex, Call.releasedIndex, Option.some.injEq] at hreleased
        exact releasedPrefix_of_predecessor hreleased hordered horder
      | _ =>
        have hsame : ∀ i, IsReleased next.storage i ↔ IsReleased w.storage i := by
          simpa [Action.releasedIndex, Call.releasedIndex] using hreleased
        intro i j hj hi
        rw [hsame] at hi ⊢
        exact hordered i j hj hi

/-- A donor gives the whole goal and the creator releases the second of two milestones first. -/
def Sample.skipRelease : List Action :=
  [Sample.opening [⟨"XLM", some Sample.token⟩] [Sample.milestone 500, Sample.milestone 1000] 1000,
    Sample.giving Sample.donor 1000 Sample.token,
    .transfer Sample.token Sample.donor Sample.contract 1000,
    Sample.call Sample.creator (.releaseMilestoneMultiAsset 1 Sample.recipient)]

/-- The released milestones form a prefix of the schedule in every state of a run exactly when
every step of the run is in order. -/
theorem released_prefix_iff {contract : Address} {overflowChecks : Bool}
    {ledger : Ledger Address Address} {wasmHash : BitVec 256}
    {history : List (Receipt Action World)} {w : World}
    (run : CampaignRun contract overflowChecks ledger wasmHash history w) :
    (∀ r ∈ history, ReleasedPrefix r.after.storage) ↔ ∀ r ∈ history, InOrder r := by
  constructor
  · intro hordered r hr
    obtain ⟨hstep, earlier, hearlier⟩ := CampaignRun.step_of_mem run hr
    exact hstep.inOrder (CampaignRun.sound hearlier) (hordered r hr)
  · intro horder
    have hboth := CampaignRun.induction
      (I := fun history w ↦ (∀ r ∈ history, InOrder r) →
        ReleasedPrefix w.storage ∧ ∀ r ∈ history, ReleasedPrefix r.after.storage)
      ?_ ?_ run horder
    · exact hboth.2
    · intro _
      refine ⟨fun i j hj hi ↦ ?_, by simp⟩
      have hnone : (World.deployed ledger wasmHash).storage.getMilestone i = none :=
        Storage.getMilestone_empty i
      rw [IsReleased, hnone] at hi
      exact absurd hi (by simp [IsReleasedRecord])
    · intro history w action next prior ih hstep horder
      obtain ⟨hw, hhistory⟩ := ih fun r hr ↦ horder r (List.mem_cons_of_mem _ hr)
      have hnext := hstep.releasedPrefix (CampaignRun.sound prior) hw
        (horder _ List.mem_cons_self)
      refine ⟨hnext, fun r hr ↦ ?_⟩
      rcases List.mem_cons.mp hr with rfl | hr
      · exact hnext
      · exact hhistory r hr

theorem released_prefix_iff_skipRelease :
    ¬ ∀ r ∈ Sample.history Sample.skipRelease, InOrder r := by
  rw [← released_prefix_iff (Sample.run Sample.skipRelease)]
  intro h
  have hskipped : ∃ r ∈ Sample.history Sample.skipRelease,
      IsReleased r.after.storage 1 ∧ ¬ IsReleased r.after.storage 0 := by decide +kernel
  obtain ⟨r, hr, hsecond, hfirst⟩ := hskipped
  exact hfirst (h r hr 1 0 Nat.zero_lt_one hsecond)

/-- The second milestone can be released while the first is not. -/
theorem released_out_of_order :
    ¬ ∀ (contract : Address) (overflowChecks : Bool) (ledger : Ledger Address Address)
      (wasmHash : BitVec 256) (history : List (Receipt Action World)) (w : World),
      CampaignRun contract overflowChecks ledger wasmHash history w →
        ReleasedPrefix w.storage := by
  intro h
  have hfirst := h _ _ _ _ _ _ (Sample.run Sample.skipRelease) 1 0 Nat.zero_lt_one
  revert hfirst
  decide +kernel

end OrbitChain.Campaign
