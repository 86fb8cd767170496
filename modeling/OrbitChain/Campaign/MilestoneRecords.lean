import OrbitChain.Campaign.BatchedUnlock
import OrbitChain.Campaign.IncrementalPayout

/-!
# What a milestone record says of its release

A milestone's status, its released amount and the time and recipient of its release are written by
three functions, and read as one fact through the enriched view of `views.rs`. They are coherent
when a record is released exactly if it carries the time and the recipient of the release that
released it, and has nothing pending exactly then (`CoherentRecord`). The single-asset release
writes all of them. The multi-asset release writes neither time nor recipient, and a target of zero
or less has nothing pending from the start; without these two the records of a run stay coherent.
-/

set_option autoImplicit false
set_option relaxedAutoImplicit false

namespace OrbitChain.Campaign

open Foundations

/-! ### The enriched view -/

namespace MilestoneData

/-- The part of the target that has not been released. -/
def pendingRelease (m : MilestoneData) : ℤ :=
  max ((checkedI128 (m.targetAmount - m.releasedAmount)).getD 0) 0

/-- All funds of the milestone have been released. -/
def isFullyReleased (m : MilestoneData) : Bool := m.targetAmount ≤ m.releasedAmount

end MilestoneData

/-- A milestone with the fields computed from it and from the campaign. -/
structure MilestoneView where
  data : MilestoneData
  pendingRelease : ℤ
  isFullyReleased : Bool
  isNextPending : Bool

namespace Storage

/-- The index of the first milestone that is not released, the milestone count without one. -/
def findNextPendingIndex (s : Storage) : Except Failure ℕ := do
  let campaign ← orFail s.getCampaign (.contract .notInitialized)
  pure (((List.range campaign.milestoneCount).find? fun i ↦
    (s.getMilestone i).any fun m ↦ m.status ≠ .released).getD campaign.milestoneCount)

/-- The enriched view of the milestone at an index. -/
def getMilestoneByIndex (s : Storage) (index : ℕ) : Except Failure MilestoneView := do
  let campaign ← orFail s.getCampaign (.contract .notInitialized)
  failIf (campaign.milestoneCount ≤ index) (.contract .milestoneNotFound)
  let data ← orFail (s.getMilestone index) (.contract .milestoneNotFound)
  let next ← s.findNextPendingIndex
  pure
    { data := data
      pendingRelease := data.pendingRelease
      isFullyReleased := data.isFullyReleased
      isNextPending := next = index }

end Storage

/-- The view of an established contract shows every milestone. -/
theorem Established.exists_view {s : Storage} {campaign : CampaignData} {v : List MilestoneData}
    (h : Established s campaign v) {index : ℕ} {m : MilestoneData}
    (hm : s.getMilestone index = some m) :
    ∃ view, s.getMilestoneByIndex index = .ok view ∧ view.data = m ∧
      view.pendingRelease = m.pendingRelease := by
  have hindex : ¬ campaign.milestoneCount ≤ index := by
    rw [h.count, not_le]
    exact (List.getElem?_eq_some_iff.mp (h.milestone_found hm)).1
  have hfound : s.getCampaign = some campaign := h.found
  simp only [Storage.getMilestoneByIndex, Storage.findNextPendingIndex, hfound, hm, orFail,
    failIf, hindex, if_false, pure_bind, ok_bind]
  exact ⟨_, rfl, rfl, rfl⟩

/-! ### What a step does to a milestone record -/

/-- What an action makes of the milestone at an index. -/
inductive MilestoneStep (host : Host) (action : Action) (index : ℕ) :
    Option MilestoneData → Option MilestoneData → Prop
  | kept (record : Option MilestoneData) (release : action.releasedIndex ≠ some index) :
      MilestoneStep host action index record record
  | unlocked {m : MilestoneData} (release : action.releasedIndex ≠ some index)
      (was_locked : m.status = .locked) :
      MilestoneStep host action index (some m) (some { m with status := .unlocked })
  | released {inv : Invocation} {recipient : Address} {m : MilestoneData}
      (invoked : action = .invoke inv) (call : inv.call = .releaseMilestone index recipient)
      (was_unlocked : m.status = .unlocked) :
      MilestoneStep host action index (some m)
        (some (ReleaseMilestone.releasedRecord (inv.env host) recipient m))
  | multiReleased {inv : Invocation} {recipient : Address} {m : MilestoneData}
      (invoked : action = .invoke inv)
      (call : inv.call = .releaseMilestoneMultiAsset index recipient)
      (was_unlocked : m.status = .unlocked) :
      MilestoneStep host action index (some m)
        (some (MultiAssetRelease.releasedRecord m m.targetAmount))

/-- Every step of an initialized contract is one of these at every index. -/
theorem Step.milestoneStep {host : Host} {action : Action} {w next : World}
    (h : Step host action w next) (hw : Sound w.storage)
    (hcampaign : w.storage.campaignData ≠ none) (index : ℕ) :
    MilestoneStep host action index (w.storage.getMilestone index)
      (next.storage.getMilestone index) := by
  cases h with
  | transferred _ _ hstorage =>
    rw [hstorage]
    exact .kept _ (by simp [Action.releasedIndex])
  | initialized _ _ _ h => exact absurd h.fresh hcampaign
  | @donated inv _ _ _ _ _ _ _ _ hcall h =>
    have hrelease : (Action.invoke inv).releasedIndex ≠ some index :=
      (Action.releasedIndex_of_call hcall).trans_ne (Option.some_ne_none index).symm
    rw [getMilestone_of_donated h hw]
    cases w.storage.getMilestone index with
    | none => exact .kept none hrelease
    | some m =>
      rw [Option.map_some]
      by_cases hdue : m.Due next.storage.raisedAmount
      · rw [MilestoneData.unlock, if_pos hdue]
        exact .unlocked hrelease hdue.1
      · rw [MilestoneData.unlock_of_not_due hdue]
        exact .kept _ hrelease
  | claimed _ hcall h =>
    obtain ⟨v, hv⟩ := hw.established h.found
    rw [(hv.of_claimed h).2.getMilestone, hv.getMilestone]
    exact .kept _ ((Action.releasedIndex_of_call hcall).trans_ne (Option.some_ne_none index).symm)
  | @released _ _ _ index' _ _ _ _ _ hcall h =>
    obtain ⟨v, hv⟩ := hw.established h.found
    obtain ⟨-, hm, hnext⟩ := hv.of_released h
    rw [hv.getMilestone_of_set hm hnext]
    by_cases hindex : index' = index
    · subst hindex
      rw [if_pos rfl, h.milestone_found]
      exact .released rfl hcall h.unlocked
    · rw [if_neg hindex]
      exact .kept _ ((Action.releasedIndex_of_call hcall).trans_ne
        fun hsame ↦ hindex (Option.some.inj hsame))
  | @multiReleased _ _ _ index' _ _ _ _ hcall h =>
    obtain ⟨v, hv⟩ := hw.established h.found
    obtain ⟨-, hm, hnext⟩ := hv.of_multiReleased h
    rw [hv.getMilestone_of_set hm hnext]
    by_cases hindex : index' = index
    · subst hindex
      rw [if_pos rfl, h.milestone_found]
      exact .multiReleased rfl hcall h.unlocked
    · rw [if_neg hindex]
      exact .kept _ ((Action.releasedIndex_of_call hcall).trans_ne
        fun hsame ↦ hindex (Option.some.inj hsame))
  | administered _ hcall h =>
    obtain ⟨v, hv⟩ := hw.established h.found
    rw [(hv.of_administered h).2.getMilestone, hv.getMilestone]
    exact .kept _ ((Call.releasedIndex_of_administrative hcall).trans_ne
      (Option.some_ne_none index).symm)

/-! ### Coherent records -/

/-- The milestone and the recipient a call releases to. -/
def Call.release : Call → Option (ℕ × Address)
  | .releaseMilestone index recipient | .releaseMilestoneMultiAsset index recipient =>
    some (index, recipient)
  | _ => none

/-- A step released the milestone at the time and to the recipient of the record, and whatever it
paid out went there. -/
def ReleasedBy (contract : Address) (index : ℕ) (m : MilestoneData) (r : Receipt Action World) :
    Prop :=
  ∃ inv recipient, r.label = .invoke inv ∧ inv.call.release = some (index, recipient) ∧
    m.releasedAt = some inv.timestamp ∧ m.releasedTo = some recipient ∧
    ∀ token account, account ≠ recipient →
      r.after.ledger.sent token contract account = r.before.ledger.sent token contract account

/-- The release state of a record is one fact: its status, the time and the recipient of its
release, the released amount and what its view shows as pending agree. -/
structure CoherentRecord (contract : Address) (history : List (Receipt Action World)) (s : Storage)
    (index : ℕ) (m : MilestoneData) : Prop where
  released_at : m.status = .released ↔ m.releasedAt.isSome
  released_to : m.status = .released ↔ m.releasedTo.isSome
  release : m.status = .released → ∃ r ∈ history, ReleasedBy contract index m r
  released_amount : m.releasedAmount = if m.status = .released then m.targetAmount else 0
  pending : ∃ view, s.getMilestoneByIndex index = .ok view ∧ view.data = m ∧
    (view.pendingRelease = 0 ↔ m.status = .released)

/-- Every stored milestone record is coherent. -/
def RecordsCoherent (contract : Address) (history : List (Receipt Action World)) (s : Storage) :
    Prop :=
  ∀ index m, s.getMilestone index = some m → CoherentRecord contract history s index m

/-- A record before any release. -/
def Unreleased (m : MilestoneData) : Prop :=
  m.releasedAmount = 0 ∧ m.releasedAt = none ∧ m.releasedTo = none

instance (m : MilestoneData) : Decidable (Unreleased m) :=
  inferInstanceAs (Decidable (_ ∧ _ ∧ _))

/-- An initialization creates its milestones locked and unreleased. -/
def CreatesLocked (r : Receipt Action World) : Prop :=
  match r.label with
  | .invoke ⟨_, _, _, .initializeCampaign _ _ _ _ milestones _⟩ =>
    ∀ m ∈ milestones, m.status = .locked ∧ Unreleased m
  | _ => True

instance (r : Receipt Action World) : Decidable (CreatesLocked r) :=
  match r with
  | ⟨.transfer _ _ _ _, _, _⟩ => inferInstanceAs (Decidable True)
  | ⟨.invoke ⟨_, _, _, call⟩, _, _⟩ =>
    match call with
    | .initializeCampaign _ _ _ _ _ _ => List.decidableBAll _ _
    | .donate _ _ _ | .claimRefund _ | .endCampaign | .cancelCampaign | .extendDeadline _
    | .releaseMilestone _ _ | .releaseMilestoneMultiAsset _ _ | .upgrade _ | .freeze | .unfreeze
    | .blockAsset _ | .unblockAsset _ | .bumpStorage => inferInstanceAs (Decidable True)

/-- A step gives no milestone a target without a pending amount, and releases none without writing
the time and the recipient. -/
def KeepsRecords (r : Receipt Action World) : Prop :=
  match r.label with
  | .invoke ⟨_, _, _, .initializeCampaign _ _ _ _ milestones _⟩ =>
    ∀ m ∈ milestones, 0 < m.targetAmount
  | .invoke ⟨_, _, _, .releaseMilestoneMultiAsset _ _⟩ => False
  | _ => True

instance (r : Receipt Action World) : Decidable (KeepsRecords r) :=
  match r with
  | ⟨.transfer _ _ _ _, _, _⟩ => inferInstanceAs (Decidable True)
  | ⟨.invoke ⟨_, _, _, call⟩, _, _⟩ =>
    match call with
    | .initializeCampaign _ _ _ _ _ _ => List.decidableBAll _ _
    | .releaseMilestoneMultiAsset _ _ => inferInstanceAs (Decidable False)
    | .donate _ _ _ | .claimRefund _ | .endCampaign | .cancelCampaign | .extendDeadline _
    | .releaseMilestone _ _ | .upgrade _ | .freeze | .unfreeze | .blockAsset _ | .unblockAsset _
    | .bumpStorage => inferInstanceAs (Decidable True)

/-- A record with a positive target that is either unreleased or carries its whole release. -/
structure TrackedRecord (contract : Address) (history : List (Receipt Action World)) (index : ℕ)
    (m : MilestoneData) : Prop where
  target_pos : 0 < m.targetAmount
  target_range : InI128 m.targetAmount
  release : m.status ≠ .released ∧ Unreleased m ∨
    m.status = .released ∧ m.releasedAmount = m.targetAmount ∧
      ∃ r ∈ history, ReleasedBy contract index m r

section Records

variable {contract : Address} {history : List (Receipt Action World)} {index : ℕ}
  {m : MilestoneData}

theorem Unreleased.pendingRelease_eq (h : Unreleased m) (hrange : InI128 m.targetAmount) :
    m.pendingRelease = max m.targetAmount 0 := by
  have hpending : m.targetAmount - m.releasedAmount = m.targetAmount := by rw [h.1, sub_zero]
  rw [MilestoneData.pendingRelease, hpending, checkedI128_of_inI128 hrange, Option.getD_some]

theorem MilestoneData.pendingRelease_of_whole (h : m.releasedAmount = m.targetAmount) :
    m.pendingRelease = 0 := by
  rw [pendingRelease, h, sub_self, checkedI128_of_inI128 inI128_zero, Option.getD_some, max_self]

theorem TrackedRecord.coherent (h : TrackedRecord contract history index m) {s : Storage}
    {campaign : CampaignData} {v : List MilestoneData} (hs : Established s campaign v)
    (hm : s.getMilestone index = some m) : CoherentRecord contract history s index m := by
  obtain ⟨view, hview, hdata, hpending⟩ := hs.exists_view hm
  rcases h.release with ⟨hstatus, hunreleased⟩ | ⟨hstatus, hamount, r, hr, hreleased⟩
  · have hshown : m.pendingRelease = m.targetAmount := by
      rw [hunreleased.pendingRelease_eq h.target_range, max_eq_left h.target_pos.le]
    exact
      { released_at := iff_of_false hstatus (by rw [hunreleased.2.1]; exact Bool.false_ne_true)
        released_to := iff_of_false hstatus (by rw [hunreleased.2.2]; exact Bool.false_ne_true)
        release := fun hreleased ↦ absurd hreleased hstatus
        released_amount := by rw [if_neg hstatus, hunreleased.1]
        pending := ⟨view, hview, hdata,
          iff_of_false (by rw [hpending, hshown]; exact h.target_pos.ne') hstatus⟩ }
  · have hby := hreleased
    obtain ⟨inv, recipient, -, -, hat, hto, -⟩ := hreleased
    exact
      { released_at := iff_of_true hstatus (by rw [hat]; rfl)
        released_to := iff_of_true hstatus (by rw [hto]; rfl)
        release := fun _ ↦ ⟨r, hr, hby⟩
        released_amount := by rw [if_pos hstatus, hamount]
        pending := ⟨view, hview, hdata, iff_of_true
          (by rw [hpending, MilestoneData.pendingRelease_of_whole hamount]) hstatus⟩ }

theorem TrackedRecord.mono (h : TrackedRecord contract history index m)
    (r : Receipt Action World) : TrackedRecord contract (r :: history) index m where
  target_pos := h.target_pos
  target_range := h.target_range
  release := h.release.imp_right fun ⟨hstatus, hamount, r', hr', hby⟩ ↦
    ⟨hstatus, hamount, r', List.mem_cons_of_mem r hr', hby⟩

end Records

/-- A single-asset release pays nobody but its recipient. -/
theorem Step.releasedBy {host : Host} {inv : Invocation} {w next : World}
    (h : Step host (.invoke inv) w next) {index : ℕ} {recipient : Address} {m : MilestoneData}
    (hcall : inv.call = .releaseMilestone index recipient) :
    ReleasedBy host.contract index (ReleaseMilestone.releasedRecord (inv.env host) recipient m)
      ⟨.invoke inv, w, next⟩ := by
  obtain ⟨campaign, milestone, primary, hreleased⟩ := h.of_releaseMilestone hcall
  refine ⟨inv, recipient, rfl, by rw [hcall]; rfl, rfl, rfl, fun token account haccount ↦ ?_⟩
  rw [Ledger.sent_transferAll hreleased.ledger, if_neg fun hsame ↦ haccount hsame.2.symm, add_zero]

/-- A step keeps tracked records tracked. -/
theorem Step.trackedRecord {host : Host} {action : Action} {w next : World}
    (h : Step host action w next) (hw : Sound w.storage)
    (hcampaign : w.storage.campaignData ≠ none) (hkeeps : KeepsRecords ⟨action, w, next⟩)
    {history : List (Receipt Action World)} {index : ℕ}
    (ih : ∀ m, w.storage.getMilestone index = some m →
      TrackedRecord host.contract history index m) {m : MilestoneData}
    (hm : next.storage.getMilestone index = some m) :
    TrackedRecord host.contract (⟨action, w, next⟩ :: history) index m := by
  have hstep := h.milestoneStep hw hcampaign index
  rw [hm] at hstep
  generalize hrecord : w.storage.getMilestone index = record at hstep
  cases hstep with
  | kept _ _ => exact (ih m hrecord).mono _
  | unlocked _ hlocked =>
    have hbefore := ih _ hrecord
    refine ⟨hbefore.target_pos, hbefore.target_range, .inl ?_⟩
    rcases hbefore.release with ⟨-, hunreleased⟩ | ⟨hstatus, -⟩
    · exact ⟨MilestoneStatus.noConfusion, hunreleased⟩
    · exact MilestoneStatus.noConfusion (hlocked.symm.trans hstatus)
  | released hinvoked hcall _ =>
    subst hinvoked
    have hbefore := ih _ hrecord
    exact ⟨hbefore.target_pos, hbefore.target_range,
      .inr ⟨rfl, rfl, _, List.mem_cons_self, h.releasedBy hcall⟩⟩
  | @multiReleased inv _ _ hinvoked hcall _ =>
    subst hinvoked
    obtain ⟨timestamp, sequence, authorisers, call⟩ := inv
    obtain rfl : call = _ := hcall
    exact hkeeps.elim

/-- The first step creates tracked records if it creates them locked with positive targets. -/
theorem Step.trackedRecord_of_fresh {host : Host} {action : Action} {w next : World}
    (h : Step host action w next) (hempty : w.storage = .empty)
    (hlocked : CreatesLocked ⟨action, w, next⟩) (hkeeps : KeepsRecords ⟨action, w, next⟩)
    {contract : Address} {history : List (Receipt Action World)} {index : ℕ} {m : MilestoneData}
    (hm : next.storage.getMilestone index = some m) :
    TrackedRecord contract history index m := by
  cases h with
  | transferred _ _ hstorage =>
    rw [hstorage, hempty, Storage.getMilestone_empty] at hm
    exact absurd hm.symm (Option.some_ne_none m)
  | @initialized inv _ _ _ _ _ _ milestones _ htyped hcall _ h =>
    rw [(Established.of_initialized h hempty).getMilestone] at hm
    have hmem := List.mem_of_getElem? hm
    obtain ⟨timestamp, sequence, authorisers, call⟩ := inv
    obtain rfl : call = _ := hcall
    obtain ⟨-, -, -, -, -, -, htyped, -⟩ := htyped
    obtain ⟨hstatus, hunreleased⟩ := hlocked m hmem
    refine ⟨hkeeps m hmem, (htyped m hmem).2.1, .inl ⟨?_, hunreleased⟩⟩
    rw [hstatus]
    exact MilestoneStatus.noConfusion
  | donated _ _ h | claimed _ _ h | released _ _ h | multiReleased _ _ h | administered _ _ h =>
    have hfound := h.found
    rw [hempty] at hfound
    exact absurd hfound.symm (Option.some_ne_none _)

/-- A multi-asset release leaves an incoherent record of a milestone that was tracked. -/
theorem Step.not_coherent_of_multiReleased {host : Host} {inv : Invocation} {w next : World}
    (h : Step host (.invoke inv) w next) (hw : Sound w.storage) {index : ℕ} {recipient : Address}
    (hcall : inv.call = .releaseMilestoneMultiAsset index recipient) {contract : Address}
    {history later : List (Receipt Action World)}
    (htracked : ∀ m, w.storage.getMilestone index = some m →
      TrackedRecord contract history index m) :
    ¬ RecordsCoherent contract later next.storage := by
  obtain ⟨campaign, milestone, hreleased⟩ := h.of_releaseMilestoneMultiAsset hcall
  obtain ⟨v, hv⟩ := hw.established hreleased.found
  obtain ⟨-, hm, hnext⟩ := hv.of_multiReleased hreleased
  have hafter : next.storage.getMilestone index =
      some (MultiAssetRelease.releasedRecord milestone milestone.targetAmount) := by
    rw [hv.getMilestone_of_set hm hnext, if_pos rfl]
  intro hcoherent
  have hat := (hcoherent index _ hafter).released_at.mp rfl
  have hbefore : milestone.releasedAt = none := by
    have hrecord := htracked milestone hreleased.milestone_found
    rcases hrecord.release with ⟨-, hunreleased⟩ | ⟨hstatus, -⟩
    · exact hunreleased.2.1
    · exact MilestoneStatus.noConfusion (hreleased.unlocked.symm.trans hstatus)
  have hunchanged :
      (MultiAssetRelease.releasedRecord milestone milestone.targetAmount).releasedAt = none :=
    hbefore
  rw [hunchanged] at hat
  exact Bool.false_ne_true hat

/-- A locked milestone with a target of zero or less shows nothing pending. -/
theorem not_coherent_of_initialized {env : Env} {creator : Address} {goalAmount : ℤ}
    {endTime : ℕ} {acceptedAssets : List StellarAsset} {milestones : List MilestoneData}
    {minDonationAmount : ℤ} {w next : World}
    (h : CampaignContract.Initialized env creator goalAmount endTime acceptedAssets milestones
      minDonationAmount w next) (hempty : w.storage = .empty)
    (htyped : ∀ m ∈ milestones, m.WellTyped)
    (hlocked : ∀ m ∈ milestones, m.status = .locked ∧ Unreleased m) {m : MilestoneData}
    (hm : m ∈ milestones) (htarget : m.targetAmount ≤ 0) {contract : Address}
    {history : List (Receipt Action World)} :
    ¬ RecordsCoherent contract history next.storage := by
  intro hcoherent
  obtain ⟨index, hindex⟩ := List.mem_iff_getElem?.mp hm
  have hv := Established.of_initialized h hempty
  have hstored : next.storage.getMilestone index = some m := by rw [hv.getMilestone, hindex]
  obtain ⟨view, hview, -, hpending⟩ := (hcoherent index m hstored).pending
  obtain ⟨view', hview', -, hshown⟩ := hv.exists_view hstored
  obtain rfl : view' = view := Except.ok.inj (hview'.symm.trans hview)
  rw [(hlocked m hm).2.pendingRelease_eq (htyped m hm).2.1, max_eq_right htarget] at hshown
  exact MilestoneStatus.noConfusion ((hlocked m hm).1.symm.trans (hpending.mp hshown))

section Runs

variable {contract : Address} {overflowChecks : Bool} {ledger : Ledger Address Address}
  {wasmHash : BitVec 256} {history : List (Receipt Action World)} {w : World}

/-- The records of a run whose steps keep them are tracked. -/
theorem CampaignRun.trackedRecord
    (run : CampaignRun contract overflowChecks ledger wasmHash history w)
    (hlocked : ∀ r ∈ history, CreatesLocked r)
    (hkeeps : Throughout (fun _ r ↦ KeepsRecords r) history) :
    ∀ index m, w.storage.getMilestone index = some m →
      TrackedRecord contract history index m := by
  refine CampaignRun.induction (I := fun history w ↦ (∀ r ∈ history, CreatesLocked r) →
    Throughout (fun _ r ↦ KeepsRecords r) history → ∀ index m,
      w.storage.getMilestone index = some m → TrackedRecord contract history index m)
    (fun _ _ index m hm ↦ ?_) ?_ run hlocked hkeeps
  · exact absurd (hm.symm.trans (Storage.getMilestone_empty index)) (Option.some_ne_none m)
  · intro history w action next prior ih hstep hlocked hkeeps index m hm
    have ih := ih (fun r hr ↦ hlocked r (List.mem_cons_of_mem _ hr)) hkeeps.2
    by_cases hcampaign : w.storage.campaignData = none
    · exact hstep.trackedRecord_of_fresh (CampaignRun.untouched prior hcampaign)
        (hlocked _ List.mem_cons_self) hkeeps.1 hm
    · exact hstep.trackedRecord (CampaignRun.sound prior) hcampaign hkeeps.1 (ih index) hm

/-- A step after tracked records leaves coherent ones exactly when it keeps them. -/
theorem Step.recordsCoherent_iff {host : Host} {action : Action} {next : World}
    (h : Step host action w next) (hw : Sound w.storage)
    (hlocked : CreatesLocked ⟨action, w, next⟩)
    (htracked : ∀ index m, w.storage.getMilestone index = some m →
      TrackedRecord host.contract history index m) :
    RecordsCoherent host.contract (⟨action, w, next⟩ :: history) next.storage ↔
      KeepsRecords ⟨action, w, next⟩ := by
  constructor
  · intro hcoherent
    cases action with
    | transfer => exact trivial
    | invoke inv =>
      obtain ⟨timestamp, sequence, authorisers, call⟩ := inv
      cases call with
      | initializeCampaign creator goalAmount endTime acceptedAssets milestones minDonationAmount =>
        obtain ⟨hempty, hinitialized⟩ := h.of_initialize rfl
        obtain ⟨-, -, -, -, -, -, htyped, -⟩ := h.wellTyped
        intro m hm
        by_contra htarget
        exact not_coherent_of_initialized hinitialized hempty htyped hlocked hm
          (not_lt.mp htarget) hcoherent
      | releaseMilestoneMultiAsset index recipient =>
        exact h.not_coherent_of_multiReleased hw rfl (htracked index) hcoherent
      | _ => exact trivial
  · intro hkeeps index m hm
    rcases h.sound hw with hnone | ⟨campaign, v, hv⟩
    · rw [hnone, Storage.getMilestone_empty] at hm
      exact absurd hm.symm (Option.some_ne_none m)
    · by_cases hcampaign : w.storage.campaignData = none
      · exact (h.trackedRecord_of_fresh (hw.untouched hcampaign) hlocked hkeeps hm).coherent hv hm
      · exact (h.trackedRecord hw hcampaign hkeeps (htracked index) hm).coherent hv hm

/-- Along a run that creates its milestones locked and unreleased, the milestone records are
coherent in every state exactly when every target is positive and no milestone is released over
several assets. -/
theorem records_coherent_iff
    (run : CampaignRun contract overflowChecks ledger wasmHash history w)
    (hlocked : ∀ r ∈ history, CreatesLocked r) :
    Throughout (fun earlier r ↦ RecordsCoherent contract (r :: earlier) r.after.storage) history ↔
      Throughout (fun _ r ↦ KeepsRecords r) history := by
  refine CampaignRun.induction (I := fun history _ ↦ (∀ r ∈ history, CreatesLocked r) →
    (Throughout (fun earlier r ↦ RecordsCoherent contract (r :: earlier) r.after.storage) history ↔
      Throughout (fun _ r ↦ KeepsRecords r) history)) (fun _ ↦ Iff.rfl) ?_ run hlocked
  intro history w action next prior ih hstep hlocked
  have hearlier : ∀ r ∈ history, CreatesLocked r :=
    fun r hr ↦ hlocked r (List.mem_cons_of_mem _ hr)
  unfold Throughout
  rw [ih hearlier]
  exact and_congr_left fun hkeeps ↦ hstep.recordsCoherent_iff (CampaignRun.sound prior)
    (hlocked _ List.mem_cons_self) (CampaignRun.trackedRecord prior hearlier hkeeps)

end Runs

/-- Two milestones released in the primary asset carry their releases. -/
theorem records_coherent_iff_overfundedRelease :
    Throughout (fun earlier r ↦ RecordsCoherent Sample.contract (r :: earlier) r.after.storage)
      (Sample.history Sample.overfundedRelease) :=
  (records_coherent_iff (Sample.run Sample.overfundedRelease) (by decide +kernel)).mpr
    (by decide +kernel)

/-- A milestone released over all assets carries no time of its release. -/
theorem released_without_record :
    ¬ ∀ (contract : Address) (overflowChecks : Bool) (ledger : Ledger Address Address)
      (wasmHash : BitVec 256) (history : List (Receipt Action World)) (w : World),
      CampaignRun contract overflowChecks ledger wasmHash history w →
        (∀ r ∈ history, CreatesLocked r) → RecordsCoherent contract history w.storage := by
  intro h
  have hcoherent := h _ _ _ _ _ _ (Sample.run Sample.splitRelease) (by decide +kernel)
  have hat := (hcoherent 0 { Sample.milestone 500 with releasedAmount := 500, status := .released }
    (by decide +kernel)).released_at.mp rfl
  exact Bool.false_ne_true hat

end OrbitChain.Campaign
