import OrbitChain.Campaign.MilestoneRecords

/-!
# The milestone views

`get_all_milestones` builds the enriched view of every milestone by itself, with the search for the
next pending milestone made once; `get_milestone_by_index` builds one and makes the search again.
They build the same: the list is what the single view returns index by index
(`Storage.getAllMilestonesView_eq`). The search skips missing entries and finds the first milestone
that is not released, so at most one entry of the list is the next pending one.
-/

set_option autoImplicit false
set_option relaxedAutoImplicit false

namespace OrbitChain.Campaign

open Foundations

namespace Storage

/-- The stored record of the milestone at an index. -/
def getMilestoneView (s : Storage) (index : ℕ) : Except Failure MilestoneData := do
  let campaign ← orFail s.getCampaign (.contract .notInitialized)
  failIf (campaign.milestoneCount ≤ index) (.contract .milestoneNotFound)
  orFail (s.getMilestone index) (.contract .milestoneNotFound)

/-- The enriched views of all milestones. -/
def getAllMilestonesView (s : Storage) : Except Failure (List MilestoneView) := do
  let campaign ← orFail s.getCampaign (.contract .notInitialized)
  let nextPending ← s.findNextPendingIndex
  (List.range campaign.milestoneCount).mapM fun i ↦ do
    let data ← orFail (s.getMilestone i) (.contract .milestoneNotFound)
    pure
      { data := data
        pendingRelease := data.pendingRelease
        isFullyReleased := data.isFullyReleased
        isNextPending := nextPending = i }

/-! ### The list and the single views -/

variable {s : Storage} {campaign : CampaignData}

/-- With a campaign the search always ends, at this index. -/
theorem findNextPendingIndex_eq (h : s.campaignData = some campaign) :
    s.findNextPendingIndex =
      .ok (((List.range campaign.milestoneCount).find? fun i ↦
        (s.getMilestone i).any fun m ↦ m.status ≠ .released).getD campaign.milestoneCount) := by
  have hfound : s.getCampaign = some campaign := h
  simp only [findNextPendingIndex, hfound, orFail]
  rfl

/-- The search looks for a record that is there and not released. -/
theorem pending_iff {index : ℕ} :
    ((s.getMilestone index).any fun m ↦ m.status ≠ .released) = true ↔
      ∃ m, s.getMilestone index = some m ∧ m.status ≠ .released := by
  cases s.getMilestone index <;> simp

theorem not_pending_iff {index : ℕ} :
    (!(s.getMilestone index).any fun m ↦ m.status ≠ .released) = true ↔
      ∀ m, s.getMilestone index = some m → m.status = .released := by
  cases s.getMilestone index <;> simp

/-- The list of views is what the single view returns at every index of the campaign. -/
theorem getAllMilestonesView_eq (h : s.campaignData = some campaign) :
    s.getAllMilestonesView =
      (List.range campaign.milestoneCount).mapM s.getMilestoneByIndex := by
  have hfound : s.getCampaign = some campaign := h
  unfold getAllMilestonesView
  rw [hfound, findNextPendingIndex_eq h]
  apply mapM_congr
  intro i hi
  have hindex : ¬ campaign.milestoneCount ≤ i := not_le.mpr (List.mem_range.mp hi)
  unfold getMilestoneByIndex
  rw [hfound, findNextPendingIndex_eq h]
  simp only [orFail, failIf, hindex, if_false, ok_bind]

/-- What a view shows. -/
theorem getMilestoneByIndex_ok {index : ℕ} {view : MilestoneView}
    (h : s.getMilestoneByIndex index = .ok view) :
    s.getMilestone index = some view.data ∧
      ∃ next, s.findNextPendingIndex = .ok next ∧ (view.isNextPending = true ↔ next = index) := by
  simp only [getMilestoneByIndex, bind_eq_ok_iff, orFail_eq_ok_iff, pure_eq_ok_iff] at h
  obtain ⟨_, -, _, -, data, hdata, next, hnext, rfl⟩ := h
  exact ⟨hdata, next, hnext, decide_eq_true_iff⟩

end Storage

/-! ### The views of an established contract -/

namespace Established

variable {s : Storage} {campaign : CampaignData} {v : List MilestoneData} {index : ℕ}
  (h : Established s campaign v)
include h

/-- Every index of the campaign has a record. -/
theorem exists_milestone (hindex : index < campaign.milestoneCount) :
    ∃ m, s.getMilestone index = some m := by
  have hlength : index < v.length := hindex.trans_eq h.count
  exact ⟨v[index], by rw [h.getMilestone, List.getElem?_eq_getElem hlength]⟩

/-- Every index of the campaign has both views, of the same record. -/
theorem exists_both_views (hindex : index < campaign.milestoneCount) :
    ∃ view, s.getMilestoneByIndex index = .ok view ∧ s.getMilestoneView index = .ok view.data := by
  obtain ⟨m, hmilestone⟩ := h.exists_milestone hindex
  obtain ⟨view, hview, hdata, -⟩ := h.exists_view hmilestone
  have hfound : s.getCampaign = some campaign := h.found
  refine ⟨view, hview, ?_⟩
  simp only [Storage.getMilestoneView, hfound, hmilestone, hdata, orFail, failIf, not_le.mpr hindex,
    if_false, ok_bind]

/-- The search stops at the first milestone that is not released. -/
theorem nextPending_iff {next : ℕ} {m : MilestoneData}
    (hnext : s.findNextPendingIndex = .ok next) (hm : s.getMilestone index = some m) :
    next = index ↔ m.status ≠ .released ∧ ∀ j < index, IsReleased s j := by
  have hindex : index < campaign.milestoneCount := by
    rw [h.count]
    exact (List.getElem?_eq_some_iff.mp (h.milestone_found hm)).1
  rw [Storage.findNextPendingIndex_eq h.found, Except.ok.injEq] at hnext
  cases hfind : (List.range campaign.milestoneCount).find? fun i ↦
    (s.getMilestone i).any fun m ↦ m.status ≠ .released with
  | none =>
    rw [hfind, Option.getD_none] at hnext
    have hnone := List.find?_range_eq_none.mp hfind index hindex
    exact iff_of_false (hnext ▸ hindex.ne') fun hpending ↦
      hpending.1 (Storage.not_pending_iff.mp hnone m hm)
  | some first =>
    rw [hfind, Option.getD_some] at hnext
    subst hnext
    obtain ⟨hpending, hmem, hbefore⟩ := List.find?_range_eq_some.mp hfind
    obtain ⟨found, hfound, hstatus⟩ := Storage.pending_iff.mp hpending
    constructor
    · rintro rfl
      obtain rfl := Option.some.inj (hm.symm.trans hfound)
      refine ⟨hstatus, fun j hj ↦ ?_⟩
      obtain ⟨earlier, hearlier⟩ := h.exists_milestone (hj.trans hindex)
      have hreleased := Storage.not_pending_iff.mp (hbefore j hj) earlier hearlier
      exact isReleasedRecord_iff.mpr ⟨earlier, hearlier, hreleased⟩
    · rintro ⟨hopen, hearlier⟩
      rcases lt_trichotomy first index with hlt | rfl | hlt
      · obtain ⟨same, hsame, hdone⟩ := isReleasedRecord_iff.mp (hearlier first hlt)
        obtain rfl := Option.some.inj (hsame.symm.trans hfound)
        exact absurd hdone hstatus
      · rfl
      · exact absurd (Storage.not_pending_iff.mp (hbefore index hlt) m hm) hopen

/-- The list of views has an entry for each milestone, which is the single view of its index. -/
theorem exists_all_views :
    ∃ views : List MilestoneView, s.getAllMilestonesView = .ok views ∧
      views.length = campaign.milestoneCount ∧
      ∀ i view, views[i]? = some view →
        i < campaign.milestoneCount ∧ s.getMilestoneByIndex i = .ok view := by
  have hsingle : ∀ i ∈ List.range campaign.milestoneCount, ∃ view,
      s.getMilestoneByIndex i = .ok view := by
    intro i hi
    obtain ⟨view, hview, -⟩ := h.exists_both_views (List.mem_range.mp hi)
    exact ⟨view, hview⟩
  obtain ⟨views, hviews⟩ := exists_mapM_eq_ok hsingle
  have hentries := mapM_eq_ok_iff.mp hviews
  have hlength : views.length = campaign.milestoneCount := by
    rw [← hentries.length_eq, List.length_range]
  refine ⟨views, (Storage.getAllMilestonesView_eq h.found).trans hviews, hlength, ?_⟩
  intro i view hi
  obtain ⟨hlt, rfl⟩ := List.getElem?_eq_some_iff.mp hi
  have hrange : i < (List.range campaign.milestoneCount).length := by
    rwa [hentries.length_eq]
  have hview := hentries.get hrange hlt
  rw [List.get_eq_getElem, List.getElem_range] at hview
  exact ⟨hlength ▸ hlt, hview⟩

/-- A view shows the next pending milestone when its own is the first that is not released. -/
theorem isNextPending_iff {view : MilestoneView} (hview : s.getMilestoneByIndex index = .ok view) :
    view.isNextPending = true ↔
      view.data.status ≠ .released ∧ ∀ j < index, IsReleased s j := by
  obtain ⟨hdata, next, hnext, hshown⟩ := Storage.getMilestoneByIndex_ok hview
  rw [hshown]
  exact h.nextPending_iff hnext hdata

/-- The view of an earlier milestone and that of a later one do not both show the next pending
milestone. -/
theorem not_both_nextPending {i j : ℕ} {view view' : MilestoneView}
    (hview : s.getMilestoneByIndex i = .ok view) (hview' : s.getMilestoneByIndex j = .ok view')
    (hnext : view.isNextPending = true) (hnext' : view'.isNextPending = true) : ¬ i < j := by
  intro hlt
  obtain ⟨hdata, -⟩ := Storage.getMilestoneByIndex_ok hview
  have hreleased := ((h.isNextPending_iff hview').mp hnext').2 i hlt
  obtain ⟨m, hm, hstatus⟩ := isReleasedRecord_iff.mp hreleased
  obtain rfl := Option.some.inj (hm.symm.trans hdata)
  exact ((h.isNextPending_iff hview).mp hnext).1 hstatus

end Established

section Runs

variable {contract : Address} {overflowChecks : Bool} {ledger : Ledger Address Address}
  {wasmHash : BitVec 256} {history : List (Receipt Action World)} {w : World}

/-- In every state of a run after initialization, the list of views has an entry for each
milestone of the campaign, which is what the single view of its index returns and carries the
record that the raw view returns. An entry is the next pending one exactly when it is the first
that is not released, so at most one entry is. -/
theorem milestone_views_agree
    (run : CampaignRun contract overflowChecks ledger wasmHash history w)
    {campaign : CampaignData} (hcampaign : w.storage.campaignData = some campaign) :
    ∃ views : List MilestoneView, w.storage.getAllMilestonesView = .ok views ∧
      views.length = campaign.milestoneCount ∧
      (∀ i view, views[i]? = some view → w.storage.getMilestoneByIndex i = .ok view ∧
        w.storage.getMilestoneView i = .ok view.data) ∧
      (∀ i view, views[i]? = some view → (view.isNextPending = true ↔
        view.data.status ≠ .released ∧ ∀ j < i, IsReleased w.storage j)) ∧
      ∀ (i j : ℕ) (view view' : MilestoneView), views[i]? = some view → views[j]? = some view' →
        view.isNextPending = true → view'.isNextPending = true → i = j := by
  obtain ⟨v, hv⟩ := (CampaignRun.sound run).established hcampaign
  obtain ⟨views, hviews, hlength, hentry⟩ := hv.exists_all_views
  refine ⟨views, hviews, hlength, fun i view hi ↦ ?_,
    fun i view hi ↦ hv.isNextPending_iff (hentry i view hi).2, ?_⟩
  · obtain ⟨hlt, hview⟩ := hentry i view hi
    obtain ⟨same, hsame, hraw⟩ := hv.exists_both_views hlt
    obtain rfl := Except.ok.inj (hsame.symm.trans hview)
    exact ⟨hview, hraw⟩
  · intro i j view view' hi hj hnext hnext'
    have hview := (hentry i view hi).2
    have hview' := (hentry j view' hj).2
    exact le_antisymm (not_lt.mp (hv.not_both_nextPending hview' hview hnext' hnext))
      (not_lt.mp (hv.not_both_nextPending hview hview' hnext hnext'))

end Runs

/-- After the first of two milestones is released, the second is the next pending one. -/
theorem milestone_views_agree_splitRelease :
    ∃ views : List MilestoneView,
      (Sample.reached Sample.splitRelease).storage.getAllMilestonesView = .ok views ∧
      views.length = 2 := by
  obtain ⟨views, hviews, hlength, -⟩ := milestone_views_agree (Sample.run Sample.splitRelease) rfl
  exact ⟨views, hviews, hlength⟩

example : ((Sample.reached Sample.splitRelease).storage.getAllMilestonesView.toOption.map
    (List.map MilestoneView.isNextPending)) = some [false, true] := by
  decide +kernel

end OrbitChain.Campaign
