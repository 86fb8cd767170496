import OrbitChain.Core.Accounting
import OrbitChain.Foundations.ListPages

/-!
# Pages of the donation history

The `get_donation_history` view. The start of a page and its end are computed from the caller's
page and page size with plain 32-bit operators. Where the two results fit, the view returns the
page; where one does not, a build that traps returns nothing, and one that wraps returns the page
only if it is past the end and the wrapped bounds happen to enclose nothing
(`getDonationHistory_eq_iff`).
-/

set_option autoImplicit false
set_option relaxedAutoImplicit false

namespace OrbitChain.Core

open Foundations

/-- The `get_donation_history` view. -/
def Storage.getDonationHistory (overflowChecks : Bool) (s : Storage)
    (campaignId page pageSize : ℕ) : Except Failure (List DonationRecord) := do
  let history := s.getHistory campaignId
  let total := history.length
  let start ← uncheckedU32 overflowChecks .trap (page * pageSize)
  if total ≤ start then pure []
  else do
    let bound ← uncheckedU32 overflowChecks .trap (start + pageSize)
    let stop := min bound total
    (List.range' start (stop - start)).mapM fun i ↦ orFail history[i]? .trap

/-- The bounds of a page fit in 32 bits as far as they are computed; or, in a build that wraps, its
start does not and the wrapped bounds enclose nothing. -/
def PageRepresentable (overflowChecks : Bool) (total page pageSize : ℕ) : Prop :=
  (page * pageSize ≤ u32Max ∧
    (total ≤ page * pageSize ∨ page * pageSize + pageSize ≤ u32Max)) ∨
  (overflowChecks = false ∧ u32Max < page * pageSize ∧
    (total ≤ page * pageSize % 2 ^ 32 ∨ u32Max < page * pageSize % 2 ^ 32 + pageSize))

section Pages

variable {overflowChecks : Bool} {s : Storage} {campaignId page pageSize start : ℕ}

/-! ### What the view reads from a computed start -/

/-- A start at or past the end of the history: nothing. -/
theorem getDonationHistory_of_past
    (hstart : uncheckedU32 overflowChecks Failure.trap (page * pageSize) = .ok start)
    (h : (s.getHistory campaignId).length ≤ start) :
    s.getDonationHistory overflowChecks campaignId page pageSize = .ok [] := by
  rw [Storage.getDonationHistory, hstart, ok_bind, if_pos h]
  rfl

/-- A start before the end and a bound that fits: the records from the start on. -/
theorem getDonationHistory_of_fits
    (hstart : uncheckedU32 overflowChecks Failure.trap (page * pageSize) = .ok start)
    (h : start < (s.getHistory campaignId).length) (hbound : start + pageSize ≤ u32Max) :
    s.getDonationHistory overflowChecks campaignId page pageSize =
      .ok (((s.getHistory campaignId).drop start).take pageSize) := by
  have hread : start + (min (start + pageSize) (s.getHistory campaignId).length - start) ≤
      (s.getHistory campaignId).length := by omega
  rw [Storage.getDonationHistory, hstart, ok_bind, if_neg (not_le.mpr h),
    uncheckedU32_of_le hbound, ok_bind, mapM_getElem?_range' hread, Except.ok.injEq,
    List.take_eq_take_iff, List.length_drop]
  omega

/-- A start before the end and a bound that does not fit: the bound wraps below the start. -/
theorem getDonationHistory_of_wraps (hsize : pageSize ≤ u32Max)
    (hstart : uncheckedU32 overflowChecks Failure.trap (page * pageSize) = .ok start)
    (hle : start ≤ u32Max) (h : start < (s.getHistory campaignId).length)
    (hbound : u32Max < start + pageSize) :
    s.getDonationHistory overflowChecks campaignId page pageSize =
      if overflowChecks then .error .trap else .ok [] := by
  rw [Storage.getDonationHistory, hstart, ok_bind, if_neg (not_le.mpr h),
    uncheckedU32_add_of_gt hle hsize hbound]
  cases overflowChecks with
  | true => rfl
  | false =>
    have hempty : min (start + pageSize - 2 ^ 32) (s.getHistory campaignId).length - start = 0 := by
      unfold u32Max at hsize
      omega
    rw [if_neg Bool.false_ne_true, if_neg Bool.false_ne_true, ok_bind]
    show (List.range' start (min (start + pageSize - 2 ^ 32) (s.getHistory campaignId).length -
      start)).mapM _ = Except.ok []
    rw [hempty]
    rfl

/-! ### One page -/

/-- Where the start fits, the view returns the page exactly if the page is past the end or its bound
fits too: a bound that wraps loses a page that is not empty. -/
theorem getDonationHistory_eq_iff_of_fits (hsize : pageSize ≤ u32Max)
    (hfits : page * pageSize ≤ u32Max) :
    s.getDonationHistory overflowChecks campaignId page pageSize =
        .ok (pageOf (s.getHistory campaignId) page pageSize) ↔
      (s.getHistory campaignId).length ≤ page * pageSize ∨
        page * pageSize + pageSize ≤ u32Max := by
  have hstart : uncheckedU32 overflowChecks Failure.trap (page * pageSize) =
      .ok (page * pageSize) := uncheckedU32_of_le hfits
  rcases le_or_gt (s.getHistory campaignId).length (page * pageSize) with hpast | hbefore
  · rw [getDonationHistory_of_past hstart hpast, pageOf_of_past hpast]
    exact iff_of_true rfl (.inl hpast)
  rcases le_or_gt (page * pageSize + pageSize) u32Max with hbound | hbound
  · rw [getDonationHistory_of_fits hstart hbefore hbound]
    exact iff_of_true rfl (.inr hbound)
  have hpos : 0 < pageSize := by omega
  have hpage : pageOf (s.getHistory campaignId) page pageSize ≠ [] := fun h ↦
    absurd ((pageOf_eq_nil_iff hpos).mp h) (not_le.mpr hbefore)
  rw [getDonationHistory_of_wraps hsize hstart hfits hbefore hbound]
  refine iff_of_false (fun h ↦ ?_) (by omega)
  cases overflowChecks with
  | true => cases h
  | false => exact hpage (Except.ok.inj h).symm

/-- A start that does not fit is the start of a page past the end, and a build that wraps returns
the empty page only if the wrapped bounds enclose nothing. -/
theorem getDonationHistory_eq_iff_of_wraps (hhistory : (s.getHistory campaignId).length ≤ u32Max)
    (hsize : pageSize ≤ u32Max) (hwraps : u32Max < page * pageSize) :
    s.getDonationHistory overflowChecks campaignId page pageSize =
        .ok (pageOf (s.getHistory campaignId) page pageSize) ↔
      overflowChecks = false ∧ ((s.getHistory campaignId).length ≤ page * pageSize % 2 ^ 32 ∨
        u32Max < page * pageSize % 2 ^ 32 + pageSize) := by
  rw [pageOf_of_past (hhistory.trans hwraps.le)]
  cases overflowChecks with
  | true =>
    have htrap : uncheckedU32 true Failure.trap (page * pageSize) = .error .trap :=
      if_neg (not_le.mpr hwraps)
    rw [Storage.getDonationHistory, htrap]
    exact iff_of_false (fun h ↦ by cases h) (fun h ↦ by cases h.1)
  | false =>
    have hstart : uncheckedU32 false Failure.trap (page * pageSize) =
        .ok (page * pageSize % 2 ^ 32) := if_neg (not_le.mpr hwraps)
    have hle : page * pageSize % 2 ^ 32 ≤ u32Max :=
      Nat.le_of_lt_succ (Nat.mod_lt _ (by decide))
    rcases le_or_gt (s.getHistory campaignId).length (page * pageSize % 2 ^ 32) with hpast | hbefore
    · rw [getDonationHistory_of_past hstart hpast]
      exact iff_of_true rfl ⟨rfl, .inl hpast⟩
    rcases le_or_gt (page * pageSize % 2 ^ 32 + pageSize) u32Max with hbound | hbound
    · have hpos : pageSize ≠ 0 := by
        rintro rfl
        exact absurd hwraps (by simp)
      have hread : ((s.getHistory campaignId).drop (page * pageSize % 2 ^ 32)).take pageSize ≠
          [] := fun h ↦ by
        rcases List.take_eq_nil_iff.mp h with h | h
        · exact hpos h
        · exact absurd (List.drop_eq_nil_iff.mp h) (not_le.mpr hbefore)
      rw [getDonationHistory_of_fits hstart hbefore hbound]
      exact iff_of_false (fun h ↦ hread (Except.ok.inj h)) (by omega)
    · rw [getDonationHistory_of_wraps hsize hstart hle hbefore hbound]
      exact iff_of_true rfl ⟨rfl, .inr hbound⟩

/-- The view returns the page exactly if the page is representable. -/
theorem getDonationHistory_eq_iff (hhistory : (s.getHistory campaignId).length ≤ u32Max)
    (hsize : pageSize ≤ u32Max) :
    s.getDonationHistory overflowChecks campaignId page pageSize =
        .ok (pageOf (s.getHistory campaignId) page pageSize) ↔
      PageRepresentable overflowChecks (s.getHistory campaignId).length page pageSize := by
  rcases le_or_gt (page * pageSize) u32Max with hfits | hwraps
  · rw [getDonationHistory_eq_iff_of_fits hsize hfits, PageRepresentable]
    simp only [hfits, not_lt.mpr hfits, true_and, false_and, and_false, or_false]
  · rw [getDonationHistory_eq_iff_of_wraps hhistory hsize hwraps, PageRepresentable]
    simp only [hwraps, not_le.mpr hwraps, true_and, false_and, false_or]

/-! ### The pages together -/

/-- The first pages are all returned and together they are the history. -/
def ReadsWhole (overflowChecks : Bool) (s : Storage) (campaignId pageSize count : ℕ) : Prop :=
  ∃ pages, ((List.range count).mapM fun page ↦
      s.getDonationHistory overflowChecks campaignId page pageSize) = .ok pages ∧
    pages.flatten = s.getHistory campaignId

/-- Representable pages are returned one after the other. -/
theorem mapM_getDonationHistory {count : ℕ}
    (hhistory : (s.getHistory campaignId).length ≤ u32Max) (hsize : pageSize ≤ u32Max)
    (h : ∀ page < count,
      PageRepresentable overflowChecks (s.getHistory campaignId).length page pageSize) :
    ((List.range count).mapM fun page ↦
        s.getDonationHistory overflowChecks campaignId page pageSize) =
      .ok ((List.range count).map fun page ↦ pageOf (s.getHistory campaignId) page pageSize) := by
  rw [mapM_eq_ok_iff, List.forall₂_map_right_iff, List.forall₂_same]
  intro page hpage
  exact (getDonationHistory_eq_iff hhistory hsize).mpr (h page (List.mem_range.mp hpage))

theorem ReadsWhole.of_representable {count : ℕ}
    (hhistory : (s.getHistory campaignId).length ≤ u32Max) (hsize : pageSize ≤ u32Max)
    (henough : (s.getHistory campaignId).length ≤ count * pageSize)
    (h : ∀ page < count,
      PageRepresentable overflowChecks (s.getHistory campaignId).length page pageSize) :
    ReadsWhole overflowChecks s campaignId pageSize count :=
  ⟨_, mapM_getDonationHistory hhistory hsize h, flatMap_pageOf_of_le henough⟩

/-- A page that ends within the 32-bit range is representable. -/
theorem PageRepresentable.of_le {total : ℕ} (h : page * pageSize + pageSize ≤ u32Max) :
    PageRepresentable overflowChecks total page pageSize :=
  .inl ⟨(Nat.le_add_right _ _).trans h, .inr h⟩

/-- Where the bound of the last page that is not empty wraps, the pages up to it are not the whole
history: that page is read as empty, or it traps. -/
theorem not_readsWhole_of_wraps {last : ℕ}
    (hhistory : (s.getHistory campaignId).length ≤ u32Max) (hsize : pageSize ≤ u32Max)
    (hlast : last * pageSize < (s.getHistory campaignId).length)
    (hwraps : u32Max < last * pageSize + pageSize) :
    ¬ ReadsWhole overflowChecks s campaignId pageSize (last + 1) := by
  rintro ⟨pages, hpages, hflatten⟩
  have hfits : last * pageSize ≤ u32Max := hlast.le.trans hhistory
  have hbefore : ∀ page < last,
      PageRepresentable overflowChecks (s.getHistory campaignId).length page pageSize := by
    intro page hpage
    have hend : page * pageSize + pageSize ≤ last * pageSize := by
      rw [← Nat.succ_mul]
      exact Nat.mul_le_mul_right _ hpage
    exact .of_le (hend.trans hfits)
  rw [List.range_succ, List.mapM_append, mapM_getDonationHistory hhistory hsize hbefore] at hpages
  simp only [ok_bind, List.mapM_cons, List.mapM_nil, bind_eq_ok_iff, pure_eq_ok_iff] at hpages
  obtain ⟨_, ⟨read, hread, _, rfl, rfl⟩, rfl⟩ := hpages
  rw [getDonationHistory_of_wraps hsize (uncheckedU32_of_le hfits) hfits hlast hwraps] at hread
  have hempty : read = [] := by
    cases overflowChecks with
    | true => cases hread
    | false => exact (Except.ok.inj hread).symm
  rw [hempty, List.flatten_append, List.flatten_singleton, List.append_nil, ← List.flatMap_def,
    flatMap_pageOf, List.take_eq_self_iff] at hflatten
  exact absurd hflatten (not_le.mpr hlast)

/-- The pages up to the last one that is not empty are the whole history exactly if the last one
ends within the 32-bit range. -/
theorem readsWhole_iff {last : ℕ} (hhistory : (s.getHistory campaignId).length ≤ u32Max)
    (hsize : pageSize ≤ u32Max) (hlast : last * pageSize < (s.getHistory campaignId).length)
    (henough : (s.getHistory campaignId).length ≤ (last + 1) * pageSize) :
    ReadsWhole overflowChecks s campaignId pageSize (last + 1) ↔
      (last + 1) * pageSize ≤ u32Max := by
  refine ⟨fun h ↦ ?_, fun h ↦ ?_⟩
  · by_contra hwraps
    rw [Nat.succ_mul, not_le] at hwraps
    exact not_readsWhole_of_wraps hhistory hsize hlast hwraps h
  · refine .of_representable hhistory hsize henough fun page hpage ↦ .of_le ?_
    have hend : page * pageSize + pageSize ≤ (last + 1) * pageSize := by
      rw [← Nat.succ_mul]
      exact Nat.mul_le_mul_right _ hpage
    exact hend.trans h

/-- For every history and page size: which single pages are returned as they should be, that a page
past the end is returned empty exactly when it is one of these, that enough of them are the whole
history, and when the pages that are not empty are. -/
theorem donation_history_pages_iff (overflowChecks : Bool) (s : Storage)
    (campaignId pageSize : ℕ) (hhistory : (s.getHistory campaignId).length ≤ u32Max)
    (hsize : pageSize ≤ u32Max) :
    (∀ page, s.getDonationHistory overflowChecks campaignId page pageSize =
        .ok (pageOf (s.getHistory campaignId) page pageSize) ↔
      PageRepresentable overflowChecks (s.getHistory campaignId).length page pageSize) ∧
    (∀ page, (s.getHistory campaignId).length ≤ page * pageSize →
      (s.getDonationHistory overflowChecks campaignId page pageSize = .ok [] ↔
        PageRepresentable overflowChecks (s.getHistory campaignId).length page pageSize)) ∧
    (∀ count, (s.getHistory campaignId).length ≤ count * pageSize →
      (∀ page < count,
        PageRepresentable overflowChecks (s.getHistory campaignId).length page pageSize) →
      ReadsWhole overflowChecks s campaignId pageSize count) ∧
    ∀ last, last * pageSize < (s.getHistory campaignId).length →
      (s.getHistory campaignId).length ≤ (last + 1) * pageSize →
      (ReadsWhole overflowChecks s campaignId pageSize (last + 1) ↔
        (last + 1) * pageSize ≤ u32Max) := by
  refine ⟨fun page ↦ getDonationHistory_eq_iff hhistory hsize, fun page hpast ↦ ?_,
    fun count henough h ↦ .of_representable hhistory hsize henough h,
    fun last hlast henough ↦ readsWhole_iff hhistory hsize hlast henough⟩
  rw [← getDonationHistory_eq_iff hhistory hsize, pageOf_of_past hpast]

end Pages

/-- The three donations of a run are read back by three pages of one record each. -/
theorem donation_history_pages_iff_twoDonors :
    ReadsWhole true ((chain true).replay Sample.twoDonors .deployed).2.storage 1 1 3 :=
  ((donation_history_pages_iff true ((chain true).replay Sample.twoDonors .deployed).2.storage 1 1
    (by decide +kernel) (by decide)).2.2.2 2 (by decide +kernel) (by decide +kernel)).mpr
    (by decide)

/-- Pages of 65536 records from page 65536 on start at position 2^32: a build that traps returns
nothing, and a build that wraps returns the first records. -/
theorem donation_history_page_wraps :
    (∀ overflowChecks,
      ((chain overflowChecks).replay Sample.twoDonors .deployed).2.storage.getDonationHistory
        overflowChecks 1 65536 65536 ≠
      .ok (pageOf
        (((chain overflowChecks).replay Sample.twoDonors .deployed).2.storage.getHistory 1)
        65536 65536)) ∧
    ((chain true).replay Sample.twoDonors .deployed).2.storage.getDonationHistory true 1 65536 65536
      = .error .trap ∧
    ((chain false).replay Sample.twoDonors .deployed).2.storage.getDonationHistory false 1 65536
      65536 = .ok (((chain false).replay Sample.twoDonors .deployed).2.storage.getHistory 1) := by
  decide +kernel

end OrbitChain.Core
