import OrbitChain.Foundations.ExceptSteps
import Mathlib.Data.List.Basic

/-!
# Pages of a list

A list is read in pages of a size: page `p` is what stands at the positions from `p * size` up to
`(p + 1) * size`, cut at the end of the list. Consecutive pages from the first on are the list
again, nothing lost or repeated, and a page past the end is empty. A loop that reads the positions
of a range one by one reads that part of the list.
-/

set_option autoImplicit false
set_option relaxedAutoImplicit false

namespace OrbitChain.Foundations

variable {α : Type*} {l : List α} {size page : ℕ}

/-- The entries of a list at the positions of a page. -/
def pageOf (l : List α) (page size : ℕ) : List α := (l.drop (page * size)).take size

theorem pageOf_of_past (h : l.length ≤ page * size) : pageOf l page size = [] := by
  rw [pageOf, List.drop_eq_nil_of_le h, List.take_nil]

theorem pageOf_eq_nil_iff (hsize : 0 < size) :
    pageOf l page size = [] ↔ l.length ≤ page * size := by
  rw [pageOf, List.take_eq_nil_iff, List.drop_eq_nil_iff]
  exact or_iff_right (Nat.ne_zero_of_lt hsize)

/-- The first pages are the first entries. -/
theorem flatMap_pageOf (l : List α) (size count : ℕ) :
    (List.range count).flatMap (fun page ↦ pageOf l page size) = l.take (count * size) := by
  induction count with
  | zero => simp
  | succ count ih =>
    rw [List.range_succ, List.flatMap_append, ih, List.flatMap_singleton, Nat.succ_mul,
      List.take_add, pageOf]

/-- Enough pages are the whole list. -/
theorem flatMap_pageOf_of_le {count : ℕ} (h : l.length ≤ count * size) :
    (List.range count).flatMap (fun page ↦ pageOf l page size) = l := by
  rw [flatMap_pageOf, List.take_of_length_le h]

/-- Reading the positions of a range reads that part of the list. -/
theorem mapM_getElem?_range' {ε : Type*} {failure : ε} {start count : ℕ}
    (h : start + count ≤ l.length) :
    (List.range' start count).mapM (fun i ↦ orFail l[i]? failure) =
      .ok ((l.drop start).take count) := by
  have hcount : ((l.drop start).take count).length = count := by
    rw [List.length_take, List.length_drop]
    omega
  rw [mapM_eq_ok_iff, List.forall₂_iff_get]
  refine ⟨by rw [hcount, List.length_range'], fun i hi _ ↦ ?_⟩
  rw [List.length_range'] at hi
  rw [List.get_eq_getElem, List.get_eq_getElem, List.getElem_range', List.getElem_take,
    List.getElem_drop, Nat.one_mul, orFail_eq_ok_iff, List.getElem?_eq_getElem]

end OrbitChain.Foundations
