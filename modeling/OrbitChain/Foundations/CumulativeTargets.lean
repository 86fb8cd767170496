import Mathlib.Algebra.BigOperators.Intervals
import Mathlib.Algebra.Order.BigOperators.Group.Finset
import Mathlib.Algebra.Order.Ring.Int
import Mathlib.Tactic.Linarith

/-!
# Stages of a cumulative schedule

A schedule of cumulative targets reaches `reached i` before stage `i`, so that stage `i` is worth
the increment `reached (i + 1) - reached i`. Whatever stages are paid, in whatever order, their
increments add up to at most any bound of the targets of the paid stages, as long as the schedule
does not fall between them and does not start below zero.
-/

set_option autoImplicit false
set_option relaxedAutoImplicit false

namespace OrbitChain.Foundations

/-- What a stage is worth. -/
def increment (reached : ℕ → ℤ) (i : ℕ) : ℤ := reached (i + 1) - reached i

/-- Increments of distinct stages add up to at most a bound of the stages' targets. -/
theorem sum_increment_le {reached : ℕ → ℤ} {stages : Finset ℕ} {bound : ℤ} (hbound : 0 ≤ bound)
    (hlow : ∀ i ∈ stages, 0 ≤ reached i) (hhigh : ∀ i ∈ stages, reached (i + 1) ≤ bound)
    (hrise : ∀ i, (∃ first ∈ stages, first ≤ i) → (∃ last ∈ stages, i ≤ last) →
      reached i ≤ reached (i + 1)) :
    ∑ i ∈ stages, increment reached i ≤ bound := by
  by_cases hempty : stages = ∅
  · rw [hempty, Finset.sum_empty]
    exact hbound
  have hnonempty := Finset.nonempty_iff_ne_empty.mpr hempty
  have hfirst := stages.min'_mem hnonempty
  have hlast := stages.max'_mem hnonempty
  have hsubset : stages ⊆ Finset.Ico (stages.min' hnonempty) (stages.max' hnonempty + 1) := by
    intro i hi
    rw [Finset.mem_Ico, Nat.lt_succ_iff]
    exact ⟨stages.min'_le i hi, stages.le_max' i hi⟩
  have hle : stages.min' hnonempty ≤ stages.max' hnonempty + 1 :=
    (stages.min'_le _ hlast).trans (Nat.le_succ _)
  calc ∑ i ∈ stages, increment reached i
      ≤ ∑ i ∈ Finset.Ico (stages.min' hnonempty) (stages.max' hnonempty + 1),
          increment reached i := by
        refine Finset.sum_le_sum_of_subset_of_nonneg hsubset fun i hi _ ↦ ?_
        rw [Finset.mem_Ico, Nat.lt_succ_iff] at hi
        exact sub_nonneg.mpr (hrise i ⟨_, hfirst, hi.1⟩ ⟨_, hlast, hi.2⟩)
    _ = reached (stages.max' hnonempty + 1) - reached (stages.min' hnonempty) :=
        Finset.sum_Ico_sub reached hle
    _ ≤ bound := by
        have hlow := hlow _ hfirst
        have hhigh := hhigh _ hlast
        linarith

end OrbitChain.Foundations
