import Mathlib.Algebra.BigOperators.Fin
import Mathlib.Algebra.BigOperators.Ring.Finset
import Mathlib.Algebra.Order.BigOperators.Group.Finset
import Mathlib.Algebra.Order.Ring.Int
import Mathlib.Tactic.Linarith
import Mathlib.Tactic.Ring

/-!
# Proportional shares rounded down

`share amount part whole` is the share of `amount` that a `part` of a `whole` is worth, rounded
down. Shares of the parts of a whole add up to at most the whole's own share and fall short of it
by less than one unit for each part (`sum_share_le`, `sub_card_lt_sum_share`). A share exceeds
the amount it is taken of exactly when the part exceeds the whole by enough to be worth one unit
(`share_le_self_iff`).
-/

set_option autoImplicit false
set_option relaxedAutoImplicit false

namespace OrbitChain.Foundations

/-- The share of `amount` in proportion `part / whole`, rounded down. -/
def share (amount part whole : ℤ) : ℤ := amount * part / whole

variable {amount part whole : ℤ}

theorem share_nonneg (hamount : 0 ≤ amount) (hpart : 0 ≤ part) (hwhole : 0 < whole) :
    0 ≤ share amount part whole :=
  Int.ediv_nonneg (mul_nonneg hamount hpart) hwhole.le

theorem share_mul_le (hwhole : 0 < whole) : share amount part whole * whole ≤ amount * part :=
  Int.ediv_mul_le _ hwhole.ne'

theorem lt_share_add_one_mul (hwhole : 0 < whole) :
    amount * part < (share amount part whole + 1) * whole :=
  Int.lt_ediv_add_one_mul_self _ hwhole

theorem share_zero_amount (part whole : ℤ) : share 0 part whole = 0 := by
  simp [share]

theorem share_whole (hwhole : 0 < whole) : share amount whole whole = amount :=
  Int.mul_ediv_cancel _ hwhole.ne'

theorem share_le_iff (hwhole : 0 < whole) {bound : ℤ} :
    share amount part whole ≤ bound ↔ amount * part < (bound + 1) * whole := by
  rw [share, ← Int.lt_add_one_iff, Int.ediv_lt_iff_lt_mul hwhole]

/-- A share exceeds the amount it is taken of exactly when the excess of the part over the whole
is worth a unit. -/
theorem share_le_self_iff (hwhole : 0 < whole) :
    share amount part whole ≤ amount ↔ amount * (part - whole) < whole := by
  rw [share_le_iff hwhole]
  constructor <;> intro h <;> linarith

theorem share_le_self (hamount : 0 ≤ amount) (hwhole : 0 < whole) (hpart : part ≤ whole) :
    share amount part whole ≤ amount := by
  rw [share_le_self_iff hwhole]
  exact lt_of_le_of_lt (mul_nonpos_of_nonneg_of_nonpos hamount (by linarith)) hwhole

/-- Equal shares of an amount stay within it exactly when one share is below the next unit past
an equal split. -/
theorem mul_share_le_self_iff {copies : ℤ} (hcopies : 0 < copies) (hwhole : 0 < whole) :
    copies * share amount part whole ≤ amount ↔
      amount * part < (amount / copies + 1) * whole := by
  rw [mul_comm, ← Int.le_ediv_iff_mul_le hcopies, share_le_iff hwhole]

section Progress

/-! ### Progress toward a whole -/

/-- The share of a scale that a part of a whole is worth, capped at the scale. -/
def cappedShare (scale part whole : ℤ) : ℤ := min scale (share scale part whole)

/-- The whole and more is worth the scale. -/
theorem cappedShare_of_le (hscale : 0 ≤ amount) (hwhole : 0 < whole) (h : whole ≤ part) :
    cappedShare amount part whole = amount := by
  apply min_eq_left
  rw [share, Int.le_ediv_iff_mul_le hwhole]
  exact mul_le_mul_of_nonneg_left h hscale

/-- Less than the whole is worth less than the scale, so the cap does not show. -/
theorem share_lt_of_lt (hscale : 0 < amount) (hwhole : 0 < whole) (h : part < whole) :
    share amount part whole < amount := by
  rw [share, Int.ediv_lt_iff_lt_mul hwhole]
  exact mul_lt_mul_of_pos_left h hscale

theorem cappedShare_of_lt (hscale : 0 < amount) (hwhole : 0 < whole) (h : part < whole) :
    cappedShare amount part whole = share amount part whole :=
  min_eq_right (share_lt_of_lt hscale hwhole h).le

/-- Progress is complete exactly when the part has reached the whole. -/
theorem cappedShare_eq_scale_iff (hscale : 0 < amount) (hwhole : 0 < whole) :
    cappedShare amount part whole = amount ↔ whole ≤ part := by
  constructor
  · intro hfull
    by_contra hpart
    rw [cappedShare_of_lt hscale hwhole (not_le.mp hpart)] at hfull
    exact (share_lt_of_lt hscale hwhole (not_le.mp hpart)).ne hfull
  · exact cappedShare_of_le hscale.le hwhole

/-- Progress does not fall when the part grows. -/
theorem cappedShare_mono {more : ℤ} (hscale : 0 ≤ amount) (hwhole : 0 < whole)
    (h : part ≤ more) : cappedShare amount part whole ≤ cappedShare amount more whole := by
  apply min_le_min_left
  exact Int.ediv_le_ediv hwhole (mul_le_mul_of_nonneg_left h hscale)

/-- Progress is negative where the part is. -/
theorem cappedShare_neg (hscale : 0 < amount) (hpart : part < 0) (hwhole : 0 < whole) :
    cappedShare amount part whole < 0 := by
  apply lt_of_le_of_lt (min_le_right _ _)
  rw [share, Int.ediv_lt_iff_lt_mul hwhole, zero_mul]
  exact mul_neg_of_pos_of_neg hscale hpart

end Progress

section Sums

variable {ι : Type*} {parts : Finset ι} {weight : ι → ℤ}

/-- The shares of the parts of a whole add up to at most the amount shared. -/
theorem sum_share_le (hwhole : 0 < whole) (hsum : ∑ i ∈ parts, weight i = whole) :
    ∑ i ∈ parts, share (weight i) amount whole ≤ amount := by
  refine le_of_mul_le_mul_right ?_ hwhole
  calc (∑ i ∈ parts, share (weight i) amount whole) * whole
      = ∑ i ∈ parts, share (weight i) amount whole * whole := Finset.sum_mul ..
    _ ≤ ∑ i ∈ parts, weight i * amount := Finset.sum_le_sum fun i _ ↦ share_mul_le hwhole
    _ = amount * whole := by rw [← Finset.sum_mul, hsum, mul_comm]

/-- The shares of the parts of a whole fall short of the amount shared by less than one unit for
each part. -/
theorem sub_card_lt_sum_share (hwhole : 0 < whole) (hsum : ∑ i ∈ parts, weight i = whole)
    (hparts : parts.Nonempty) :
    amount - parts.card < ∑ i ∈ parts, share (weight i) amount whole := by
  refine lt_of_mul_lt_mul_right ?_ hwhole.le
  have hlt : ∑ i ∈ parts, weight i * amount <
      ∑ i ∈ parts, (share (weight i) amount whole + 1) * whole :=
    Finset.sum_lt_sum_of_nonempty hparts fun i _ ↦ lt_share_add_one_mul hwhole
  rw [← Finset.sum_mul, hsum, ← Finset.sum_mul, Finset.sum_add_distrib, Finset.sum_const,
    nsmul_eq_mul, mul_one] at hlt
  linarith

theorem sum_map_boole {α : Type*} (p : α → Prop) [DecidablePred p] (entries : List α) :
    (entries.map fun entry ↦ if p entry then (1 : ℤ) else 0).sum =
      entries.countP fun entry ↦ p entry := by
  induction entries with
  | nil => rfl
  | cons entry rest ih =>
    rw [List.map_cons, List.sum_cons, ih, List.countP_cons, Nat.cast_add, add_comm]
    by_cases h : p entry <;> simp [h]

/-- The shares of a list of parts add up to at most the amount shared. -/
theorem sum_map_share_le {weights : List ℤ} (hwhole : 0 < weights.sum) :
    (weights.map fun weight ↦ share weight amount weights.sum).sum ≤ amount := by
  rw [← Fin.sum_univ_fun_getElem]
  exact sum_share_le hwhole (Fin.sum_univ_getElem weights)

/-- The shares of a list of parts fall short of the amount shared by less than one unit for each
part. -/
theorem sub_length_lt_sum_map_share {weights : List ℤ} (hwhole : 0 < weights.sum) :
    amount - weights.length <
      (weights.map fun weight ↦ share weight amount weights.sum).sum := by
  have hparts : (Finset.univ : Finset (Fin weights.length)).Nonempty := by
    rw [← Finset.card_pos, Finset.card_univ, Fintype.card_fin, List.length_pos_iff]
    rintro rfl
    simp at hwhole
  have hlt : amount - (Finset.univ : Finset (Fin weights.length)).card < _ :=
    sub_card_lt_sum_share hwhole (Fin.sum_univ_getElem weights) hparts
  rwa [Finset.card_univ, Fintype.card_fin, Fin.sum_univ_fun_getElem weights
    fun weight ↦ share weight amount weights.sum] at hlt

end Sums

end OrbitChain.Foundations
