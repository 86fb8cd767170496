import Mathlib.Algebra.BigOperators.Ring.Finset
import Mathlib.Algebra.Order.BigOperators.Group.Finset
import Mathlib.Algebra.Order.Ring.Int
import Mathlib.Tactic.Linarith
import Mathlib.Tactic.Ring

/-!
# Proportional backing

A fund in several tokens collected `all` units and still owes `owed` of them to its contributors,
in proportion to what each gave. In one token the contributors' `claims` are then worth
`claims * owed / all`, and what is `held` of the token backs them when it is at least that
(`Backs`). Backing is stated across the fraction, so that no rounding enters it.

The lemmas say which movements keep it: contributions in the token itself, contributions in another
token while this one holds all it collected, payments of at most the token's proportion, payments
of a fund with a single token, and settlements of single claims rounded down. Claims settled one
after the other never take more than what is held (`Backs.sum_le`).

A fund that pays a token's proportion of what is `recorded` of it, and not of what it holds, stays
backed through `TokenBacked`.
-/

set_option autoImplicit false
set_option relaxedAutoImplicit false

namespace OrbitChain.Foundations

/-- What is held of a token is at least what its claims are worth. -/
def Backs (held claims owed all : ℤ) : Prop := claims * owed ≤ held * all

variable {held claims owed all : ℤ}

/-- A token that holds all it collected backs its claims. -/
theorem backs_of_le (hclaims : 0 ≤ claims) (hheld : claims ≤ held) (howed : owed ≤ all)
    (hall : 0 ≤ all) : Backs held claims owed all :=
  calc claims * owed ≤ claims * all := mul_le_mul_of_nonneg_left howed hclaims
    _ ≤ held * all := mul_le_mul_of_nonneg_right hheld hall

/-- The only token of a fund backs its claims with what is owed. -/
theorem backs_sole (hheld : owed ≤ held) (hall : 0 ≤ all) : Backs held all owed all := by
  unfold Backs
  rw [mul_comm]
  exact mul_le_mul_of_nonneg_right hheld hall

/-- When nothing is owed, nothing has to be held. -/
theorem backs_of_nothing_owed (hheld : 0 ≤ held) (hall : 0 ≤ all) : Backs held claims 0 all := by
  rw [Backs, mul_zero]
  exact mul_nonneg hheld hall

namespace Backs

theorem held_mono (h : Backs held claims owed all) (hall : 0 ≤ all) {held' : ℤ}
    (hle : held ≤ held') : Backs held' claims owed all :=
  le_trans h (mul_le_mul_of_nonneg_right hle hall)

theorem owed_mono (h : Backs held claims owed all) (hclaims : 0 ≤ claims) {owed' : ℤ}
    (hle : owed' ≤ owed) : Backs held claims owed' all :=
  le_trans (mul_le_mul_of_nonneg_left hle hclaims) h

/-- A contribution in the token itself keeps its claims backed, when no more is missing of the
token than has stopped to be owed. -/
theorem contribute (h : Backs held claims owed all) {amount : ℤ} (hamount : 0 ≤ amount)
    (hgap : claims + owed ≤ held + all) :
    Backs (held + amount) (claims + amount) (owed + amount) (all + amount) := by
  have hgrowth := mul_le_mul_of_nonneg_left hgap hamount
  unfold Backs at h ⊢
  calc (claims + amount) * (owed + amount)
      = claims * owed + amount * (claims + owed) + amount * amount := by ring
    _ ≤ held * all + amount * (held + all) + amount * amount := by linarith
    _ = (held + amount) * (all + amount) := by ring

/-- A payment of at most the token's proportion keeps its claims backed: `paid` of `held` for
`part` of a `whole` that is at least what is owed. -/
theorem pay_share (h : Backs held claims owed all) {part whole paid : ℤ} (hall : 0 ≤ all)
    (hclaims : 0 ≤ claims) (hpart : 0 ≤ part) (hpaid : paid ≤ held)
    (hshare : paid * whole ≤ held * part) (howed : owed ≤ whole) :
    Backs (held - paid) claims (owed - part) all := by
  have hrest : 0 ≤ (held - paid) * all := mul_nonneg (by linarith) hall
  unfold Backs at h ⊢
  rcases le_or_gt owed part with hdone | hleft
  · exact le_trans (mul_nonpos_of_nonneg_of_nonpos hclaims (by linarith)) hrest
  have hwhole : 0 < whole := by linarith
  have hscaled : held * (whole - part) ≤ (held - paid) * whole := by linarith
  have hproportion : whole * (owed - part) ≤ owed * (whole - part) := by
    have := mul_le_mul_of_nonneg_right howed hpart
    linarith
  refine le_of_mul_le_mul_right ?_ hwhole
  calc claims * (owed - part) * whole
      = claims * (whole * (owed - part)) := by ring
    _ ≤ claims * (owed * (whole - part)) := mul_le_mul_of_nonneg_left hproportion hclaims
    _ = claims * owed * (whole - part) := by ring
    _ ≤ held * all * (whole - part) := mul_le_mul_of_nonneg_right h (by linarith)
    _ = held * (whole - part) * all := by ring
    _ ≤ (held - paid) * whole * all := mul_le_mul_of_nonneg_right hscaled hall
    _ = (held - paid) * all * whole := by ring

/-- Settling a claim at no more than its worth keeps the other claims backed. -/
theorem settle (h : Backs held claims owed all) {claim paid : ℤ}
    (hpaid : paid * all ≤ claim * owed) : Backs (held - paid) (claims - claim) owed all := by
  unfold Backs at h ⊢
  linarith

/-- Claims settled at no more than their worth are covered. -/
theorem sum_le (h : Backs held claims owed all) {ι : Type*} {parts : Finset ι}
    {claim paid : ι → ℤ} (hall : 0 < all) (howed : 0 ≤ owed)
    (hclaims : ∑ i ∈ parts, claim i ≤ claims)
    (hpaid : ∀ i ∈ parts, paid i * all ≤ claim i * owed) : ∑ i ∈ parts, paid i ≤ held := by
  refine le_of_mul_le_mul_right ?_ hall
  calc (∑ i ∈ parts, paid i) * all
      = ∑ i ∈ parts, paid i * all := Finset.sum_mul ..
    _ ≤ ∑ i ∈ parts, claim i * owed := Finset.sum_le_sum hpaid
    _ = (∑ i ∈ parts, claim i) * owed := (Finset.sum_mul ..).symm
    _ ≤ claims * owed := mul_le_mul_of_nonneg_right hclaims howed
    _ ≤ held * all := h

end Backs

/-! ### Funds that pay recorded proportions -/

/-- A token holds what is recorded of it and backs its claims, or it is the only token of the fund
and holds what is owed. -/
def TokenBacked (held claims recorded owed all : ℤ) : Prop :=
  recorded ≤ held ∧ Backs held claims owed all ∨ claims = all ∧ owed ≤ held

variable {recorded : ℤ}

/-- A token that holds all it collected is backed. -/
theorem tokenBacked_of_le (hclaims : 0 ≤ claims) (hrecorded : recorded ≤ claims)
    (hheld : claims ≤ held) (howed : owed ≤ all) (hall : 0 ≤ all) :
    TokenBacked held claims recorded owed all :=
  .inl ⟨hrecorded.trans hheld, backs_of_le hclaims hheld howed hall⟩

namespace TokenBacked

theorem backs (h : TokenBacked held claims recorded owed all) (hall : 0 ≤ all) :
    Backs held claims owed all := by
  rcases h with ⟨-, hbacks⟩ | ⟨rfl, hheld⟩
  · exact hbacks
  · exact backs_sole hheld hall

theorem mono (h : TokenBacked held claims recorded owed all) (hclaims : 0 ≤ claims)
    (hall : 0 ≤ all) {held' owed' : ℤ} (hheld : held ≤ held') (howed : owed' ≤ owed) :
    TokenBacked held' claims recorded owed' all := by
  rcases h with ⟨hrecorded, hbacks⟩ | ⟨hsole, hrest⟩
  · exact .inl ⟨hrecorded.trans hheld, (hbacks.held_mono hall hheld).owed_mono hclaims howed⟩
  · exact .inr ⟨hsole, by linarith⟩

/-- A contribution in the token itself keeps it backed, when no more was paid out of the token than
has stopped to be owed. -/
theorem contribute (h : TokenBacked held claims recorded owed all) {amount : ℤ}
    (hamount : 0 ≤ amount) (hgap : claims - recorded ≤ all - owed) :
    TokenBacked (held + amount) (claims + amount) (recorded + amount) (owed + amount)
      (all + amount) := by
  rcases h with ⟨hrecorded, hbacks⟩ | ⟨hsole, hrest⟩
  · exact .inl ⟨by linarith, hbacks.contribute hamount (by linarith)⟩
  · exact .inr ⟨by linarith, by linarith⟩

/-- A payment of at most the recorded proportion of a part, and of at most the part, keeps the
token backed. -/
theorem pay_share (h : TokenBacked held claims recorded owed all) {part total paid : ℤ}
    (hall : 0 ≤ all) (hclaims : 0 ≤ claims) (hpart : 0 ≤ part) (hpaid : paid ≤ held)
    (hwithin : paid ≤ part) (hshare : paid * total ≤ recorded * part) (howed : owed ≤ total) :
    TokenBacked (held - paid) claims (recorded - paid) (owed - part) all := by
  rcases h with ⟨hrecorded, hbacks⟩ | ⟨hsole, hrest⟩
  · have hheld := mul_le_mul_of_nonneg_right hrecorded hpart
    exact .inl ⟨by linarith,
      hbacks.pay_share hall hclaims hpart hpaid (by linarith) howed⟩
  · exact .inr ⟨hsole, by linarith⟩

/-- A payment of a whole part out of one token keeps that token backed, when nothing was claimed in
it or it is the only token. -/
theorem pay_sole (h : TokenBacked held claims recorded owed all) {part held' : ℤ}
    (hall : 0 ≤ all) (hle : recorded ≤ claims)
    (hsole : claims = 0 ∨ claims = all) (hheld : 0 ≤ held') (hpaid : held - part ≤ held') :
    TokenBacked held' claims recorded (owed - part) all := by
  by_cases hnone : claims = 0
  · exact .inl ⟨by linarith, by rw [Backs, hnone, zero_mul]; exact mul_nonneg hheld hall⟩
  · have hsole := hsole.resolve_left hnone
    have hpos : 0 < all := lt_of_le_of_ne hall fun hzero ↦ hnone (hsole.trans hzero.symm)
    have hrest : owed ≤ held := by
      have hbacks := h.backs hall
      rw [Backs, hsole, mul_comm] at hbacks
      exact le_of_mul_le_mul_right hbacks hpos
    exact .inr ⟨hsole, by linarith⟩

end TokenBacked

end OrbitChain.Foundations
