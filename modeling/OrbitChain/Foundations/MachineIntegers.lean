import Mathlib.Algebra.Order.Ring.Int
import Mathlib.Tactic.SplitIfs

/-!
# Machine integers as mathematical integers

Values of a signed 128-bit type are integers, and the operations on them are the integer
operations followed by a range rule. `checkedI128` is the rule of a checked operation: the exact
result when it is representable and nothing otherwise. `uncheckedI128` is the rule of a plain
operator, which traps in a build with overflow checks and wraps to the two's complement
representative in one without. Unsigned counters are natural numbers with the same two rules.
-/

set_option autoImplicit false
set_option relaxedAutoImplicit false

namespace OrbitChain.Foundations

/-- The least signed 128-bit integer. -/
def i128Min : ℤ := -2 ^ 127

/-- The greatest signed 128-bit integer. -/
def i128Max : ℤ := 2 ^ 127 - 1

/-- The greatest unsigned 64-bit integer. -/
def u64Max : ℕ := 2 ^ 64 - 1

/-- The greatest unsigned 32-bit integer. -/
def u32Max : ℕ := 2 ^ 32 - 1

/-- The integer is representable in 128 signed bits. -/
def InI128 (x : ℤ) : Prop := i128Min ≤ x ∧ x ≤ i128Max

instance (x : ℤ) : Decidable (InI128 x) := inferInstanceAs (Decidable (_ ∧ _))

/-- The result of a checked signed operation. -/
def checkedI128 (x : ℤ) : Option ℤ := if InI128 x then some x else none

/-- The result of a checked operation on a counter bounded by `top`. -/
def checkedCounter (top x : ℕ) : Option ℕ := if x ≤ top then some x else none

/-- The result of a plain signed operator: out of range it traps in a build with overflow checks
and wraps otherwise. -/
def uncheckedI128 {ε : Type*} (overflowChecks : Bool) (trap : ε) (x : ℤ) : Except ε ℤ :=
  if InI128 x then .ok x
  else if overflowChecks then .error trap else .ok (x.bmod (2 ^ 128))

/-- The result of a plain unsigned 64-bit operator. -/
def uncheckedU64 {ε : Type*} (overflowChecks : Bool) (trap : ε) (x : ℕ) : Except ε ℕ :=
  if x ≤ u64Max then .ok x
  else if overflowChecks then .error trap else .ok (x % 2 ^ 64)

/-- The result of a plain unsigned 32-bit operator. -/
def uncheckedU32 {ε : Type*} (overflowChecks : Bool) (trap : ε) (x : ℕ) : Except ε ℕ :=
  if x ≤ u32Max then .ok x
  else if overflowChecks then .error trap else .ok (x % 2 ^ 32)

@[simp] theorem checkedI128_eq_some_iff {x y : ℤ} :
    checkedI128 x = some y ↔ InI128 x ∧ x = y := by
  unfold checkedI128
  split_ifs with h <;> simp [h]

@[simp] theorem checkedCounter_eq_some_iff {top x y : ℕ} :
    checkedCounter top x = some y ↔ x ≤ top ∧ x = y := by
  unfold checkedCounter
  split_ifs with h <;> simp [h]

theorem checkedI128_of_inI128 {x : ℤ} (h : InI128 x) : checkedI128 x = some x :=
  if_pos h

/-- Flooring a checked value at zero changes nothing that is in range and not negative. -/
theorem max_getD_checkedI128 {value : ℤ} (hrange : InI128 value) (hnonneg : 0 ≤ value) :
    max ((checkedI128 value).getD 0) 0 = value := by
  rw [checkedI128_of_inI128 hrange, Option.getD_some, max_eq_left hnonneg]

variable {ε : Type*} {overflowChecks : Bool} {trap : ε}

theorem uncheckedI128_of_inI128 {x : ℤ} (h : InI128 x) :
    uncheckedI128 overflowChecks trap x = .ok x :=
  if_pos h

theorem uncheckedU64_of_le {x : ℕ} (h : x ≤ u64Max) :
    uncheckedU64 overflowChecks trap x = .ok x :=
  if_pos h

theorem uncheckedU32_of_le {x : ℕ} (h : x ≤ u32Max) :
    uncheckedU32 overflowChecks trap x = .ok x :=
  if_pos h

/-- A sum of two representable numbers that is not representable wraps below the first of them. -/
theorem uncheckedU32_add_of_gt {x y : ℕ} (hx : x ≤ u32Max) (hy : y ≤ u32Max)
    (h : u32Max < x + y) :
    uncheckedU32 overflowChecks trap (x + y) =
      if overflowChecks then .error trap else .ok (x + y - 2 ^ 32) := by
  have hwrapped : (x + y) % 2 ^ 32 = x + y - 2 ^ 32 := by
    unfold u32Max at hx hy h
    omega
  rw [uncheckedU32, if_neg (not_le.mpr h), hwrapped]

/-- A plain unsigned operator never exceeds the exact result. -/
theorem uncheckedU64_le {x y : ℕ} (h : uncheckedU64 overflowChecks trap x = .ok y) : y ≤ x := by
  unfold uncheckedU64 at h
  split_ifs at h with hrange
  · cases h
    exact le_rfl
  · cases h
    exact Nat.mod_le x (2 ^ 64)

theorem InI128.of_between {low high x : ℤ} (hlow : InI128 low) (hhigh : InI128 high)
    (h : low ≤ x) (h' : x ≤ high) : InI128 x :=
  ⟨hlow.1.trans h, h'.trans hhigh.2⟩

theorem inI128_zero : InI128 0 := by decide

/-- The two's complement representative is representable. -/
theorem inI128_bmod (x : ℤ) : InI128 (x.bmod (2 ^ 128)) := by
  have hlow := Int.le_bmod (x := x) (m := 2 ^ 128) (by decide)
  have hhigh := Int.bmod_lt (x := x) (m := 2 ^ 128) (by decide)
  refine ⟨le_trans (by decide) hlow, ?_⟩
  exact Int.le_of_lt_add_one (lt_of_lt_of_le hhigh (by decide))

/-- A result of a plain signed operator is representable and is the exact result up to a multiple
of `2 ^ 128`. -/
theorem uncheckedI128_ok {x y : ℤ} (h : uncheckedI128 overflowChecks trap x = .ok y) :
    InI128 y ∧ (2 ^ 128 : ℤ) ∣ y - x := by
  unfold uncheckedI128 at h
  split_ifs at h with hrange
  · cases h
    exact ⟨hrange, by simp⟩
  · cases h
    exact ⟨inI128_bmod x, mod_cast Int.dvd_bmod_sub_self⟩

/-- A plain signed operator never exceeds a result that is not too small. -/
theorem uncheckedI128_le {x y : ℤ} (h : uncheckedI128 overflowChecks trap x = .ok y)
    (hlow : i128Min ≤ x) : y ≤ x := by
  by_cases hrange : InI128 x
  · rw [uncheckedI128_of_inI128 hrange] at h
    exact (Except.ok.inj h).ge
  · have htop := (uncheckedI128_ok h).1.2
    unfold InI128 at hrange
    omega

/-- Representable integers that agree up to a multiple of `2 ^ 128` are equal. -/
theorem InI128.eq_of_dvd_sub {x y : ℤ} (hx : InI128 x) (hy : InI128 y)
    (h : (2 ^ 128 : ℤ) ∣ x - y) : x = y := by
  obtain ⟨hx, hx'⟩ := hx
  obtain ⟨hy, hy'⟩ := hy
  unfold i128Min at hx hy
  unfold i128Max at hx' hy'
  omega

/-- A representable integer is the two's complement representative of its class. -/
theorem InI128.eq_bmod {x y : ℤ} (hy : InI128 y) (h : (2 ^ 128 : ℤ) ∣ y - x) :
    y = x.bmod (2 ^ 128) := by
  refine hy.eq_of_dvd_sub (inI128_bmod x) ?_
  have hbmod : (2 ^ 128 : ℤ) ∣ x.bmod (2 ^ 128) - x := mod_cast Int.dvd_bmod_sub_self
  have hsplit : y - x.bmod (2 ^ 128) = (y - x) - (x.bmod (2 ^ 128) - x) := by omega
  rw [hsplit]
  exact Int.dvd_sub h hbmod

end OrbitChain.Foundations
