import Mathlib.Data.List.Induction
import Mathlib.Data.Nat.Digits.Defs
import Mathlib.Tactic.Ring

/-!
# Regrouping digits through an accumulator

A sequence of groups of `m` bits is rewritten as groups of `n` bits by a loop that shifts groups in
at the low end of an accumulator and takes groups out at its high end. Both sequences are read as
numbers, first group highest (`bigEndian`); what is in the accumulator and not yet out is the
remainder. `Regrouping` is the invariant of such a loop, `feed` and `emit` are its two steps, and a
loop that ends with nothing left has an inverse (`Regrouping.inverse`): regrouping its output the
other way gives the input.
-/

set_option autoImplicit false
set_option relaxedAutoImplicit false

namespace OrbitChain.Foundations

/-- The number written by groups of `m` bits, the first group highest. -/
def bigEndian (m : ℕ) (groups : List ℕ) : ℕ := Nat.ofDigits (2 ^ m) groups.reverse

theorem bigEndian_concat (m : ℕ) (groups : List ℕ) (group : ℕ) :
    bigEndian m (groups ++ [group]) = bigEndian m groups * 2 ^ m + group := by
  rw [bigEndian, List.reverse_append, List.reverse_singleton, List.singleton_append,
    Nat.ofDigits_cons, bigEndian]
  ring

/-- The number of groups followed by further groups. -/
theorem bigEndian_append (m : ℕ) (groups later : List ℕ) :
    bigEndian m (groups ++ later) =
      bigEndian m groups * 2 ^ (m * later.length) + bigEndian m later := by
  rw [bigEndian, List.reverse_append, Nat.ofDigits_append, List.length_reverse, ← Nat.pow_mul,
    bigEndian, bigEndian]
  ring

theorem bigEndian_lt {m : ℕ} (hm : 0 < m) {groups : List ℕ}
    (h : ∀ group ∈ groups, group < 2 ^ m) :
    bigEndian m groups < 2 ^ (m * groups.length) := by
  rw [bigEndian, Nat.pow_mul, ← List.length_reverse]
  apply Nat.ofDigits_lt_base_pow_length (Nat.one_lt_two_pow hm.ne')
  exact fun group hgroup ↦ h group (List.mem_reverse.mp hgroup)

/-- Equally many groups that write the same number are the same. -/
theorem bigEndian_injective {m : ℕ} (hm : 0 < m) {groups groups' : List ℕ}
    (hlength : groups.length = groups'.length) (h : ∀ group ∈ groups, group < 2 ^ m)
    (h' : ∀ group ∈ groups', group < 2 ^ m) (heq : bigEndian m groups = bigEndian m groups') :
    groups = groups' := by
  have hreverse := Nat.ofDigits_inj_of_len_eq (Nat.one_lt_two_pow hm.ne') (by simpa using hlength)
    (fun group hgroup ↦ h group (List.mem_reverse.mp hgroup))
    (fun group hgroup ↦ h' group (List.mem_reverse.mp hgroup)) heq
  exact List.reverse_inj.mp hreverse

/-! ### Differences -/

section Differences

variable {m : ℕ} {groups groups' : List ℕ}

/-- Numbers differ in their high and their low bits apart. -/
theorem mul_two_pow_add_xor {x x' : ℕ} (high high' : ℕ) (hx : x < 2 ^ m) (hx' : x' < 2 ^ m) :
    (high * 2 ^ m + x) ^^^ (high' * 2 ^ m + x') = (high ^^^ high') * 2 ^ m + (x ^^^ x') := by
  have hpos := Nat.two_pow_pos m
  have hdiv (high : ℕ) {x : ℕ} (hx : x < 2 ^ m) : (high * 2 ^ m + x) / 2 ^ m = high := by
    rw [Nat.mul_comm, Nat.mul_add_div hpos, Nat.div_eq_of_lt hx, Nat.add_zero]
  have hmod (high : ℕ) {x : ℕ} (hx : x < 2 ^ m) : (high * 2 ^ m + x) % 2 ^ m = x := by
    rw [Nat.mul_add_mod', Nat.mod_eq_of_lt hx]
  rw [← Nat.div_add_mod' ((high * 2 ^ m + x) ^^^ (high' * 2 ^ m + x')) (2 ^ m),
    Nat.xor_div_two_pow, Nat.xor_mod_two_pow, hdiv high hx, hdiv high' hx', hmod high hx,
    hmod high' hx']

/-- The number of the differences is the difference of the numbers. -/
theorem bigEndian_zipWith_xor (hlength : groups.length = groups'.length)
    (h : ∀ group ∈ groups, group < 2 ^ m) (h' : ∀ group ∈ groups', group < 2 ^ m) :
    bigEndian m (List.zipWith (· ^^^ ·) groups groups') =
      bigEndian m groups ^^^ bigEndian m groups' := by
  induction groups using List.reverseRecOn generalizing groups' with
  | nil =>
    obtain rfl := List.eq_nil_of_length_eq_zero hlength.symm
    exact (Nat.xor_self (bigEndian m [])).symm
  | append_singleton groups group ih =>
    obtain ⟨groups', group', rfl⟩ : ∃ before last, groups' = before ++ [last] := by
      have hne : groups' ≠ [] := by
        rintro rfl
        simp at hlength
      exact ⟨_, _, (List.dropLast_concat_getLast hne).symm⟩
    have hrest : groups.length = groups'.length := by simpa using hlength
    rw [List.forall_mem_append, List.forall_mem_singleton] at h h'
    rw [List.zipWith_append hrest, List.zipWith_cons_cons, List.zipWith_nil_left, bigEndian_concat,
      bigEndian_concat, bigEndian_concat, ih hrest h.1 h'.1, mul_two_pow_add_xor _ _ h.2 h'.2]

/-- Leading zeros write nothing. -/
theorem bigEndian_replicate_append (m count : ℕ) (groups : List ℕ) :
    bigEndian m (List.replicate count 0 ++ groups) = bigEndian m groups := by
  rw [bigEndian, List.reverse_append, List.reverse_replicate, Nat.ofDigits_append_replicate_zero,
    bigEndian]

theorem bigEndian_append_replicate (m count : ℕ) (groups : List ℕ) :
    bigEndian m (groups ++ List.replicate count 0) = bigEndian m groups * 2 ^ (m * count) := by
  have hzeros := bigEndian_replicate_append m count []
  rw [List.append_nil] at hzeros
  rw [bigEndian_append, List.length_replicate, hzeros]
  rfl

/-- Where two sequences differ in their middle only, their difference is that of the middles, moved
up past what follows. -/
theorem bigEndian_zipWith_xor_middle (m : ℕ) (before after : List ℕ)
    (hlength : groups.length = groups'.length) :
    bigEndian m (List.zipWith (· ^^^ ·) (before ++ (groups ++ after))
        (before ++ (groups' ++ after))) =
      bigEndian m (List.zipWith (· ^^^ ·) groups groups') * 2 ^ (m * after.length) := by
  have hself (same : List ℕ) :
      List.zipWith (· ^^^ ·) same same = List.replicate same.length 0 := by
    rw [List.zipWith_self, List.eq_replicate_iff]
    refine ⟨List.length_map _, fun x hx ↦ ?_⟩
    obtain ⟨y, -, rfl⟩ := List.mem_map.mp hx
    exact Nat.xor_self y
  rw [List.zipWith_append rfl, List.zipWith_append hlength, hself, hself,
    bigEndian_replicate_append, bigEndian_append_replicate]

end Differences

/-- The invariant of a loop that regroups `m` bits into `n` bits, with `bits` bits left over. -/
structure Regrouping (m n : ℕ) (input output : List ℕ) (bits : ℕ) : Prop where
  input_lt : ∀ group ∈ input, group < 2 ^ m
  output_lt : ∀ group ∈ output, group < 2 ^ n
  length : m * input.length = n * output.length + bits
  value : bigEndian n output = bigEndian m input / 2 ^ bits

namespace Regrouping

variable {m n bits : ℕ} {input output : List ℕ}

theorem start : Regrouping m n [] [] 0 :=
  ⟨by simp, by simp, rfl, by simp [bigEndian]⟩

/-- A group goes into the accumulator. -/
theorem feed (h : Regrouping m n input output bits) {group : ℕ} (hgroup : group < 2 ^ m) :
    Regrouping m n (input ++ [group]) output (bits + m) where
  input_lt := List.forall_mem_append.mpr ⟨h.input_lt, by simpa using hgroup⟩
  output_lt := h.output_lt
  length := by
    rw [List.length_append, List.length_singleton, Nat.mul_add, h.length, Nat.mul_one,
      Nat.add_assoc]
  value := by
    rw [bigEndian_concat, h.value, Nat.add_comm bits, Nat.pow_add, ← Nat.div_div_eq_div_mul,
      Nat.mul_comm, Nat.mul_add_div (Nat.two_pow_pos m), Nat.div_eq_of_lt hgroup, Nat.add_zero]

/-- The highest group left comes out of the accumulator. -/
theorem emit (h : Regrouping m n input output (bits + n)) :
    Regrouping m n input (output ++ [bigEndian m input / 2 ^ bits % 2 ^ n]) bits where
  input_lt := h.input_lt
  output_lt := List.forall_mem_append.mpr
    ⟨h.output_lt, by simpa using Nat.mod_lt _ (Nat.two_pow_pos n)⟩
  length := by
    rw [h.length, List.length_append, List.length_singleton]
    ring
  value := by
    rw [bigEndian_concat, h.value, Nat.pow_add, ← Nat.div_div_eq_div_mul]
    exact Nat.div_add_mod' _ _

/-- Regrouping back what a complete regrouping gave is giving the input again. -/
theorem inverse (hm : 0 < m) {back : List ℕ} (h : Regrouping m n input output 0)
    (hback : Regrouping n m output back 0) : back = input := by
  have hvalue := h.value
  have hvalueBack := hback.value
  rw [Nat.pow_zero, Nat.div_one] at hvalue hvalueBack
  refine bigEndian_injective hm ?_ hback.output_lt h.input_lt (hvalueBack.trans hvalue)
  have hlength := h.length
  have hlengthBack := hback.length
  exact Nat.eq_of_mul_eq_mul_left hm (by omega)

/-- The differences of two complete regroupings write the same number. -/
theorem difference (hn : 0 < n) {input' output' : List ℕ} (h : Regrouping m n input output 0)
    (h' : Regrouping m n input' output' 0) (hlength : input.length = input'.length) :
    bigEndian n (List.zipWith (· ^^^ ·) output output') =
      bigEndian m (List.zipWith (· ^^^ ·) input input') := by
  have hout : output.length = output'.length := by
    have hcount := h.length
    rw [hlength, h'.length] at hcount
    exact (Nat.eq_of_mul_eq_mul_left hn hcount).symm
  have hvalue := h.value
  have hvalue' := h'.value
  rw [Nat.pow_zero, Nat.div_one] at hvalue hvalue'
  rw [bigEndian_zipWith_xor hout h.output_lt h'.output_lt, hvalue, hvalue',
    bigEndian_zipWith_xor hlength h.input_lt h'.input_lt]

end Regrouping

end OrbitChain.Foundations
