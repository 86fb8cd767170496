import Mathlib.Data.LawfulXor.Basic
import Mathlib.Data.List.Basic
import Mathlib.Logic.Function.Iterate

/-!
# Checksums by a linear shift register

A register reads a sequence of words: it takes each in by exclusive or and shifts. Where the shift
and the way a word is taken in respect exclusive or, so does the whole run: the checksum of the
difference of two sequences is the difference of their checksums (`run_zipWith_xor`), so that an
error is seen exactly when the checksum of the error is not zero. Zeros in front of an error do not
change its checksum, and zeros behind it only shift on (`run_replicate_append`,
`run_append_replicate`).
-/

set_option autoImplicit false
set_option relaxedAutoImplicit false

namespace OrbitChain.Foundations

/-- A register that reads words, linear over exclusive or. -/
structure ShiftRegister (State Word : Type*) [XorOp State] [XorOp Word] where
  shift : State → State
  load : Word → State
  shift_xor : ∀ a b, shift (a ^^^ b) = shift a ^^^ shift b
  load_xor : ∀ a b, load (a ^^^ b) = load a ^^^ load b

namespace ShiftRegister

variable {State Word : Type*} [XorOp State] [Zero State] [LawfulXor State] [XorOp Word]
  (r : ShiftRegister State Word) {data data' : List Word}

/-- The register after one more word. -/
def read (state : State) (x : Word) : State := r.shift (state ^^^ r.load x)

/-- The register after a sequence of words. -/
def run (data : List Word) : State := data.foldl r.read 0

theorem shift_zero : r.shift 0 = 0 := by
  have h := r.shift_xor 0 0
  rwa [LawfulXor.xor_self, LawfulXor.xor_self] at h

theorem read_xor (state state' : State) (x x' : Word) :
    r.read (state ^^^ state') (x ^^^ x') = r.read state x ^^^ r.read state' x' := by
  rw [read, read, read, ← r.shift_xor, r.load_xor, xor_assoc state state',
    xor_assoc state (r.load x), ← xor_assoc state' (r.load x), xor_comm state' (r.load x),
    xor_assoc (r.load x)]

/-- The checksum of a difference is the difference of the checksums. -/
theorem run_zipWith_xor (hlength : data.length = data'.length) :
    r.run (List.zipWith (· ^^^ ·) data data') = r.run data ^^^ r.run data' := by
  suffices hfold : ∀ state state', (List.zipWith (· ^^^ ·) data data').foldl r.read
      (state ^^^ state') = data.foldl r.read state ^^^ data'.foldl r.read state' by
    simpa only [run, xor_zero] using hfold 0 0
  induction data generalizing data' with
  | nil =>
    obtain rfl := List.eq_nil_of_length_eq_zero hlength.symm
    exact fun _ _ ↦ rfl
  | cons x rest ih =>
    obtain ⟨x', rest', rfl⟩ := List.exists_cons_of_length_eq_add_one hlength.symm
    intro state state'
    rw [List.zipWith_cons_cons, List.foldl_cons, List.foldl_cons, List.foldl_cons, read_xor]
    exact ih (Nat.succ.inj hlength) _ _

/-! ### Zeros around -/

variable [Zero Word] [LawfulXor Word]

theorem load_zero : r.load 0 = 0 := by
  have h := r.load_xor 0 0
  rwa [LawfulXor.xor_self, LawfulXor.xor_self] at h

theorem read_zero (state : State) : r.read state 0 = r.shift state := by
  rw [read, load_zero, xor_zero]

/-- Zeros in front are not seen. -/
theorem run_replicate_append (count : ℕ) :
    r.run (List.replicate count 0 ++ data) = r.run data := by
  induction count with
  | zero => rfl
  | succ count ih =>
    rw [List.replicate_succ, List.cons_append]
    show (List.replicate count 0 ++ data).foldl r.read (r.read 0 0) = r.run data
    rw [read_zero, shift_zero]
    exact ih

/-- Zeros behind shift on. -/
theorem run_append_replicate (count : ℕ) :
    r.run (data ++ List.replicate count 0) = r.shift^[count] (r.run data) := by
  induction count with
  | zero => rw [List.replicate_zero, List.append_nil, Function.iterate_zero_apply]
  | succ count ih =>
    rw [List.replicate_succ', ← List.append_assoc, Function.iterate_succ_apply', ← ih]
    show ((data ++ List.replicate count 0) ++ [0]).foldl r.read 0 = _
    rw [List.foldl_append]
    exact r.read_zero _

/-- Zeros behind do not hide what is seen, if the shift loses nothing. -/
theorem run_append_replicate_ne_zero (hshift : ∀ state, r.shift state = 0 → state = 0)
    (count : ℕ) (h : r.run data ≠ 0) : r.run (data ++ List.replicate count 0) ≠ 0 := by
  rw [run_append_replicate]
  induction count with
  | zero => exact h
  | succ count ih =>
    rw [Function.iterate_succ_apply']
    exact fun hzero ↦ ih (hshift _ hzero)

end ShiftRegister

end OrbitChain.Foundations
