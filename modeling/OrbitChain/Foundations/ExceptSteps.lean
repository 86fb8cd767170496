import Mathlib.Data.List.Forall2
import Mathlib.Logic.Basic
import Mathlib.Tactic.SplitIfs
import Mathlib.Tactic.TypeStar

/-!
# Fallible steps and their inversion

A program that stops at its first failed check is a chain of `Except` steps. `failIf` stops when
a condition holds, `orFail` stops when a value is missing, and the inversion lemmas below take a
successful chain apart: a bind succeeded exactly when its first step did and the rest succeeded
on its value. They are `simp` lemmas, so `simp only [program, bind_eq_ok_iff, ...]` turns the
success of a whole program into the list of its checks and its result.
-/

set_option autoImplicit false
set_option relaxedAutoImplicit false

namespace OrbitChain.Foundations

universe u

variable {ε : Type*} {α β : Type u}

/-- Stop with `failure` when the condition holds. -/
def failIf (condition : Prop) [Decidable condition] (failure : ε) : Except ε Unit :=
  if condition then .error failure else .ok ()

/-- The value, or `failure` when there is none. -/
def orFail (value : Option α) (failure : ε) : Except ε α :=
  match value with
  | some a => .ok a
  | none => .error failure

/-- A bind succeeds exactly when its first step succeeds and the rest succeeds on its value. -/
@[simp] theorem bind_eq_ok_iff {x : Except ε α} {f : α → Except ε β} {b : β} :
    (x >>= f) = .ok b ↔ ∃ a, x = .ok a ∧ f a = .ok b := by
  cases x <;> simp [bind, Except.bind]

@[simp] theorem map_eq_ok_iff {x : Except ε α} {f : α → β} {b : β} :
    f <$> x = .ok b ↔ ∃ a, x = .ok a ∧ f a = b := by
  cases x <;> simp [Functor.map, Except.map]

@[simp] theorem pure_eq_ok_iff {a b : α} : (pure a : Except ε α) = .ok b ↔ a = b := by
  simp [pure, Except.pure]

@[simp] theorem failIf_eq_ok_iff {condition : Prop} [Decidable condition] {failure : ε}
    {u : Unit} : failIf condition failure = .ok u ↔ ¬ condition := by
  unfold failIf
  split_ifs with h <;> simp [h]

@[simp] theorem orFail_eq_ok_iff {value : Option α} {failure : ε} {a : α} :
    orFail value failure = .ok a ↔ value = some a := by
  cases value <;> simp [orFail]

/-- Renaming failures makes nothing succeed. -/
@[simp] theorem mapError_eq_ok_iff {ε' : Type*} {x : Except ε α} {f : ε → ε'} {a : α} :
    x.mapError f = .ok a ↔ x = .ok a := by
  cases x <;> simp [Except.mapError]

/-- A step succeeds when it returns something. -/
theorem isOk_iff {x : Except ε α} : x.isOk = true ↔ ∃ a, x = .ok a := by
  cases x with
  | error failure => exact ⟨fun h ↦ absurd h Bool.false_ne_true, fun ⟨_, h⟩ ↦ nomatch h⟩
  | ok a => exact ⟨fun _ ↦ ⟨a, rfl⟩, fun _ ↦ rfl⟩

/-! ### One step for each entry of a list -/

section Lists

variable {ι : Type*} {f g : ι → Except ε α} {l : List ι}

/-- A step for each entry succeeds when every one of them does, with their results in order. -/
theorem mapM_eq_ok_iff {results : List α} :
    l.mapM f = .ok results ↔ List.Forall₂ (fun i a ↦ f i = .ok a) l results := by
  induction l generalizing results with
  | nil =>
    rw [List.mapM_nil, pure_eq_ok_iff, List.forall₂_nil_left_iff]
    exact eq_comm
  | cons i rest ih =>
    rw [List.mapM_cons, List.forall₂_cons_left_iff]
    simp only [bind_eq_ok_iff, pure_eq_ok_iff, ih]
    constructor
    · rintro ⟨a, ha, results, hresults, rfl⟩
      exact ⟨a, results, ha, hresults, rfl⟩
    · rintro ⟨a, results, ha, hresults, rfl⟩
      exact ⟨a, ha, results, hresults, rfl⟩

theorem mapM_congr (h : ∀ i ∈ l, f i = g i) : l.mapM f = l.mapM g := by
  induction l with
  | nil => rfl
  | cons i rest ih =>
    rw [List.mapM_cons, List.mapM_cons, h i List.mem_cons_self,
      ih fun j hj ↦ h j (List.mem_cons_of_mem i hj)]

/-- When each step succeeds, so does the list of them. -/
theorem exists_mapM_eq_ok (h : ∀ i ∈ l, ∃ a, f i = .ok a) : ∃ results, l.mapM f = .ok results := by
  simp only [mapM_eq_ok_iff]
  induction l with
  | nil => exact ⟨[], .nil⟩
  | cons i rest ih =>
    obtain ⟨a, ha⟩ := h i List.mem_cons_self
    obtain ⟨results, hresults⟩ := ih fun j hj ↦ h j (List.mem_cons_of_mem i hj)
    exact ⟨a :: results, .cons ha hresults⟩

end Lists

/-! ### Which failure it is -/

/-- A program does not stop with a failure that none of its steps stops with. -/
theorem bind_ne_error {x : Except ε α} {f : α → Except ε β} {failure : ε}
    (hx : x ≠ .error failure) (hf : ∀ a, x = .ok a → f a ≠ .error failure) :
    (x >>= f) ≠ .error failure := by
  cases x with
  | error other => exact fun h ↦ hx (by injection h with h; rw [h])
  | ok a => exact hf a rfl

theorem failIf_ne_error {condition : Prop} [Decidable condition] {other failure : ε}
    (h : other ≠ failure) : failIf condition other ≠ .error failure := by
  unfold failIf
  split_ifs <;> simp [h]

theorem orFail_ne_error {value : Option α} {other failure : ε} (h : other ≠ failure) :
    orFail value other ≠ .error failure := by
  cases value <;> simp [orFail, h]

theorem pure_ne_error (a : α) (failure : ε) : (pure a : Except ε α) ≠ .error failure := by
  intro h
  cases h

/-- A step that has a value has not failed. -/
theorem ne_error_of_eq_ok {x : Except ε α} {a : α} (h : x = .ok a) (failure : ε) :
    x ≠ .error failure := by
  rw [h]
  intro h
  cases h

/-! ### Programs side by side -/

/-- Two continuations need to agree on what the first step returns. -/
theorem bind_congr_of_ok {x : Except ε α} {f g : α → Except ε β}
    (h : ∀ a, x = .ok a → f a = g a) : (x >>= f) = (x >>= g) := by
  cases x with
  | error failure => rfl
  | ok a => exact h a rfl

/-- Two programs run side by side: when the second one's first step returns the image of what the
first one's returns, and so do the rests on it, then the second program returns the image of what
the first returns, and fails as it fails. -/
theorem bind_eq_map_bind {α' β' : Type u} {x : Except ε α} {x' : Except ε α'} {image : α → α'}
    {f : α → Except ε β} {f' : α' → Except ε β'} {image' : β → β'} (hx : x' = image <$> x)
    (hf : ∀ a, x = .ok a → f' (image a) = image' <$> f a) :
    (x' >>= f') = image' <$> (x >>= f) := by
  subst hx
  cases x with
  | error failure => rfl
  | ok a => exact hf a rfl

/-- Two programs whose first steps are the same. -/
theorem bind_eq_map_bind_same {β' : Type u} {x x' : Except ε α} {f : α → Except ε β}
    {f' : α → Except ε β'} {image : β → β'} (hx : x' = x)
    (hf : ∀ a, x = .ok a → f' a = image <$> f a) : (x' >>= f') = image <$> (x >>= f) := by
  subst hx
  cases x' with
  | error failure => rfl
  | ok a => exact hf a rfl

@[simp] theorem ok_bind (a : α) (f : α → Except ε β) : (Except.ok a >>= f) = f a :=
  rfl

end OrbitChain.Foundations
