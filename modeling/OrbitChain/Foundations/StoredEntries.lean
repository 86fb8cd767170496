import Mathlib.Algebra.BigOperators.Group.Finset.Basic
import Mathlib.Algebra.BigOperators.Group.Finset.Piecewise
import Mathlib.Data.Fintype.BigOperators

/-!
# Figures of a keyed store

A keyed store holds an entry for some of its keys. Programs keep figures beside such a store: how
many keys have an entry (`storedKeys`), and the total of a weight of the entries (`storedTotal`).
Writing an entry adds its key to the first, and to the second the weight that the new entry has
over the old one.
-/

set_option autoImplicit false
set_option relaxedAutoImplicit false

namespace OrbitChain.Foundations

variable {Key Value : Type*} [Fintype Key]

/-- The keys that have an entry. -/
def storedKeys (entries : Key → Option Value) : Finset Key :=
  Finset.univ.filter fun key ↦ (entries key).isSome = true

/-- The total weight of the entries. -/
def storedTotal (weight : Value → ℕ) (entries : Key → Option Value) : ℕ :=
  ∑ key, ((entries key).map weight).getD 0

@[simp] theorem mem_storedKeys {entries : Key → Option Value} {key : Key} :
    key ∈ storedKeys entries ↔ (entries key).isSome = true := by
  simp [storedKeys]

@[simp] theorem storedKeys_none : storedKeys (fun _ : Key ↦ (none : Option Value)) = ∅ := by
  simp [storedKeys]

@[simp] theorem storedTotal_none (weight : Value → ℕ) :
    storedTotal weight (fun _ : Key ↦ none) = 0 := by
  simp [storedTotal]

variable [DecidableEq Key] (entries : Key → Option Value) (key : Key) (value : Value)

/-- Writing an entry stores its key. -/
theorem storedKeys_update :
    storedKeys (Function.update entries key (some value)) = insert key (storedKeys entries) := by
  ext other
  rw [mem_storedKeys, Finset.mem_insert, mem_storedKeys]
  by_cases hkey : other = key
  · rw [hkey, Function.update_self]
    simp
  · rw [Function.update_of_ne hkey, or_iff_right hkey]

/-- A first entry is one key more, and a later one is none. -/
theorem card_storedKeys_update :
    (storedKeys (Function.update entries key (some value))).card =
      (storedKeys entries).card + if (entries key).isNone then 1 else 0 := by
  rw [storedKeys_update]
  cases hentry : entries key with
  | none =>
    have hnew : key ∉ storedKeys entries := by simp [hentry]
    rw [Finset.card_insert_of_notMem hnew]
    rfl
  | some old =>
    have hstored : key ∈ storedKeys entries := by simp [hentry]
    rw [Finset.insert_eq_of_mem hstored]
    rfl

/-- Writing an entry puts its weight in the place of the weight of the old one. -/
theorem storedTotal_update (weight : Value → ℕ) :
    storedTotal weight (Function.update entries key (some value)) +
        ((entries key).map weight).getD 0 =
      storedTotal weight entries + weight value := by
  have hupdate :
      (fun other ↦ ((Function.update entries key (some value) other).map weight).getD 0) =
        Function.update (fun other ↦ ((entries other).map weight).getD 0) key (weight value) := by
    funext other
    by_cases hkey : other = key
    · rw [hkey, Function.update_self, Function.update_self]
      rfl
    · rw [Function.update_of_ne hkey, Function.update_of_ne hkey]
  unfold storedTotal
  rw [hupdate, Finset.sum_update_of_mem (Finset.mem_univ key),
    ← Finset.add_sum_erase _ _ (Finset.mem_univ key), Finset.sdiff_singleton_eq_erase]
  omega

end OrbitChain.Foundations
