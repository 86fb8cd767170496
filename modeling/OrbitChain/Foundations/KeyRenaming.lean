import OrbitChain.Foundations.KeyedWrites
import Mathlib.Data.List.Nodup

/-!
# Writing a map back under other keys

A map is written out as a list of its entries (`Lists`) and read back by writing the entries to an
empty map. If a translation of keys and values comes in between, the map comes back exactly when
the translation fixes every entry (`updateAll_map_eq_iff`), provided translating a key three times
is the same as translating it twice: a key that comes back is a translated key, and the key it was
translated from comes back too.
-/

set_option autoImplicit false
set_option relaxedAutoImplicit false

namespace OrbitChain.Foundations

variable {Key Value : Type*}

/-- The entries of a map, each key once, in some order. -/
structure Lists (entries : List (Key × Value)) (m : Key → Option Value) : Prop where
  nodup : (entries.map Prod.fst).Nodup
  mem_iff : ∀ key value, (key, value) ∈ entries ↔ m key = some value

variable [DecidableEq Key] {entries : List (Key × Value)} {m : Key → Option Value}

theorem updateAll_cons (start : Key → Option Value) (entry : Key × Value)
    (rest : List (Key × Value)) : updateAll start (entry :: rest) =
      updateAll (Function.update start entry.1 (some entry.2)) rest :=
  rfl

theorem updateAll_of_notMem (start : Key → Option Value) {key : Key}
    (h : key ∉ entries.map Prod.fst) : updateAll start entries key = start key := by
  induction entries generalizing start with
  | nil => rfl
  | cons entry rest ih =>
    rw [List.map_cons, List.mem_cons, not_or] at h
    rw [updateAll_cons, ih _ h.2, Function.update_of_ne h.1]

theorem updateAll_of_mem (start : Key → Option Value) (hnodup : (entries.map Prod.fst).Nodup)
    {key : Key} {value : Value} (h : (key, value) ∈ entries) :
    updateAll start entries key = some value := by
  induction entries generalizing start with
  | nil => simp at h
  | cons entry rest ih =>
    rw [List.map_cons, List.nodup_cons] at hnodup
    rcases List.mem_cons.mp h with rfl | hrest
    · exact (updateAll_of_notMem _ hnodup.1).trans (Function.update_self _ _ _)
    · exact ih _ hnodup.2 hrest

/-- What is read was there at the start or was written. -/
theorem mem_of_updateAll {start : Key → Option Value} {key : Key} {value : Value}
    (h : updateAll start entries key = some value) :
    start key = some value ∨ (key, value) ∈ entries := by
  induction entries generalizing start with
  | nil => exact .inl h
  | cons entry rest ih =>
    rw [updateAll_cons] at h
    rcases ih h with hwritten | hrest
    · rcases eq_or_ne key entry.1 with rfl | hne
      · rw [Function.update_self, Option.some.injEq] at hwritten
        exact .inr (hwritten ▸ List.mem_cons_self)
      · exact .inl (by rwa [Function.update_of_ne hne] at hwritten)
    · exact .inr (List.mem_cons_of_mem _ hrest)

/-- What is read from entries written to an empty map is one of them. -/
theorem mem_of_updateAll_none {key : Key} {value : Value}
    (h : updateAll (fun _ ↦ none) entries key = some value) : (key, value) ∈ entries :=
  (mem_of_updateAll h).resolve_left (by simp)

/-- The entries of a map write the map. -/
theorem Lists.updateAll_eq (h : Lists entries m) : updateAll (fun _ ↦ none) entries = m := by
  ext1 key
  cases hkey : m key with
  | some value => exact updateAll_of_mem _ h.nodup ((h.mem_iff key value).mpr hkey)
  | none =>
    refine updateAll_of_notMem _ fun hmem ↦ ?_
    obtain ⟨⟨key', value⟩, hentry, rfl⟩ := List.mem_map.mp hmem
    rw [(h.mem_iff _ _).mp hentry] at hkey
    simp at hkey

/-- Entries written back under translated keys are the map when the translation fixes them, and
only then. -/
theorem Lists.updateAll_map_eq_iff (h : Lists entries m) {f : Key → Key}
    (hf : ∀ key, f (f (f key)) = f (f key)) (g : Value → Value) :
    updateAll (fun _ ↦ none) (entries.map fun entry ↦ (f entry.1, g entry.2)) = m ↔
      ∀ entry ∈ entries, f entry.1 = entry.1 ∧ g entry.2 = entry.2 := by
  constructor
  · intro hback
    have hkeys (key : Key) (value : Value) (hentry : (key, value) ∈ entries) :
        ∃ key' value', (key', value') ∈ entries ∧ f key' = key := by
      have hread := (h.mem_iff key value).mp hentry
      rw [← hback] at hread
      obtain ⟨⟨key', value'⟩, hentry', htranslated⟩ :=
        List.mem_map.mp (mem_of_updateAll_none hread)
      exact ⟨key', value', hentry', congrArg Prod.fst htranslated⟩
    have hfixed (key : Key) (value : Value) (hentry : (key, value) ∈ entries) : f key = key := by
      obtain ⟨key', value', hentry', rfl⟩ := hkeys key value hentry
      obtain ⟨key'', -, -, rfl⟩ := hkeys key' value' hentry'
      exact hf key''
    rintro ⟨key, value⟩ hentry
    refine ⟨hfixed key value hentry, ?_⟩
    have hfst : (entries.map fun entry ↦ (f entry.1, g entry.2)).map Prod.fst =
        entries.map Prod.fst := by
      rw [List.map_map]
      exact List.map_congr_left fun entry hmem ↦ hfixed entry.1 entry.2 hmem
    have hwritten : (key, g value) ∈ entries.map fun entry ↦ (f entry.1, g entry.2) :=
      List.mem_map.mpr ⟨(key, value), hentry, by rw [hfixed key value hentry]⟩
    have hread := updateAll_of_mem (fun _ ↦ none) (by rw [hfst]; exact h.nodup) hwritten
    rw [hback, (h.mem_iff key value).mp hentry, Option.some.injEq] at hread
    exact hread.symm
  · intro hfixed
    have hsame : (entries.map fun entry ↦ (f entry.1, g entry.2)) = entries := by
      conv_rhs => rw [← List.map_id entries]
      exact List.map_congr_left fun entry hmem ↦
        Prod.ext (hfixed entry hmem).1 (hfixed entry hmem).2
    rw [hsame, h.updateAll_eq]

end OrbitChain.Foundations
