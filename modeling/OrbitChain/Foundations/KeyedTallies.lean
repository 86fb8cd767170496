import Mathlib.Algebra.BigOperators.Group.Finset.Basic
import Mathlib.Algebra.BigOperators.Group.Finset.Piecewise
import Mathlib.Algebra.BigOperators.Group.List.Basic
import Mathlib.Algebra.Order.Ring.Int
import Mathlib.Data.List.Nodup

/-!
# Figures kept beside a list of entries

An account is a growing list of entries, each with a value, a key and a party. Programs keep
figures beside the list so as not to add it up again: a balance, one figure for each key, and the
list of parties that entered. `Tallied` says that the figures are those of the list, and the
operations on them (`enter`, `payOut`) keep it so. Figures of different keys add up to the whole
(`sum_totalAt`).
-/

set_option autoImplicit false
set_option relaxedAutoImplicit false

namespace OrbitChain.Foundations

variable {Entry Key Party : Type*} [DecidableEq Key]
  (value : Entry → ℤ) (key : Entry → Key) (party : Entry → Party)

/-- The total value of the entries. -/
def total (entries : List Entry) : ℤ := (entries.map value).sum

/-- The total value of the entries with a key. -/
def totalAt (k : Key) (entries : List Entry) : ℤ :=
  total value (entries.filter fun entry ↦ key entry = k)

/-- A list with an element on it, once. -/
def enlist [DecidableEq Party] (parties : List Party) (a : Party) : List Party :=
  if a ∈ parties then parties else parties ++ [a]

@[simp] theorem total_concat (entries : List Entry) (entry : Entry) :
    total value (entries ++ [entry]) = total value entries + value entry := by
  simp [total]

theorem total_cons (entry : Entry) (entries : List Entry) :
    total value (entry :: entries) = value entry + total value entries := by
  simp [total]

theorem totalAt_cons (k : Key) (entry : Entry) (entries : List Entry) :
    totalAt value key k (entry :: entries) =
      (if key entry = k then value entry else 0) + totalAt value key k entries := by
  unfold totalAt
  by_cases h : key entry = k
  · rw [if_pos h, List.filter_cons_of_pos (by simpa using h), total_cons]
  · rw [if_neg h, List.filter_cons_of_neg (by simpa using h), zero_add]

theorem totalAt_concat (k : Key) (entries : List Entry) (entry : Entry) :
    totalAt value key k (entries ++ [entry]) =
      totalAt value key k entries + if key entry = k then value entry else 0 := by
  unfold totalAt
  rw [List.filter_append]
  by_cases h : key entry = k <;> simp [h]

/-- The totals of the keys that occur add up to the whole. -/
theorem sum_totalAt (entries : List Entry) :
    ∑ k ∈ (entries.map key).toFinset, totalAt value key k entries = total value entries := by
  suffices h : ∀ keys : Finset Key, (∀ entry ∈ entries, key entry ∈ keys) →
      ∑ k ∈ keys, totalAt value key k entries = total value entries from
    h _ fun entry hentry ↦ List.mem_toFinset.mpr (List.mem_map_of_mem hentry)
  intro keys hkeys
  induction entries with
  | nil => exact Finset.sum_eq_zero fun k _ ↦ rfl
  | cons entry rest ih =>
    have hhead := hkeys entry List.mem_cons_self
    have htail := ih fun other hother ↦ hkeys other (List.mem_cons_of_mem _ hother)
    calc ∑ k ∈ keys, totalAt value key k (entry :: rest)
        = ∑ k ∈ keys, ((if key entry = k then value entry else 0) + totalAt value key k rest) :=
          Finset.sum_congr rfl fun k _ ↦ totalAt_cons value key k entry rest
      _ = value entry + total value rest := by
          rw [Finset.sum_add_distrib, Finset.sum_ite_eq, if_pos hhead, htail]
      _ = total value (entry :: rest) := (total_cons value entry rest).symm

@[simp] theorem mem_enlist [DecidableEq Party] {parties : List Party} {a b : Party} :
    b ∈ enlist parties a ↔ b ∈ parties ∨ b = a := by
  unfold enlist
  split_ifs with h
  · exact ⟨.inl, fun hb ↦ hb.elim id fun heq ↦ heq ▸ h⟩
  · rw [List.mem_append, List.mem_singleton]

theorem nodup_enlist [DecidableEq Party] {parties : List Party} (h : parties.Nodup)
    (a : Party) : (enlist parties a).Nodup := by
  unfold enlist
  split_ifs with hmem
  · exact h
  · exact h.append (List.nodup_singleton a) (by simpa using hmem)

/-- The figures are those of the entries, less what was paid out of the balance. -/
structure Tallied (entries : List Entry) (paidOut balance : ℤ) (figures : Key → Option ℤ)
    (parties : List Party) : Prop where
  balance_add : balance + paidOut = total value entries
  figure : ∀ k, (figures k).getD 0 = totalAt value key k entries
  figure_stored : ∀ k, (figures k).isSome ↔ k ∈ entries.map key
  parties_nodup : parties.Nodup
  mem_parties : ∀ a, a ∈ parties ↔ a ∈ entries.map party

namespace Tallied

variable {value key party} {entries : List Entry} {paidOut balance : ℤ}
  {figures : Key → Option ℤ} {parties : List Party}

theorem empty : Tallied value key party [] 0 0 (fun _ ↦ none) [] where
  balance_add := rfl
  figure _ := rfl
  figure_stored := by simp
  parties_nodup := .nil
  mem_parties := by simp

/-- An entry raises the balance and the figure of its key by its value and lists its party. -/
theorem enter [DecidableEq Party]
    (h : Tallied value key party entries paidOut balance figures parties) (entry : Entry) :
    Tallied value key party (entries ++ [entry]) paidOut (balance + value entry)
      (Function.update figures (key entry)
        (some ((figures (key entry)).getD 0 + value entry)))
      (enlist parties (party entry)) where
  balance_add := by
    rw [total_concat, ← h.balance_add]
    omega
  figure k := by
    rw [totalAt_concat, ← h.figure]
    by_cases hk : k = key entry
    · rw [hk, Function.update_self, if_pos rfl, Option.getD_some]
    · rw [Function.update_of_ne hk, if_neg fun heq ↦ hk heq.symm, add_zero]
  figure_stored k := by
    rw [List.map_append, List.mem_append, List.map_singleton, List.mem_singleton]
    by_cases hk : k = key entry
    · simp [hk]
    · rw [Function.update_of_ne hk, h.figure_stored, or_iff_left hk]
  parties_nodup := nodup_enlist h.parties_nodup _
  mem_parties a := by
    rw [mem_enlist, h.mem_parties, List.map_append, List.mem_append, List.map_singleton,
      List.mem_singleton]

/-- A payment lowers the balance by what it adds to the total paid out. -/
theorem payOut (h : Tallied value key party entries paidOut balance figures parties)
    (amount : ℤ) :
    Tallied value key party entries (amount + paidOut) (balance - amount) figures parties where
  balance_add := by
    rw [← h.balance_add]
    omega
  figure := h.figure
  figure_stored := h.figure_stored
  parties_nodup := h.parties_nodup
  mem_parties := h.mem_parties

/-- The figures of the keys that occur add up to the total of the entries. -/
theorem sum_figures (h : Tallied value key party entries paidOut balance figures parties) :
    ∑ k ∈ (entries.map key).toFinset, (figures k).getD 0 = total value entries := by
  rw [← sum_totalAt value key entries]
  exact Finset.sum_congr rfl fun k _ ↦ h.figure k

end Tallied

end OrbitChain.Foundations
