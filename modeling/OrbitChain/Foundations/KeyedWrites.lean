import Mathlib.Data.List.Range
import Mathlib.Logic.Function.Basic

/-!
# Stores that act as maps

A keyed store reads and writes one key at a time, however it lays its values out. It acts as a map
when a write changes what is read at its key and nothing else, on every state of the store. One
write at a time is then all there is to check: sequences of writes act on what is read as they do
on a map (`read_writeAll`), and a loop that rewrites the values at the keys below a bound rewrites
each of them once (`read_rewriteBelow`). On the map itself, rewrites at different keys commute
(`rewriteAt_comm`).
-/

set_option autoImplicit false
set_option relaxedAutoImplicit false

namespace OrbitChain.Foundations

variable {State Key Value : Type*}

/-- A store with a read and a write for each key. -/
structure KeyedStore (State Key Value : Type*) where
  read : State → Key → Option Value
  write : State → Key → Value → State

/-- Write a list of keys and values to a map, in order. -/
def updateAll [DecidableEq Key] (entries : Key → Option Value) (writes : List (Key × Value)) :
    Key → Option Value :=
  writes.foldl (fun entries write ↦ Function.update entries write.1 (some write.2)) entries

namespace KeyedStore

variable (store : KeyedStore State Key Value)

/-- Write a list of keys and values, in order. -/
def writeAll (state : State) (writes : List (Key × Value)) : State :=
  writes.foldl (fun state write ↦ store.write state write.1 write.2) state

variable [DecidableEq Key]

/-- A write sets what is read at its key and leaves what is read elsewhere. -/
def ActsAsMap : Prop :=
  ∀ state key value,
    store.read (store.write state key value) =
      Function.update (store.read state) key (some value)

/-- Sequences of writes act on what is read as they do on a map. -/
theorem read_writeAll {store : KeyedStore State Key Value} (hstore : store.ActsAsMap)
    (state : State) (writes : List (Key × Value)) :
    store.read (store.writeAll state writes) = updateAll (store.read state) writes := by
  induction writes generalizing state with
  | nil => rfl
  | cons write rest ih =>
    calc store.read (store.writeAll state (write :: rest))
        = updateAll (store.read (store.write state write.1 write.2)) rest := ih _
      _ = updateAll (store.read state) (write :: rest) := by rw [hstore]; rfl

/-- Visit the keys below a bound in order and write what becomes of the values there, where
anything does. -/
def rewriteBelow (store : KeyedStore State ℕ Value) (rewrite : Value → Option Value) (bound : ℕ)
    (state : State) : State :=
  (List.range bound).foldl (fun state key ↦
    match (store.read state key).bind rewrite with
    | some value => store.write state key value
    | none => state) state

/-- The loop rewrites each value below the bound and leaves the others. -/
theorem read_rewriteBelow {store : KeyedStore State ℕ Value} (hstore : store.ActsAsMap)
    (rewrite : Value → Option Value) (bound : ℕ) (state : State)
    (key : ℕ) : store.read (store.rewriteBelow rewrite bound state) key =
      if key < bound then
        (store.read state key).map fun value ↦ (rewrite value).getD value
      else store.read state key := by
  induction bound generalizing key with
  | zero => rfl
  | succ bound ih =>
    have hsucc : store.rewriteBelow rewrite (bound + 1) state =
        match (store.read (store.rewriteBelow rewrite bound state) bound).bind rewrite with
        | some value => store.write (store.rewriteBelow rewrite bound state) bound value
        | none => store.rewriteBelow rewrite bound state := by
      rw [rewriteBelow, List.range_succ, List.foldl_append]
      rfl
    have hread : store.read (store.rewriteBelow rewrite bound state) bound =
        store.read state bound := by rw [ih bound, if_neg (lt_irrefl bound)]
    rw [hsucc, hread]
    by_cases hkey : key = bound
    · subst hkey
      rw [if_pos (Nat.lt_succ_self key)]
      cases hvalue : store.read state key with
      | none => rw [Option.bind_none, ih key, if_neg (lt_irrefl key), hvalue]; rfl
      | some value =>
        rw [Option.bind_some, Option.map_some]
        cases hrewrite : rewrite value with
        | none => rw [ih key, if_neg (lt_irrefl key), hvalue]; rfl
        | some value' => rw [hstore, Function.update_self]; rfl
    · have hlt : key < bound + 1 ↔ key < bound := by omega
      simp only [hlt]
      cases (store.read state bound).bind rewrite with
      | none => exact ih key
      | some value => rw [hstore, Function.update_of_ne hkey, ih key]

end KeyedStore

/-! ### Rewrites of a map -/

section Rewrites

variable {α : Type*} [DecidableEq Key]

/-- A map with the value at one key rewritten. -/
def rewriteAt (entries : Key → α) (key : Key) (rewrite : α → α) : Key → α :=
  Function.update entries key (rewrite (entries key))

/-- Two rewrites commute when they are at different keys, or commute at their common key. -/
theorem rewriteAt_comm (entries : Key → α) {key key' : Key} {rewrite rewrite' : α → α}
    (h : key = key' → ∀ value, rewrite (rewrite' value) = rewrite' (rewrite value)) :
    rewriteAt (rewriteAt entries key rewrite) key' rewrite' =
      rewriteAt (rewriteAt entries key' rewrite') key rewrite := by
  unfold rewriteAt
  by_cases hkey : key = key'
  · subst hkey
    rw [Function.update_idem, Function.update_idem, Function.update_self, Function.update_self,
      h rfl]
  · rw [Function.update_of_ne (Ne.symm hkey), Function.update_of_ne hkey]
    exact Function.update_comm hkey _ _ entries

end Rewrites

end OrbitChain.Foundations
