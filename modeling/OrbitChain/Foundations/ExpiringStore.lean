import OrbitChain.Foundations.ExceptSteps
import Mathlib.Logic.Function.Basic
import Mathlib.Order.Nat

/-!
# Stores whose entries expire

A keyed store on a ledger that counts its closes: every entry has the last ledger it lives in. An
entry keeps its lifetime when it is overwritten, and has it extended on request.

What lifetime an entry is created and restored with, how far an extension goes, and what an access
is answered after the lifetime, is up to the host of the store (`StoreHost`), of which only this is
assumed: an entry is created and restored alive, an extension shortens nothing and leaves at least
the threshold, a temporary entry is gone once its lifetime is over, and a persistent one is
archived, so that an access to it fails until it is restored. A host that restores archived entries
by itself is not considered here.

`Prolongs` says what a well-behaved writer does to the lifetimes of a store, whatever it writes: no
entry is lost and none lives shorter, and a new entry lives at least up to a horizon. It composes,
so that it holds of whole runs.
-/

set_option autoImplicit false
set_option relaxedAutoImplicit false

namespace OrbitChain.Foundations

/-- A value and the last ledger it lives in. -/
structure Stored (α : Type) where
  value : α
  liveUntil : ℕ

inductive Durability
  | persistent
  | temporary
  deriving DecidableEq

/-- Why an access failed: the entry is archived, there is none to extend, or its lifetime would get
too long. -/
inductive StoreFault
  | archived
  | missing
  | tooLong
  deriving DecidableEq

/-- The host of a store: the greatest lifetime of an entry, the last ledger of a new entry, of a
restored one and of one after its extension, and what an access is answered after the lifetime. -/
structure StoreHost where
  maximum : ℕ
  created (durability : Durability) (now : ℕ) : ℕ
  restored (now : ℕ) : ℕ
  extended (now liveUntil threshold extendTo : ℕ) : ℕ
  ended : Durability → Except StoreFault Unit
  /-- New entries are alive. -/
  le_created (durability : Durability) (now : ℕ) : now ≤ created durability now
  /-- Restored entries are alive. -/
  le_restored (now : ℕ) : now ≤ restored now
  /-- An extension shortens no lifetime. -/
  le_extended (now liveUntil threshold extendTo : ℕ) :
    liveUntil ≤ extended now liveUntil threshold extendTo
  /-- After the extension of an entry that is alive at least the threshold remains. -/
  add_le_extended {now liveUntil threshold extendTo : ℕ} (alive : now ≤ liveUntil)
    (extend : threshold ≤ extendTo) (within : threshold < maximum) :
    now + threshold ≤ extended now liveUntil threshold extendTo
  /-- An access to an archived entry fails. -/
  ended_persistent : ended .persistent = .error .archived
  /-- A temporary entry is gone. -/
  ended_temporary : ended .temporary = .ok ()

/-- A store of values whose types depend on their keys. -/
abbrev ExpiringStore {Key : Type} (Value : Key → Type) := (key : Key) → Option (Stored (Value key))

namespace ExpiringStore

variable {Key : Type} {Value : Key → Type} (host : StoreHost)
  (durability : Durability) (now : ℕ) (store : ExpiringStore Value)

/-- The entry under a key. -/
def find (key : Key) : Except StoreFault (Option (Stored (Value key))) :=
  match store key with
  | none => .ok none
  | some entry =>
    if now ≤ entry.liveUntil then .ok (some entry)
    else do
      host.ended durability
      pure none

def has (key : Key) : Except StoreFault Bool := do
  let entry ← find host durability now store key
  pure entry.isSome

def get (key : Key) : Except StoreFault (Option (Value key)) := do
  let entry ← find host durability now store key
  pure (entry.map Stored.value)

/-- The value under a key, archived or not. -/
def valueAt (key : Key) : Option (Value key) := (store key).map Stored.value

/-- The entry under a key is there and alive. -/
def Live (key : Key) : Prop := ∃ entry, store key = some entry ∧ now ≤ entry.liveUntil

/-! ### Accesses to persistent entries -/

section Persistent

variable {host durability now store} {key : Key}

/-- A persistent entry is found, or it is archived. -/
theorem find_persistent (host : StoreHost) (now : ℕ) (store : ExpiringStore Value) (key : Key) :
    find host .persistent now store key = .ok (store key) ∨
    find host .persistent now store key = .error .archived ∧
      ∃ entry, store key = some entry ∧ entry.liveUntil < now := by
  unfold find
  cases hentry : store key with
  | none => exact .inl rfl
  | some entry =>
    by_cases hlive : now ≤ entry.liveUntil
    · exact .inl (if_pos hlive)
    · refine .inr ⟨?_, entry, rfl, not_le.mp hlive⟩
      dsimp only
      rw [if_neg hlive, host.ended_persistent]
      rfl

/-- An entry that is alive is found. -/
theorem find_of_live (h : Live now store key) :
    find host .persistent now store key = .ok (store key) := by
  obtain ⟨entry, hentry, hlive⟩ := h
  unfold find
  rw [hentry]
  exact if_pos hlive

/-- A temporary entry is found while it is alive. -/
theorem find_temporary (host : StoreHost) (now : ℕ) (store : ExpiringStore Value) (key : Key) :
    find host .temporary now store key =
      .ok ((store key).filter fun entry ↦ now ≤ entry.liveUntil) := by
  unfold find
  cases store key with
  | none => rfl
  | some entry =>
    by_cases hlive : now ≤ entry.liveUntil <;>
      simp [Option.filter, hlive, host.ended_temporary]

theorem find_of_none (h : store key = none) : find host durability now store key = .ok none := by
  unfold find
  rw [h]

end Persistent

/-! ### Writers -/

section Writers

variable [DecidableEq Key]

/-- Write a value. A new entry gets a lifetime from the host, an old one keeps its own. -/
def set (key : Key) (value : Value key) : Except StoreFault (ExpiringStore Value) := do
  let entry ← find host durability now store key
  let liveUntil := (entry.map Stored.liveUntil).getD (host.created durability now)
  pure (Function.update store key (some ⟨value, liveUntil⟩))

/-- Extend the lifetime of an entry. Only that of a persistent one is cut to the greatest. -/
def extendTtl (key : Key) (threshold extendTo : ℕ) : Except StoreFault (ExpiringStore Value) := do
  let entry ← find host durability now store key
  let entry ← orFail entry .missing
  failIf (durability = .temporary ∧ host.maximum ≤ extendTo) .tooLong
  pure (Function.update store key
    (some ⟨entry.value, host.extended now entry.liveUntil threshold extendTo⟩))

def remove (key : Key) : ExpiringStore Value := Function.update store key none

variable {now store} {key : Key}

theorem valueAt_update {value : Value key} {liveUntil : ℕ} :
    valueAt (Function.update store key (some ⟨value, liveUntil⟩)) =
      Function.update (valueAt store) key (some value) := by
  funext other
  unfold valueAt
  by_cases hother : other = key
  · subst hother
    rw [Function.update_self, Function.update_self]
    rfl
  · rw [Function.update_of_ne hother, Function.update_of_ne hother]

/-- A value written over itself changes no value. -/
theorem valueAt_update_self {entry : Stored (Value key)} (hentry : store key = some entry)
    (liveUntil : ℕ) : valueAt (Function.update store key (some ⟨entry.value, liveUntil⟩)) =
      valueAt store := by
  refine valueAt_update.trans ?_
  exact Function.update_eq_self_iff.mpr (congrArg (Option.map Stored.value) hentry).symm

end Writers

/-! ### What writers do to lifetimes -/

variable {now store} {key : Key}

/-- No entry is lost or lives shorter, and a new one lives at least up to the horizon. -/
structure Prolongs (horizon : ℕ) (store next : ExpiringStore Value) : Prop where
  kept {key : Key} {entry : Stored (Value key)} (h : store key = some entry) :
    ∃ later, next key = some later ∧ entry.liveUntil ≤ later.liveUntil
  created {key : Key} {later : Stored (Value key)} (h : next key = some later) :
    horizon ≤ later.liveUntil ∨
      ∃ entry, store key = some entry ∧ entry.liveUntil ≤ later.liveUntil

namespace Prolongs

variable {horizon : ℕ} {middle next : ExpiringStore Value}

theorem refl (horizon : ℕ) (store : ExpiringStore Value) : Prolongs horizon store store where
  kept h := ⟨_, h, le_rfl⟩
  created h := .inr ⟨_, h, le_rfl⟩

theorem trans (first : Prolongs horizon store middle) (second : Prolongs horizon middle next) :
    Prolongs horizon store next where
  kept h := by
    obtain ⟨entry, hentry, hle⟩ := first.kept h
    obtain ⟨later, hlater, hle'⟩ := second.kept hentry
    exact ⟨later, hlater, hle.trans hle'⟩
  created h := by
    rcases second.created h with hnew | ⟨entry, hentry, hle⟩
    · exact .inl hnew
    · rcases first.created hentry with hnew | ⟨old, hold, hle'⟩
      · exact .inl (hnew.trans hle)
      · exact .inr ⟨old, hold, hle'.trans hle⟩

/-- A nearer horizon is reached as well. -/
theorem mono (h : Prolongs horizon store next) {nearer : ℕ} (hle : nearer ≤ horizon) :
    Prolongs nearer store next where
  kept := h.kept
  created hlater := (h.created hlater).imp_left hle.trans

/-- A write of an entry that lives up to the horizon, and as long as the entry before it. -/
theorem update [DecidableEq Key] {value : Value key} {liveUntil : ℕ} (hlive : horizon ≤ liveUntil)
    (hlonger : ∀ entry, store key = some entry → entry.liveUntil ≤ liveUntil) :
    Prolongs horizon store (Function.update store key (some ⟨value, liveUntil⟩)) where
  kept {other entry} h := by
    by_cases hother : other = key
    · subst hother
      exact ⟨_, Function.update_self .., hlonger entry h⟩
    · exact ⟨entry, by rw [Function.update_of_ne hother, h], le_rfl⟩
  created {other later} h := by
    by_cases hother : other = key
    · subst hother
      rw [Function.update_self, Option.some.injEq] at h
      exact .inl (by rw [← h]; exact hlive)
    · rw [Function.update_of_ne hother] at h
      exact .inr ⟨later, h, le_rfl⟩

/-- A write of a known entry that lives as long as before. -/
theorem lengthened [DecidableEq Key] {entry : Stored (Value key)} (hentry : store key = some entry)
    {value : Value key} {liveUntil : ℕ} (hle : entry.liveUntil ≤ liveUntil) (horizon : ℕ) :
    Prolongs horizon store (Function.update store key (some ⟨value, liveUntil⟩)) where
  kept {other old} h := by
    by_cases hother : other = key
    · subst hother
      obtain rfl : entry = old := Option.some.inj (hentry.symm.trans h)
      exact ⟨_, Function.update_self .., hle⟩
    · exact ⟨old, by rw [Function.update_of_ne hother, h], le_rfl⟩
  created {other later} h := by
    by_cases hother : other = key
    · subst hother
      rw [Function.update_self, Option.some.injEq] at h
      exact .inr ⟨entry, hentry, by rw [← h]; exact hle⟩
    · rw [Function.update_of_ne hother] at h
      exact .inr ⟨later, h, le_rfl⟩

end Prolongs

end ExpiringStore

end OrbitChain.Foundations
