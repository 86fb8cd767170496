import OrbitChain.Foundations.ExceptSteps
import Mathlib.Tactic.TypeStar

/-!
# Loops that read items off a list

A loop reads a list of tokens from the left: it takes the tokens of one item, does the step of that
item, and goes on with the rest. It succeeds exactly when the list is the spelling of some items
and the steps of these succeed one after the other (`ReadsItems.eq_ok_iff`). Where no spelling
starts another, the items are determined by the list (`PrefixFree.flatMap_injective`), and where
each step is an update under a guard, the steps succeed when every guard holds of what the items
before it have left (`foldlM_guarded_eq_ok_iff`).
-/

set_option autoImplicit false
set_option relaxedAutoImplicit false

namespace OrbitChain.Foundations

universe u

variable {Token Item State : Type u} {ε : Type*}

/-! ### Spellings -/

/-- No item is spelled with nothing, and none is spelled with how another's spelling starts. -/
structure PrefixFree (spell : Item → List Token) : Prop where
  ne_nil : ∀ item, spell item ≠ []
  unique : ∀ {item item' : Item} {rest rest' : List Token},
    spell item ++ rest = spell item' ++ rest' → item = item' ∧ rest = rest'

/-- A list spells one list of items at most. -/
theorem PrefixFree.flatMap_injective {spell : Item → List Token} (h : PrefixFree spell)
    {items items' : List Item} (heq : items.flatMap spell = items'.flatMap spell) :
    items = items' := by
  induction items generalizing items' with
  | nil =>
    cases items' with
    | nil => rfl
    | cons item' rest' =>
      rw [List.flatMap_nil, List.flatMap_cons] at heq
      exact absurd (List.append_eq_nil_iff.mp heq.symm).1 (h.ne_nil item')
  | cons item rest ih =>
    cases items' with
    | nil =>
      rw [List.flatMap_nil, List.flatMap_cons] at heq
      exact absurd (List.append_eq_nil_iff.mp heq).1 (h.ne_nil item)
    | cons item' rest' =>
      rw [List.flatMap_cons, List.flatMap_cons] at heq
      obtain ⟨rfl, hrest⟩ := h.unique heq
      rw [ih hrest]

/-! ### The loop -/

/-- A loop that reads items off the front of a list and takes the step of each. -/
structure ReadsItems (spell : Item → List Token) (step : State → Item → Except ε State)
    (loop : State → List Token → Except ε State) : Prop where
  ne_nil : ∀ item, spell item ≠ []
  nil : ∀ state, loop state [] = .ok state
  item : ∀ state item rest,
    loop state (spell item ++ rest) = step state item >>= fun next ↦ loop next rest
  /-- It does not succeed on tokens that start with no item. -/
  reads : ∀ {state tokens final}, loop state tokens = .ok final →
    tokens = [] ∨ ∃ item rest, tokens = spell item ++ rest

namespace ReadsItems

variable {spell : Item → List Token} {step : State → Item → Except ε State}
  {loop : State → List Token → Except ε State}

/-- On the spelling of items the loop takes their steps. -/
theorem flatMap (h : ReadsItems spell step loop) (state : State) (items : List Item) :
    loop state (items.flatMap spell) = items.foldlM step state := by
  induction items generalizing state with
  | nil => exact h.nil state
  | cons item rest ih =>
    rw [List.flatMap_cons, h.item, List.foldlM_cons]
    exact congrArg _ (funext ih)

/-- What the loop reads is the spelling of items. -/
theorem exists_items (h : ReadsItems spell step loop) {state final : State} {tokens : List Token}
    (hloop : loop state tokens = .ok final) :
    ∃ items : List Item, tokens = items.flatMap spell := by
  -- the rest after an item is shorter, as no item is spelled with nothing
  induction hlength : tokens.length using Nat.strongRecOn generalizing state tokens with
  | ind length ih =>
    rcases h.reads hloop with rfl | ⟨item, rest, rfl⟩
    · exact ⟨[], rfl⟩
    · rw [h.item, bind_eq_ok_iff] at hloop
      obtain ⟨next, -, hrest⟩ := hloop
      have hpos := List.length_pos_of_ne_nil (h.ne_nil item)
      rw [List.length_append] at hlength
      obtain ⟨items, rfl⟩ := ih rest.length (by omega) hrest rfl
      exact ⟨item :: items, rfl⟩

theorem eq_ok_iff (h : ReadsItems spell step loop) {state final : State} {tokens : List Token} :
    loop state tokens = .ok final ↔
      ∃ items : List Item, tokens = items.flatMap spell ∧ items.foldlM step state = .ok final := by
  constructor
  · intro hloop
    obtain ⟨items, rfl⟩ := h.exists_items hloop
    exact ⟨items, rfl, (h.flatMap state items).symm.trans hloop⟩
  · rintro ⟨items, rfl, hsteps⟩
    exact (h.flatMap state items).trans hsteps

end ReadsItems

/-! ### Updates under guards -/

/-- Where each step is an update under a guard, the steps succeed when each guard holds of what the
earlier updates leave, and do all the updates. -/
theorem foldlM_guarded_eq_ok_iff {step : State → Item → Except ε State}
    {guard : State → Item → Prop} {update : State → Item → State}
    (hstep : ∀ state item next, step state item = .ok next ↔
      guard state item ∧ next = update state item)
    {items : List Item} {state final : State} :
    items.foldlM step state = .ok final ↔
      (∀ before item after, items = before ++ item :: after →
        guard (before.foldl update state) item) ∧
      final = items.foldl update state := by
  induction items generalizing state with
  | nil =>
    rw [List.foldlM_nil, pure_eq_ok_iff, List.foldl_nil]
    refine ⟨fun h ↦ ⟨fun before item after hsplit ↦ ?_, h.symm⟩, fun h ↦ h.2.symm⟩
    exact absurd hsplit.symm (by simp)
  | cons first rest ih =>
    rw [List.foldlM_cons, bind_eq_ok_iff, List.foldl_cons]
    constructor
    · rintro ⟨next, hfirst, hrest⟩
      obtain ⟨hguard, rfl⟩ := (hstep state first next).mp hfirst
      obtain ⟨hguards, hfinal⟩ := ih.mp hrest
      refine ⟨fun before item after hsplit ↦ ?_, hfinal⟩
      cases before with
      | nil =>
        obtain ⟨rfl, -⟩ := List.cons.inj hsplit
        exact hguard
      | cons _ before =>
        rw [List.cons_append] at hsplit
        obtain ⟨rfl, hrest⟩ := List.cons.inj hsplit
        exact hguards before item after hrest
    · rintro ⟨hguards, hfinal⟩
      refine ⟨update state first, (hstep _ _ _).mpr ⟨hguards [] first rest rfl, rfl⟩, ?_⟩
      refine ih.mpr ⟨fun before item after hsplit ↦ ?_, hfinal⟩
      exact hguards (first :: before) item after (congrArg (first :: ·) hsplit)

end OrbitChain.Foundations
