import Mathlib.Data.List.Basic
import Mathlib.Tactic.SplitIfs
import Mathlib.Tactic.TypeStar

/-!
# Cutting texts

A text over any symbols is split at the first occurrence of a symbol (`splitOnce`), and a suffix is
cut off its end as often as it stands there (`trimEndMatches`).
-/

set_option autoImplicit false
set_option relaxedAutoImplicit false

namespace OrbitChain.Foundations

variable {α : Type*}

/-- A text written a number of times. -/
def copies (times : ℕ) (text : List α) : List α := (List.replicate times text).flatten

theorem copies_succ (times : ℕ) (text : List α) :
    copies (times + 1) text = copies times text ++ text := by
  rw [copies, List.replicate_succ', List.flatten_append, List.flatten_singleton, copies]

variable [DecidableEq α]

/-! ### Splitting -/

/-- What stands before and after the first occurrence of a symbol, if it occurs. -/
def splitOnce (symbol : α) : List α → Option (List α × List α)
  | [] => none
  | c :: rest =>
    if c = symbol then some ([], rest)
    else (splitOnce symbol rest).map fun parts ↦ (c :: parts.1, parts.2)

section Split

variable {symbol : α} {text before after : List α}

theorem splitOnce_eq_some_iff :
    splitOnce symbol text = some (before, after) ↔
      text = before ++ symbol :: after ∧ symbol ∉ before := by
  induction text generalizing before with
  | nil => simp [splitOnce]
  | cons c rest ih =>
    rw [splitOnce]
    split_ifs with hc
    · subst hc
      cases before with
      | nil => simp [eq_comm]
      | cons d before =>
        simp only [Option.some.injEq, Prod.mk.injEq, List.nil_eq, reduceCtorEq, false_and,
          List.cons_append, List.cons.injEq, List.mem_cons, not_or, false_iff]
        rintro ⟨⟨hd, -⟩, hne, -⟩
        exact hne hd
    · cases before with
      | nil => simp [hc]
      | cons d before =>
        simp only [Option.map_eq_some_iff, Prod.exists, Prod.mk.injEq, List.cons.injEq,
          List.cons_append, List.mem_cons, not_or]
        constructor
        · rintro ⟨before', after', hsplit, ⟨rfl, rfl⟩, rfl⟩
          obtain ⟨hrest, hmem⟩ := ih.mp hsplit
          exact ⟨⟨rfl, hrest⟩, Ne.symm hc, hmem⟩
        · rintro ⟨⟨rfl, hrest⟩, -, hmem⟩
          exact ⟨before, after, ih.mpr ⟨hrest, hmem⟩, ⟨rfl, rfl⟩, rfl⟩

theorem splitOnce_append (h : symbol ∉ before) :
    splitOnce symbol (before ++ symbol :: after) = some (before, after) :=
  splitOnce_eq_some_iff.mpr ⟨rfl, h⟩

end Split

/-! ### Trimming -/

/-- Cut a suffix off the end of a text, at most so many times. -/
def trimEndUpTo (suffix : List α) : ℕ → List α → List α
  | 0, text => text
  | count + 1, text =>
    if suffix <:+ text then trimEndUpTo suffix count (text.take (text.length - suffix.length))
    else text

/-- Cut a suffix off the end of a text as often as it stands there. -/
def trimEndMatches (suffix text : List α) : List α := trimEndUpTo suffix text.length text

section Trim

variable {suffix text : List α} {count : ℕ}

theorem trimEndUpTo_of_not_suffix (h : ¬ suffix <:+ text) :
    trimEndUpTo suffix count text = text := by
  cases count with
  | zero => rfl
  | succ count => rw [trimEndUpTo, if_neg h]

theorem trimEndUpTo_append : trimEndUpTo suffix (count + 1) (text ++ suffix) =
    trimEndUpTo suffix count text := by
  rw [trimEndUpTo, if_pos (List.suffix_append text suffix), List.length_append,
    Nat.add_sub_cancel, List.take_left]

theorem trimEndUpTo_spec (suffix : List α) (count : ℕ) (text : List α) :
    ∃ times, text = trimEndUpTo suffix count text ++ copies times suffix := by
  induction count generalizing text with
  | zero => exact ⟨0, by simp [trimEndUpTo, copies]⟩
  | succ count ih =>
    by_cases h : suffix <:+ text
    · obtain ⟨start, rfl⟩ := h
      obtain ⟨times, htimes⟩ := ih start
      refine ⟨times + 1, ?_⟩
      rw [trimEndUpTo_append, copies_succ, ← List.append_assoc, ← htimes]
    · exact ⟨0, by simp [trimEndUpTo_of_not_suffix h, copies]⟩

/-- Enough rounds cut all of it off. -/
theorem trimEndUpTo_complete (hsuffix : suffix ≠ []) (h : text.length ≤ count) :
    ¬ suffix <:+ trimEndUpTo suffix count text := by
  induction count generalizing text with
  | zero =>
    obtain rfl := List.length_eq_zero_iff.mp (Nat.le_zero.mp h)
    simpa [trimEndUpTo] using hsuffix
  | succ count ih =>
    by_cases hends : suffix <:+ text
    · obtain ⟨start, rfl⟩ := hends
      have hpos := List.length_pos_iff.mpr hsuffix
      rw [trimEndUpTo_append]
      exact ih (by rw [List.length_append] at h; omega)
    · rwa [trimEndUpTo_of_not_suffix hends]

/-- More rounds than it takes make no difference. -/
theorem trimEndUpTo_eq (hsuffix : suffix ≠ []) {count' : ℕ} (h : text.length ≤ count)
    (h' : text.length ≤ count') :
    trimEndUpTo suffix count text = trimEndUpTo suffix count' text := by
  have hpos := List.length_pos_iff.mpr hsuffix
  induction count generalizing text count' with
  | zero =>
    obtain rfl := List.length_eq_zero_iff.mp (Nat.le_zero.mp h)
    have hends : ¬ suffix <:+ [] := by simpa using hsuffix
    rw [trimEndUpTo_of_not_suffix hends, trimEndUpTo_of_not_suffix hends]
  | succ count ih =>
    by_cases hends : suffix <:+ text
    · obtain ⟨start, rfl⟩ := hends
      rw [List.length_append] at h h'
      obtain ⟨rounds, rfl⟩ : ∃ rounds, count' = rounds + 1 := ⟨count' - 1, by omega⟩
      rw [trimEndUpTo_append, trimEndUpTo_append]
      exact ih (by omega) (by omega)
    · rw [trimEndUpTo_of_not_suffix hends, trimEndUpTo_of_not_suffix hends]

theorem trimEndMatches_of_not_suffix (h : ¬ suffix <:+ text) : trimEndMatches suffix text = text :=
  trimEndUpTo_of_not_suffix h

/-- What is cut off is the suffix, a number of times. -/
theorem trimEndMatches_spec (suffix text : List α) :
    ∃ times, text = trimEndMatches suffix text ++ copies times suffix :=
  trimEndUpTo_spec suffix text.length text

theorem not_suffix_trimEndMatches (hsuffix : suffix ≠ []) (text : List α) :
    ¬ suffix <:+ trimEndMatches suffix text :=
  trimEndUpTo_complete hsuffix (Nat.le_refl _)

/-- One more suffix at the end makes no difference. -/
theorem trimEndMatches_append (hsuffix : suffix ≠ []) (text : List α) :
    trimEndMatches suffix (text ++ suffix) = trimEndMatches suffix text := by
  have hpos := List.length_pos_iff.mpr hsuffix
  obtain ⟨rounds, hrounds⟩ : ∃ rounds, (text ++ suffix).length = rounds + 1 :=
    ⟨text.length + suffix.length - 1, by rw [List.length_append]; omega⟩
  rw [trimEndMatches, hrounds, trimEndUpTo_append]
  rw [List.length_append] at hrounds
  exact trimEndUpTo_eq hsuffix (by omega) (Nat.le_refl _)

theorem trimEndMatches_append_copies (hsuffix : suffix ≠ []) (text : List α) (times : ℕ) :
    trimEndMatches suffix (text ++ copies times suffix) = trimEndMatches suffix text := by
  induction times with
  | zero => rw [copies, List.replicate_zero, List.flatten_nil, List.append_nil]
  | succ times ih => rw [copies_succ, ← List.append_assoc, trimEndMatches_append hsuffix, ih]

end Trim

end OrbitChain.Foundations
