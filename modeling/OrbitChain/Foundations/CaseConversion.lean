import Mathlib.Data.List.Basic
import Mathlib.Tactic.SplitIfs

/-!
# Case conversion of Unicode texts

Converting a text to upper case maps its characters one by one; so does converting it to lower case,
save for the capital sigma, which is final or not as the characters around it are cased. The
character tables are a parameter, with what is said of them here holding of the Unicode ones
(`CaseTables`). Converting to upper case and back folds a text. Folding need not be idempotent, but
folding three times is the same as folding twice (`fold_fold_fold`), and characters without case are
neither made nor lost.
-/

set_option autoImplicit false
set_option relaxedAutoImplicit false

namespace OrbitChain.Foundations

/-- An ASCII character that is not a letter. -/
def Caseless (c : Char) : Prop := c.toNat < 128 ∧ c.isAlpha = false

instance (c : Char) : Decidable (Caseless c) := inferInstanceAs (Decidable (_ ∧ _))

/-- The tables that case conversion reads. On ASCII they are the usual conversions, other characters
are not converted to ASCII ones that are no letters, and no character is dropped. -/
structure CaseTables where
  upper : Char → List Char
  lower : Char → List Char
  cased : Char → Bool
  caseIgnorable : Char → Bool
  upper_ascii : ∀ c : Char, c.toNat < 128 → upper c = [c.toUpper]
  lower_ascii : ∀ c : Char, c.toNat < 128 → lower c = [c.toLower]
  upper_caseless : ∀ c, 128 ≤ c.toNat → ∀ d ∈ upper c, ¬ Caseless d
  lower_caseless : ∀ c, 128 ≤ c.toNat → ∀ d ∈ lower c, ¬ Caseless d
  upper_ne_nil : ∀ c, upper c ≠ []
  lower_ne_nil : ∀ c, lower c ≠ []
  lower_sigma : lower 'Σ' = ['σ']
  upper_sigma : upper 'σ' = ['Σ']
  upper_final_sigma : upper 'ς' = ['Σ']
  /-- What lower case and upper case make of a character they leave as it is. -/
  upper_lower_idem : ∀ c, ((lower c).flatMap upper).flatMap (fun d ↦ (lower d).flatMap upper) =
    (lower c).flatMap upper
  underscore_cased : cased '_' = false
  underscore_caseIgnorable : caseIgnorable '_' = false

/-! ### ASCII -/

/-- What holds of the 128 ASCII characters holds of every character below 128. -/
theorem of_ascii {P : Char → Prop} {c : Char} (h : ∀ n < 128, P (Char.ofNat n))
    (hc : c.toNat < 128) : P c := by
  rw [← Char.ofNat_toNat c]
  exact h _ hc

/-- A conversion that moves only letters, to letters, keeps the other ASCII characters apart. -/
theorem convert_eq_iff {convert : Char → Char}
    (h : ∀ n < 128, convert (Char.ofNat n) = Char.ofNat n ∨
      (convert (Char.ofNat n)).isAlpha = true ∧ (Char.ofNat n).isAlpha = true)
    {c d : Char} (hc : c.toNat < 128) (hd : Caseless d) : convert c = d ↔ c = d := by
  have hmove : convert c = c ∨ (convert c).isAlpha = true ∧ c.isAlpha = true :=
    of_ascii (P := fun c ↦ convert c = c ∨ (convert c).isAlpha = true ∧ c.isAlpha = true) h hc
  rcases hmove with hsame | ⟨hconverted, hletter⟩
  · rw [hsame]
  · constructor
    · rintro rfl
      exact absurd hconverted (by rw [hd.2]; decide)
    · rintro rfl
      exact absurd hletter (by rw [hd.2]; decide)

theorem toUpper_eq_iff {c d : Char} (hc : c.toNat < 128) (hd : Caseless d) :
    c.toUpper = d ↔ c = d :=
  convert_eq_iff (by decide) hc hd

theorem toLower_eq_iff {c d : Char} (hc : c.toNat < 128) (hd : Caseless d) :
    c.toLower = d ↔ c = d :=
  convert_eq_iff (by decide) hc hd

namespace CaseTables

variable (tables : CaseTables)

/-! ### Conversions -/

def toUppercase (text : List Char) : List Char := text.flatMap tables.upper

/-- The first character that is not ignored is cased. -/
def caseIgnorableThenCased (text : List Char) : Bool :=
  match text.dropWhile tables.caseIgnorable with
  | [] => false
  | c :: _ => tables.cased c

/-- The lower case of a character between what stands before it, last character first, and what
stands after it. -/
def lowerAt (before : List Char) (c : Char) (after : List Char) : List Char :=
  if c = 'Σ' then
    if tables.caseIgnorableThenCased before && !tables.caseIgnorableThenCased after then ['ς']
    else ['σ']
  else tables.lower c

def lowerFrom (before : List Char) : List Char → List Char
  | [] => []
  | c :: after => tables.lowerAt before c after ++ lowerFrom (c :: before) after

def toLowercase (text : List Char) : List Char := tables.lowerFrom [] text

/-- Convert to upper case and back. -/
def fold (text : List Char) : List Char := tables.toLowercase (tables.toUppercase text)

variable {tables} {c d : Char} {text before after : List Char}

/-! ### Characters without case -/

theorem mem_upper_iff (hd : Caseless d) : d ∈ tables.upper c ↔ c = d := by
  by_cases hc : c.toNat < 128
  · rw [tables.upper_ascii c hc, List.mem_singleton, eq_comm, toUpper_eq_iff hc hd]
  · constructor
    · intro hmem
      exact absurd hd (tables.upper_caseless c (Nat.le_of_not_lt hc) d hmem)
    · rintro rfl
      exact absurd hd.1 hc

theorem mem_lowerAt_iff (hd : Caseless d) : d ∈ tables.lowerAt before c after ↔ c = d := by
  have hne {other : Char} (h : 128 ≤ other.toNat) : other ≠ d := by
    rintro rfl
    exact absurd hd.1 (Nat.not_lt.mpr h)
  unfold lowerAt
  split_ifs with hc
  · rw [hc, List.mem_singleton]
    exact iff_of_false (hne (by decide)).symm (hne (by decide))
  · rw [hc, List.mem_singleton]
    exact iff_of_false (hne (by decide)).symm (hne (by decide))
  · by_cases hascii : c.toNat < 128
    · rw [tables.lower_ascii c hascii, List.mem_singleton, eq_comm, toLower_eq_iff hascii hd]
    · have hother := Nat.le_of_not_lt hascii
      exact iff_of_false (fun hmem ↦ tables.lower_caseless c hother d hmem hd) (hne hother)

theorem lowerAt_ne_nil : tables.lowerAt before c after ≠ [] := by
  unfold lowerAt
  split_ifs
  · simp
  · simp
  · exact tables.lower_ne_nil c

theorem mem_toUppercase_iff (hd : Caseless d) : d ∈ tables.toUppercase text ↔ d ∈ text := by
  simp [toUppercase, List.mem_flatMap, mem_upper_iff hd]

theorem mem_toLowercase_iff (hd : Caseless d) : d ∈ tables.toLowercase text ↔ d ∈ text := by
  suffices h : ∀ before, d ∈ tables.lowerFrom before text ↔ d ∈ text from h []
  induction text with
  | nil => simp [lowerFrom]
  | cons c after ih =>
    intro before
    rw [lowerFrom, List.mem_append, mem_lowerAt_iff hd, ih, List.mem_cons, eq_comm]

/-- The first of some characters is without case when they were converted from such a one. -/
theorem head?_append_iff {piece rest : List Char} (hpiece : piece ≠ [])
    (hmem : d ∈ piece ↔ c = d) (hhead : c = d → piece = [d]) :
    (piece ++ rest).head? = some d ↔ c = d := by
  constructor
  · intro h
    rw [List.head?_append_of_ne_nil _ hpiece] at h
    exact hmem.mp (List.mem_of_head? h)
  · intro h
    rw [hhead h]
    rfl

theorem upper_caseless_self (hd : Caseless d) : tables.upper d = [d] := by
  rw [tables.upper_ascii d hd.1, (toUpper_eq_iff hd.1 hd).mpr rfl]

theorem lowerAt_caseless_self (hd : Caseless d) : tables.lowerAt before d after = [d] := by
  have hsigma : d ≠ 'Σ' := by
    rintro rfl
    exact absurd hd (by decide)
  rw [lowerAt, if_neg hsigma, tables.lower_ascii d hd.1, (toLower_eq_iff hd.1 hd).mpr rfl]

theorem head?_toUppercase_iff (hd : Caseless d) :
    (tables.toUppercase text).head? = some d ↔ text.head? = some d := by
  cases text with
  | nil => simp [toUppercase]
  | cons c rest =>
    rw [toUppercase, List.flatMap_cons, List.head?_cons, Option.some.injEq]
    refine head?_append_iff (tables.upper_ne_nil c) (mem_upper_iff hd) ?_
    rintro rfl
    exact upper_caseless_self hd

theorem head?_toLowercase_iff (hd : Caseless d) :
    (tables.toLowercase text).head? = some d ↔ text.head? = some d := by
  cases text with
  | nil => simp [toLowercase, lowerFrom]
  | cons c rest =>
    rw [toLowercase, lowerFrom, List.head?_cons, Option.some.injEq]
    refine head?_append_iff lowerAt_ne_nil (mem_lowerAt_iff hd) ?_
    rintro rfl
    exact lowerAt_caseless_self hd

theorem toUppercase_ascii (h : ∀ c ∈ text, c.toNat < 128) :
    tables.toUppercase text = text.map Char.toUpper := by
  rw [toUppercase, List.flatMap_congr fun c hc ↦ tables.upper_ascii c (h c hc),
    ← List.map_eq_flatMap]

theorem flatMap_lower_ascii (h : ∀ c ∈ text, c.toNat < 128) :
    text.flatMap tables.lower = text.map Char.toLower := by
  rw [List.flatMap_congr fun c hc ↦ tables.lower_ascii c (h c hc), ← List.map_eq_flatMap]

/-! ### Folding -/

/-- The upper case of the lower case of a character. -/
def recase (tables : CaseTables) (c : Char) : List Char := (tables.lower c).flatMap tables.upper

theorem toUppercase_lowerAt :
    tables.toUppercase (tables.lowerAt before c after) = tables.recase c := by
  unfold lowerAt
  split_ifs with hc
  · simp [hc, toUppercase, recase, tables.lower_sigma, tables.upper_sigma, tables.upper_final_sigma]
  · simp [hc, toUppercase, recase, tables.lower_sigma]
  · rfl

/-- Upper case forgets which sigmas were final. -/
theorem toUppercase_toLowercase :
    tables.toUppercase (tables.toLowercase text) = text.flatMap tables.recase := by
  suffices h : ∀ before,
      tables.toUppercase (tables.lowerFrom before text) = text.flatMap tables.recase from h []
  induction text with
  | nil => exact fun _ ↦ rfl
  | cons c after ih =>
    intro before
    rw [lowerFrom, toUppercase, List.flatMap_append, ← toUppercase, ← toUppercase,
      toUppercase_lowerAt, ih, List.flatMap_cons]

theorem flatMap_recase_idem :
    (text.flatMap tables.recase).flatMap tables.recase = text.flatMap tables.recase := by
  rw [List.flatMap_assoc]
  exact congrArg (text.flatMap ·) (funext tables.upper_lower_idem)

/-- Folding three times is the same as folding twice. -/
theorem fold_fold_fold : tables.fold (tables.fold (tables.fold text)) =
    tables.fold (tables.fold text) := by
  simp only [fold, toUppercase_toLowercase, flatMap_recase_idem]

/-! ### Suffixes -/

theorem caseIgnorableThenCased_append {rest : List Char} :
    tables.caseIgnorableThenCased (text ++ '_' :: rest) = tables.caseIgnorableThenCased text := by
  induction text with
  | nil =>
    simp [caseIgnorableThenCased, tables.underscore_caseIgnorable, tables.underscore_cased]
  | cons c text ih =>
    unfold caseIgnorableThenCased at ih ⊢
    rw [List.cons_append, List.dropWhile_cons, List.dropWhile_cons]
    split_ifs
    · exact ih
    · rfl

theorem lowerFrom_of_sigma_notMem (h : 'Σ' ∉ text) :
    tables.lowerFrom before text = text.flatMap tables.lower := by
  induction text generalizing before with
  | nil => rfl
  | cons c after ih =>
    obtain ⟨hc, hafter⟩ := not_or.mp (mt List.mem_cons.mpr h)
    rw [lowerFrom, lowerAt, if_neg (Ne.symm hc), ih hafter, List.flatMap_cons]

/-- No sigma before an underscore is final because of what follows the underscore. -/
theorem toLowercase_append {suffix : List Char} (h : 'Σ' ∉ suffix) :
    tables.toLowercase (text ++ '_' :: suffix) =
      tables.toLowercase text ++ ('_' :: suffix).flatMap tables.lower := by
  suffices hfrom : ∀ before, tables.lowerFrom before (text ++ '_' :: suffix) =
      tables.lowerFrom before text ++ ('_' :: suffix).flatMap tables.lower from hfrom []
  have hsuffix : 'Σ' ∉ '_' :: suffix := by
    rw [List.mem_cons, not_or]
    exact ⟨by decide, h⟩
  induction text with
  | nil => exact fun _ ↦ lowerFrom_of_sigma_notMem hsuffix
  | cons c after ih =>
    intro before
    rw [List.cons_append, lowerFrom, lowerFrom, ih, List.append_assoc, lowerAt, lowerAt,
      caseIgnorableThenCased_append]

end CaseTables

/-! ### The smallest tables -/

namespace AsciiSigma

def upper (c : Char) : List Char := if c = 'σ' ∨ c = 'ς' then ['Σ'] else [c.toUpper]

def lower (c : Char) : List Char := if c = 'Σ' then ['σ'] else [c.toLower]

variable {c d : Char}

theorem toUpper_of_le (h : 128 ≤ c.toNat) : c.toUpper = c := by
  unfold Char.toUpper
  rw [dif_neg]
  rintro ⟨-, hle⟩
  have hle : c.toNat ≤ 122 := hle
  omega

theorem toLower_of_le (h : 128 ≤ c.toNat) : c.toLower = c := by
  unfold Char.toLower
  rw [dif_neg]
  rintro ⟨-, hle⟩
  have hle : c.toNat ≤ 90 := hle
  omega

theorem upper_other (hc : 128 ≤ c.toNat) : upper c = ['Σ'] ∨ upper c = [c] := by
  unfold upper
  split_ifs
  · exact .inl rfl
  · exact .inr (by rw [toUpper_of_le hc])

theorem lower_other (hc : 128 ≤ c.toNat) : lower c = ['σ'] ∨ lower c = [c] := by
  unfold lower
  split_ifs
  · exact .inl rfl
  · exact .inr (by rw [toLower_of_le hc])

/-- A piece of a character beyond ASCII that is a sigma or the character is without case nowhere. -/
theorem not_caseless {sigma : Char} {piece : List Char} (hsigma : 128 ≤ sigma.toNat)
    (hc : 128 ≤ c.toNat) (hpiece : piece = [sigma] ∨ piece = [c]) (hd : d ∈ piece) :
    ¬ Caseless d := by
  rintro ⟨hascii, -⟩
  rcases hpiece with rfl | rfl <;> rw [List.mem_singleton] at hd <;> subst hd <;> omega

theorem upper_lower_idem (c : Char) :
    ((lower c).flatMap upper).flatMap (fun d ↦ (lower d).flatMap upper) =
      (lower c).flatMap upper := by
  rcases Nat.lt_or_ge c.toNat 128 with hascii | hother
  · exact of_ascii (P := fun c ↦ ((lower c).flatMap upper).flatMap
      (fun d ↦ (lower d).flatMap upper) = (lower c).flatMap upper) (by decide +kernel) hascii
  · by_cases hsigma : c = 'Σ'
    · subst hsigma
      decide +kernel
    · have hlower : lower c = [c] := by rw [lower, if_neg hsigma, toLower_of_le hother]
      rw [hlower, List.flatMap_singleton]
      rcases upper_other hother with hupper | hupper
      · rw [hupper]
        decide +kernel
      · rw [hupper, List.flatMap_singleton, hlower, List.flatMap_singleton, hupper]

end AsciiSigma

/-- Tables without letters beyond ASCII and sigma. -/
def asciiSigma : CaseTables where
  upper := AsciiSigma.upper
  lower := AsciiSigma.lower
  cased c := c.isAlpha || c = 'Σ' || c = 'σ' || c = 'ς'
  caseIgnorable _ := false
  upper_ascii _ hc := of_ascii
    (P := fun c ↦ AsciiSigma.upper c = [c.toUpper]) (by decide +kernel) hc
  lower_ascii _ hc := of_ascii
    (P := fun c ↦ AsciiSigma.lower c = [c.toLower]) (by decide +kernel) hc
  upper_caseless _ hc _ hd :=
    AsciiSigma.not_caseless (by decide) hc (AsciiSigma.upper_other hc) hd
  lower_caseless _ hc _ hd :=
    AsciiSigma.not_caseless (by decide) hc (AsciiSigma.lower_other hc) hd
  upper_ne_nil c := by
    unfold AsciiSigma.upper
    split_ifs <;> simp
  lower_ne_nil c := by
    unfold AsciiSigma.lower
    split_ifs <;> simp
  lower_sigma := rfl
  upper_sigma := rfl
  upper_final_sigma := rfl
  upper_lower_idem := AsciiSigma.upper_lower_idem
  underscore_cased := rfl
  underscore_caseIgnorable := rfl

end OrbitChain.Foundations
