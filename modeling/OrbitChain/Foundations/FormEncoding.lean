import OrbitChain.Foundations.TextParts

/-!
# Percent encoding and forms

A text is escaped character by character: some characters stand for themselves, the others are
written as the percent codes of their UTF-8 bytes. A form is a list of named values, written as
`name=value` joined by ampersands, with a plus sign for a space. Any escape that hides the signs a
form is made of (`Escape`) is read back by a form parser, whatever the texts are
(`formParse_field`), and a serialized form is parsed to the same list (`formParse_formSerialize`).
How malformed bytes are decoded is a parameter (`Utf8Decoder`).
-/

set_option autoImplicit false
set_option relaxedAutoImplicit false

namespace OrbitChain.Foundations

/-- A decoder of bytes, which undoes the encoding of texts. -/
structure Utf8Decoder where
  decode : List UInt8 → List Char
  decode_encode : ∀ text : List Char, decode (text.flatMap String.utf8EncodeChar) = text

/-! ### Percent codes -/

/-- The upper-case hexadecimal digit of a number below 16. -/
def upperDigit (n : ℕ) : Char := "0123456789ABCDEF".toList.getD n '0'

/-- The value of a hexadecimal digit in lower or upper case. -/
def digitValue (c : Char) : Option ℕ :=
  if '0' ≤ c ∧ c ≤ '9' then some (c.toNat - 48)
  else if 'a' ≤ c ∧ c ≤ 'f' then some (c.toNat - 87)
  else if 'A' ≤ c ∧ c ≤ 'F' then some (c.toNat - 55)
  else none

/-- The percent code of a byte. -/
def percentCode (byte : UInt8) : List Char :=
  ['%', upperDigit (byte.toNat / 16), upperDigit (byte.toNat % 16)]

/-- The bytes of a text with percent codes. A percent sign without two digits is itself. -/
def percentDecode : List Char → List UInt8
  | [] => []
  | [c] => String.utf8EncodeChar c
  | [c, d] => String.utf8EncodeChar c ++ percentDecode [d]
  | c :: high :: low :: rest =>
    if c = '%' then
      match digitValue high, digitValue low with
      | some h, some l => UInt8.ofNat (h * 16 + l) :: percentDecode rest
      | _, _ => String.utf8EncodeChar c ++ percentDecode (high :: low :: rest)
    else String.utf8EncodeChar c ++ percentDecode (high :: low :: rest)

theorem digitValue_upperDigit {n : ℕ} (h : n < 16) : digitValue (upperDigit n) = some n := by
  have hall : ∀ n < 16, digitValue (upperDigit n) = some n := by decide
  exact hall n h

theorem percentDecode_cons_of_ne {c : Char} (h : c ≠ '%') (rest : List Char) :
    percentDecode (c :: rest) = String.utf8EncodeChar c ++ percentDecode rest := by
  match rest with
  | [] => rw [percentDecode, percentDecode, List.append_nil]
  | [_] => rfl
  | _ :: _ :: _ => rw [percentDecode, if_neg h]

theorem percentDecode_percentCode (byte : UInt8) (rest : List Char) :
    percentDecode (percentCode byte ++ rest) = byte :: percentDecode rest := by
  have hbyte : byte.toNat < 256 := byte.toNat_lt
  have hsplit : byte.toNat / 16 * 16 + byte.toNat % 16 = byte.toNat := by omega
  show percentDecode ('%' :: upperDigit _ :: upperDigit _ :: rest) = _
  rw [percentDecode, if_pos rfl, digitValue_upperDigit (by omega),
    digitValue_upperDigit (by omega)]
  simp only [hsplit, UInt8.ofNat_toNat]

theorem percentDecode_flatMap_percentCode (bytes : List UInt8) (rest : List Char) :
    percentDecode (bytes.flatMap percentCode ++ rest) = bytes ++ percentDecode rest := by
  induction bytes with
  | nil => rfl
  | cons byte bytes ih =>
    rw [List.flatMap_cons, List.append_assoc, percentDecode_percentCode, ih, List.cons_append]

/-- The characters of percent codes. -/
def codeSigns : List Char := "%0123456789ABCDEF".toList

theorem mem_codeSigns {byte : UInt8} {c : Char} (h : c ∈ percentCode byte) : c ∈ codeSigns := by
  have hdigit : ∀ n < 16, upperDigit n ∈ codeSigns := by decide
  have hbyte : byte.toNat < 256 := byte.toNat_lt
  simp only [percentCode, List.mem_cons, List.not_mem_nil, or_false] at h
  rcases h with rfl | rfl | rfl
  · decide
  · exact hdigit _ (by omega)
  · exact hdigit _ (by omega)

/-! ### Escapes -/

/-- A plus sign stands for a space. -/
def plusToSpace (text : List Char) : List Char := text.map fun c ↦ if c = '+' then ' ' else c

/-- The signs that part the names and values of a form and the parts of a URL. -/
def separators : List Char := ['&', '=', '?', '#']

theorem forall_separators {P : Char → Prop} :
    (∀ sign ∈ separators, P sign) ↔ P '&' ∧ P '=' ∧ P '?' ∧ P '#' := by
  simp [separators]

/-- A way to write characters so that a form parser reads them back and sees no separator. -/
structure Escape (escape : Char → List Char) : Prop where
  decodes : ∀ (c : Char) (rest : List Char),
    percentDecode (plusToSpace (escape c ++ rest)) =
      String.utf8EncodeChar c ++ percentDecode (plusToSpace rest)
  hides : ∀ c, ∀ sign ∈ separators, sign ∉ escape c

/-- A character stands for itself where it is kept, and for its percent codes elsewhere. -/
def percentEscape (keep : Char → Bool) (c : Char) : List Char :=
  if keep c then [c] else (String.utf8EncodeChar c).flatMap percentCode

theorem plusToSpace_append (text rest : List Char) :
    plusToSpace (text ++ rest) = plusToSpace text ++ plusToSpace rest := List.map_append

/-- Where no plus sign stands nothing is changed. -/
theorem plusToSpace_eq_self {text : List Char} (h : '+' ∉ text) : plusToSpace text = text := by
  have hsame : ∀ c ∈ text, (if c = '+' then ' ' else c) = id c := fun c hc ↦
    if_neg fun (heq : c = '+') ↦ h (heq ▸ hc)
  rw [plusToSpace, List.map_congr_left hsame, List.map_id]

/-- Percent codes decode to the bytes of the character. -/
theorem decodes_percentCodes (c : Char) (rest : List Char) :
    percentDecode (plusToSpace ((String.utf8EncodeChar c).flatMap percentCode ++ rest)) =
      String.utf8EncodeChar c ++ percentDecode (plusToSpace rest) := by
  have hplus : '+' ∉ (String.utf8EncodeChar c).flatMap percentCode := by
    intro hmem
    obtain ⟨byte, -, hcode⟩ := List.mem_flatMap.mp hmem
    exact absurd (mem_codeSigns hcode) (by decide)
  rw [plusToSpace_append, plusToSpace_eq_self hplus, percentDecode_flatMap_percentCode]

/-- A character that is no plus or percent sign decodes to itself. -/
theorem decodes_self {c : Char} (hplus : c ≠ '+') (hpercent : c ≠ '%') (rest : List Char) :
    percentDecode (plusToSpace ([c] ++ rest)) =
      String.utf8EncodeChar c ++ percentDecode (plusToSpace rest) := by
  rw [plusToSpace_append, plusToSpace_eq_self (by simpa using hplus.symm)]
  exact percentDecode_cons_of_ne hpercent _

/-- Percent codes hide the separators. -/
theorem separators_notMem_percentCodes (c sign : Char) (hsign : sign ∈ separators) :
    sign ∉ (String.utf8EncodeChar c).flatMap percentCode := by
  have hcodes : ∀ sign ∈ separators, sign ∉ codeSigns := forall_separators.mpr (by decide)
  intro hmem
  obtain ⟨byte, -, hcode⟩ := List.mem_flatMap.mp hmem
  exact hcodes sign hsign (mem_codeSigns hcode)

/-- Percent codes hide what is not kept. -/
theorem escape_percentEscape {keep : Char → Bool} (hpercent : keep '%' = false)
    (hplus : keep '+' = false) (hsigns : ∀ sign ∈ separators, keep sign = false) :
    Escape (percentEscape keep) where
  decodes c rest := by
    unfold percentEscape
    split_ifs with hkeep
    · refine decodes_self ?_ ?_ rest
      · rintro rfl
        exact absurd hkeep (by rw [hplus]; decide)
      · rintro rfl
        exact absurd hkeep (by rw [hpercent]; decide)
    · exact decodes_percentCodes c rest
  hides c sign hsign := by
    unfold percentEscape
    split_ifs with hkeep
    · rw [List.mem_singleton]
      rintro rfl
      exact absurd hkeep (by rw [hsigns _ hsign]; decide)
    · exact separators_notMem_percentCodes c sign hsign

/-- An escape that writes a plus sign for a space. -/
theorem Escape.spaced {escape : Char → List Char} (h : Escape escape) :
    Escape fun c ↦ if c = ' ' then ['+'] else escape c where
  decodes c rest := by
    split_ifs with hspace
    · subst hspace
      exact percentDecode_cons_of_ne (by decide) (plusToSpace rest)
    · exact h.decodes c rest
  hides c sign hsign := by
    have hplus : ∀ sign ∈ separators, sign ≠ '+' := forall_separators.mpr (by decide)
    split_ifs
    · simpa using hplus sign hsign
    · exact h.hides c sign hsign

namespace Escape

variable {escape : Char → List Char}

theorem decodes_text (h : Escape escape) (text : List Char) :
    percentDecode (plusToSpace (text.flatMap escape)) = text.flatMap String.utf8EncodeChar := by
  induction text with
  | nil => rfl
  | cons c text ih => rw [List.flatMap_cons, h.decodes, ih, List.flatMap_cons]

theorem notMem (h : Escape escape) (text : List Char) {sign : Char} (hsign : sign ∈ separators) :
    sign ∉ text.flatMap escape := by
  intro hmem
  obtain ⟨c, -, hc⟩ := List.mem_flatMap.mp hmem
  exact h.hides c sign hsign hc

end Escape

/-! ### Forms -/

/-- A named value. -/
def field (escape : Char → List Char) (pair : List Char × List Char) : List Char :=
  pair.1.flatMap escape ++ '=' :: pair.2.flatMap escape

/-- What a form escapes. -/
def formKeep (c : Char) : Bool := c.isAlphanum || c ∈ ['*', '-', '.', '_']

def formEscape (c : Char) : List Char := if c = ' ' then ['+'] else percentEscape formKeep c

/-- The fields of a form, joined by ampersands. -/
def formSerialize (pairs : List (List Char × List Char)) : List Char :=
  ['&'].intercalate (pairs.map (field formEscape))

/-- What a text stands for in a form. -/
def formDecode (decoder : Utf8Decoder) (text : List Char) : List Char :=
  decoder.decode (percentDecode (plusToSpace text))

/-- The named value of a part between ampersands; an empty part is passed over. -/
def parseField (decoder : Utf8Decoder) (part : List Char) : Option (List Char × List Char) :=
  if part = [] then none
  else match splitOnce '=' part with
    | some (name, value) => some (formDecode decoder name, formDecode decoder value)
    | none => some (formDecode decoder part, decoder.decode [])

def formParse (decoder : Utf8Decoder) (text : List Char) : List (List Char × List Char) :=
  (text.splitOn '&').filterMap (parseField decoder)

theorem escape_formEscape : Escape formEscape :=
  (escape_percentEscape (by decide) (by decide) (forall_separators.mpr (by decide))).spaced

section Forms

variable {decoder : Utf8Decoder} {escape : Char → List Char}

theorem formDecode_flatMap (h : Escape escape) (text : List Char) :
    formDecode decoder (text.flatMap escape) = text := by
  rw [formDecode, h.decodes_text, decoder.decode_encode]

theorem parseField_field (h : Escape escape) (pair : List Char × List Char) :
    parseField decoder (field escape pair) = some pair := by
  have hne : field escape pair ≠ [] := by simp [field]
  rw [parseField, if_neg hne, field,
    splitOnce_append (h.notMem pair.1 (by decide : '=' ∈ separators))]
  simp only [formDecode_flatMap h]

theorem ampersand_notMem_field (h : Escape escape) (pair : List Char × List Char) :
    '&' ∉ field escape pair := by
  have hand : '&' ∈ separators := by decide
  simp [field, -List.mem_flatMap, h.notMem _ hand]

theorem formParse_append (decoder : Utf8Decoder) (text rest : List Char) :
    formParse decoder (text ++ '&' :: rest) = formParse decoder text ++ formParse decoder rest := by
  rw [formParse, List.splitOn_append_cons_self, List.filterMap_append]
  rfl

/-- One field is parsed to its name and its value. -/
theorem formParse_field (h : Escape escape) (pair : List Char × List Char) :
    formParse decoder (field escape pair) = [pair] := by
  rw [formParse, List.splitOn_eq_singleton (ampersand_notMem_field h pair),
    List.filterMap_cons_some (parseField_field h pair), List.filterMap_nil]

theorem formParse_nil (decoder : Utf8Decoder) : formParse decoder [] = [] := rfl

/-- A serialized form is parsed to the same named values. -/
theorem formParse_formSerialize (decoder : Utf8Decoder) (pairs : List (List Char × List Char)) :
    formParse decoder (formSerialize pairs) = pairs := by
  induction pairs with
  | nil => rfl
  | cons pair rest ih =>
    cases rest with
    | nil =>
      rw [formSerialize, List.map_singleton, List.intercalate_singleton]
      exact formParse_field escape_formEscape pair
    | cons other rest =>
      have hcons : formSerialize (pair :: other :: rest) =
          field formEscape pair ++ '&' :: formSerialize (other :: rest) := by
        simp [formSerialize, List.intercalate_cons_cons]
      rw [hcons, formParse_append, formParse_field escape_formEscape, ih, List.singleton_append]

end Forms

end OrbitChain.Foundations
