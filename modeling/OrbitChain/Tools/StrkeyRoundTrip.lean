import OrbitChain.Tools.Strkey
import Mathlib.Data.List.Basic

/-!
# The strkey codec is a bijection onto its valid strings

The bits of either loop are those of the numbers that its groups write: the encoder's accumulator
holds the number of the bytes read so far modulo `2 ^ 32`, the decoder's holds what is not yet out.
So each loop is a complete regrouping of 280 bits, and each undoes the other.
-/

set_option autoImplicit false
set_option relaxedAutoImplicit false

namespace OrbitChain.Tools.Strkey

open Foundations

/-! ### Accumulators -/

section Accumulators

variable {acc : BitVec 32} {bits : ℕ}

/-- Shifting a group in is appending it, up to what falls off the top. -/
theorem toNat_shiftLeft_or {k : ℕ} {v : BitVec 32} (hv : v.toNat < 2 ^ k) :
    (acc <<< k ||| v).toNat = (acc.toNat * 2 ^ k + v.toNat) % 2 ^ 32 := by
  rw [BitVec.toNat_or, BitVec.toNat_shiftLeft, ← Nat.mod_eq_of_lt v.isLt, ← Nat.or_mod_two_pow,
    Nat.mod_eq_of_lt v.isLt, ← Nat.shiftLeft_add_eq_or_of_lt hv, Nat.shiftLeft_eq]

/-- A group taken out under a mask of ones is a digit. -/
theorem toNat_shiftRight_and (n : ℕ) {mask : BitVec 32} (hmask : mask.toNat = 2 ^ n - 1) :
    ((acc >>> bits) &&& mask).toNat = acc.toNat / 2 ^ bits % 2 ^ n := by
  rw [BitVec.toNat_and, BitVec.toNat_ushiftRight, hmask, Nat.and_two_pow_sub_one_eq_mod,
    Nat.shiftRight_eq_div_pow]

/-- Digits low enough are not touched by a reduction. -/
theorem mod_div_mod {value width n : ℕ} (h : bits + n ≤ width) :
    value % 2 ^ width / 2 ^ bits % 2 ^ n = value / 2 ^ bits % 2 ^ n := by
  have hwidth : 2 ^ width = 2 ^ bits * 2 ^ (width - bits) := by
    rw [← Nat.pow_add, Nat.add_sub_cancel' (by omega)]
  rw [hwidth, Nat.mod_mul_right_div_self]
  exact Nat.mod_mod_of_dvd _ (Nat.pow_dvd_pow 2 (by omega))

/-- What was left with a group appended is what is left of the number with the group appended. -/
theorem mod_mul_add {value m group : ℕ} (hgroup : group < 2 ^ m) :
    value % 2 ^ bits * 2 ^ m + group = (value * 2 ^ m + group) % 2 ^ (bits + m) := by
  have hlt : value % 2 ^ bits * 2 ^ m + group < 2 ^ (bits + m) := by
    have hrest := Nat.mod_lt value (Nat.two_pow_pos bits)
    calc value % 2 ^ bits * 2 ^ m + group
        < (value % 2 ^ bits + 1) * 2 ^ m := by rw [Nat.succ_mul]; omega
      _ ≤ 2 ^ bits * 2 ^ m := Nat.mul_le_mul_right _ hrest
      _ = 2 ^ (bits + m) := (Nat.pow_add 2 bits m).symm
  have hsplit : value * 2 ^ m + group =
      2 ^ (bits + m) * (value / 2 ^ bits) + (value % 2 ^ bits * 2 ^ m + group) := by
    conv_lhs => rw [← Nat.div_add_mod value (2 ^ bits)]
    rw [Nat.pow_add]
    ring
  rw [hsplit, Nat.mul_add_mod, Nat.mod_eq_of_lt hlt]

/-- The decoder's mask keeps what is left. -/
theorem toNat_masked (h : bits < 8) :
    (acc &&& ((1#32 <<< bits) - 1#32)).toNat = acc.toNat % 2 ^ bits := by
  have hmask : ∀ bits < 8, ((1#32 <<< bits) - 1#32).toNat = 2 ^ bits - 1 := by decide
  rw [BitVec.toNat_and, hmask bits h, Nat.and_two_pow_sub_one_eq_mod]

end Accumulators

/-! ### Characters -/

theorem charValue_symbol {value : ℕ} (h : value < 32) :
    charValue (symbol value) = some (BitVec.ofNat 32 value) := by
  have hall : ∀ value < 32, charValue (symbol value) = some (BitVec.ofNat 32 value) := by decide
  exact hall value h

/-- A run of consecutive characters that the alphabet lists from a place on. -/
theorem symbol_of_run {first count place : ℕ} {c : Char}
    (hrun : ∀ i < count, symbol (place + i) = Char.ofNat (first + i)) (hlow : first ≤ c.toNat)
    (hhigh : c.toNat < first + count) : symbol (place + (c.toNat - first)) = c := by
  rw [hrun (c.toNat - first) (by omega), Nat.add_sub_cancel' hlow, Char.ofNat_toNat]

/-- The characters that have a value are those of the alphabet, and their values their places. -/
theorem symbol_of_charValue {c : Char} {v : BitVec 32} (h : charValue c = some v) :
    v.toNat < 32 ∧ symbol v.toNat = c := by
  have hletters : ∀ i < 26, symbol (0 + i) = Char.ofNat (65 + i) := by decide
  have hdigits : ∀ i < 6, symbol (26 + i) = Char.ofNat (50 + i) := by decide
  unfold charValue at h
  split_ifs at h with hletter hdigit
  · have hlow : 65 ≤ c.toNat := hletter.1
    have hhigh : c.toNat ≤ 90 := hletter.2
    have hvalue : v.toNat = 0 + (c.toNat - 65) := by
      cases h
      rw [BitVec.toNat_ofNat, Nat.mod_eq_of_lt (by omega), Nat.zero_add]
      rfl
    rw [hvalue]
    exact ⟨by omega, symbol_of_run hletters hlow (by omega)⟩
  · have hlow : 50 ≤ c.toNat := hdigit.1
    have hhigh : c.toNat ≤ 55 := hdigit.2
    have hvalue : v.toNat = 26 + (c.toNat - 50) := by
      cases h
      rw [BitVec.toNat_ofNat, Nat.mod_eq_of_lt (by omega)]
      exact Nat.add_sub_assoc hlow 26
    rw [hvalue]
    exact ⟨by omega, symbol_of_run hdigits hlow (by omega)⟩

theorem utf8Size_symbol {value : ℕ} (h : value < 32) : (symbol value).utf8Size = 1 := by
  have hall : ∀ value < 32, (symbol value).utf8Size = 1 := by decide
  exact hall value h

/-! ### The encoder -/

/-- What the encoder has done when it has read some bytes: the groups put out regroup them. -/
structure Encoding (read : List Byte) (acc : BitVec 32) (bits : ℕ) (out : List Char) : Prop where
  acc_eq : acc.toNat = bigEndian 8 (read.map BitVec.toNat) % 2 ^ 32
  regrouping : ∃ groups, out = groups.map symbol ∧
    Regrouping 8 5 (read.map BitVec.toNat) groups bits

/-- The inner loop puts out groups until less than one is left. -/
theorem Encoding.emit {read : List Byte} {acc : BitVec 32} {bits : ℕ} {out : List Char}
    (h : Encoding read acc bits out) (hbits : bits ≤ 32) :
    Encoding read acc (emit acc bits out).1 (emit acc bits out).2 ∧ (emit acc bits out).1 < 5 := by
  induction bits, out using Strkey.emit.induct (acc) with
  | case1 bits out ih =>
    rw [Strkey.emit]
    refine ih ⟨h.acc_eq, ?_⟩ (by omega)
    obtain ⟨groups, rfl, hgroups⟩ := h.regrouping
    have hgroup : ((acc >>> bits) &&& 0x1f#32).toNat =
        bigEndian 8 (read.map BitVec.toNat) / 2 ^ bits % 2 ^ 5 := by
      rw [toNat_shiftRight_and 5 rfl, h.acc_eq, mod_div_mod hbits]
    refine ⟨_, ?_, hgroups.emit⟩
    rw [hgroup, List.map_append, List.map_singleton]
  | case2 bits out hsmall =>
    have hlt : bits < 5 := by
      by_contra hge
      exact hsmall (bits - 5) (by omega)
    rw [Strkey.emit.eq_2 acc bits out hsmall]
    exact ⟨h, hlt⟩

/-- The outer loop reads the rest of the bytes. -/
theorem Encoding.encodeFrom {read rest : List Byte} {acc : BitVec 32} {bits : ℕ}
    {out : List Char} (h : Encoding read acc bits out) (hbits : bits < 5) :
    ∃ groups bits', encodeFrom rest acc bits out = groups.map symbol ∧ bits' < 5 ∧
      Regrouping 8 5 ((read ++ rest).map BitVec.toNat) groups bits' := by
  induction rest generalizing read acc bits out with
  | nil =>
    obtain ⟨groups, hout, hgroups⟩ := h.regrouping
    exact ⟨groups, bits, hout, hbits, by rwa [List.append_nil]⟩
  | cons byte rest ih =>
    have hread : Encoding (read ++ [byte]) (acc <<< 8 ||| byte.setWidth 32) (bits + 8) out := by
      have hbyte : (byte.setWidth 32).toNat = byte.toNat :=
        BitVec.toNat_setWidth_of_le (by decide)
      constructor
      · rw [toNat_shiftLeft_or (by rw [hbyte]; exact byte.isLt), hbyte, h.acc_eq, List.map_append,
          List.map_singleton, bigEndian_concat]
        omega
      · obtain ⟨groups, hout, hgroups⟩ := h.regrouping
        refine ⟨groups, hout, ?_⟩
        rw [List.map_append, List.map_singleton]
        exact hgroups.feed byte.isLt
    obtain ⟨hemitted, hsmall⟩ := hread.emit (by omega)
    obtain ⟨groups, bits', hout, hbits', hgroups⟩ := ih hemitted hsmall
    rw [List.append_assoc] at hgroups
    exact ⟨groups, bits', hout, hbits', hgroups⟩

/-! ### The decoder -/

/-- What the decoder has done when it has read the values of some characters: the accumulator holds
what of them is not yet out. -/
structure Decoding (read : List ℕ) (acc : BitVec 32) (bits : ℕ) (decoded : List Byte) : Prop where
  acc_eq : acc.toNat = bigEndian 5 read % 2 ^ bits
  regrouping : Regrouping 5 8 read (decoded.map BitVec.toNat) bits

/-- The loop reads the rest of the characters if they have values, and stops otherwise. -/
theorem Decoding.decodeFrom {kind : String} {rest : List Char} {read : List ℕ}
    {acc : BitVec 32} {bits : ℕ} {decoded result : List Byte} (h : Decoding read acc bits decoded)
    (hbits : bits < 8) (hdecode : decodeFrom kind rest acc bits decoded = .ok result) :
    ∃ groups bits', rest = groups.map symbol ∧ (∀ group ∈ groups, group < 32) ∧ bits' < 8 ∧
      Regrouping 5 8 (read ++ groups) (result.map BitVec.toNat) bits' := by
  induction rest generalizing read acc bits decoded with
  | nil =>
    cases hdecode
    exact ⟨[], bits, rfl, by simp, hbits, by simpa using h.regrouping⟩
  | cons c rest ih =>
    simp only [Strkey.decodeFrom, bind_eq_ok_iff, orFail_eq_ok_iff] at hdecode
    obtain ⟨v, hvalue, hdecode⟩ := hdecode
    obtain ⟨hv, hc⟩ := symbol_of_charValue hvalue
    have hfed : Regrouping 5 8 (read ++ [v.toNat]) _ _ := h.regrouping.feed hv
    have hacc : (acc <<< 5 ||| v).toNat = bigEndian 5 (read ++ [v.toNat]) % 2 ^ (bits + 5) := by
      have hlt : acc.toNat < 2 ^ 7 := by
        rw [h.acc_eq]
        exact (Nat.mod_lt _ (Nat.two_pow_pos bits)).trans_le
          (Nat.pow_le_pow_right (by decide) (by omega))
      rw [toNat_shiftLeft_or hv, Nat.mod_eq_of_lt (by omega), h.acc_eq, bigEndian_concat]
      exact mod_mul_add hv
    have hrest {acc : BitVec 32} {bits : ℕ} {decoded : List Byte}
        (hnext : Decoding (read ++ [v.toNat]) acc bits decoded) (hbits : bits < 8)
        (hdecode : Strkey.decodeFrom kind rest acc bits decoded = .ok result) :
        ∃ groups bits', c :: rest = groups.map symbol ∧ (∀ group ∈ groups, group < 32) ∧
          bits' < 8 ∧ Regrouping 5 8 (read ++ groups) (result.map BitVec.toNat) bits' := by
      obtain ⟨groups, bits', rfl, hgroups, hbits', hregrouped⟩ := ih hnext hbits hdecode
      refine ⟨v.toNat :: groups, bits', by rw [List.map_cons, hc],
        List.forall_mem_cons.mpr ⟨hv, hgroups⟩, hbits', ?_⟩
      rwa [List.append_assoc, List.singleton_append] at hregrouped
    split_ifs at hdecode with hfull
    · obtain ⟨left, hleft⟩ := Nat.exists_eq_add_of_le' hfull
      rw [hleft] at hacc hfed
      rw [hleft, Nat.add_sub_cancel] at hdecode
      refine hrest ⟨?_, ?_⟩ (by omega) hdecode
      · rw [toNat_masked (by omega), hacc]
        exact Nat.mod_mod_of_dvd _ (Nat.pow_dvd_pow 2 (Nat.le_add_right _ _))
      · have hbyte : (((acc <<< 5 ||| v) >>> left &&& 0xff#32).setWidth 8).toNat =
            bigEndian 5 (read ++ [v.toNat]) / 2 ^ left % 2 ^ 8 := by
          rw [BitVec.toNat_setWidth, toNat_shiftRight_and 8 rfl, Nat.mod_mod, hacc,
            mod_div_mod (Nat.le_refl _)]
        rw [List.map_append, List.map_singleton, hbyte]
        exact hfed.emit
    · exact hrest ⟨hacc, hfed⟩ (by omega) hdecode

/-- The loop reads every character that has a value. -/
theorem decodeFrom_symbols {kind : String} {groups : List ℕ}
    (hgroups : ∀ group ∈ groups, group < 32) (acc : BitVec 32) (bits : ℕ)
    (decoded : List Byte) : ∃ result, decodeFrom kind (groups.map symbol) acc bits decoded =
      .ok result := by
  induction groups generalizing acc bits decoded with
  | nil => exact ⟨decoded, rfl⟩
  | cons group rest ih =>
    obtain ⟨hgroup, hrest⟩ := List.forall_mem_cons.mp hgroups
    simp only [List.map_cons, Strkey.decodeFrom, charValue_symbol hgroup, orFail, ok_bind]
    split_ifs
    · exact ih hrest _ _ _
    · exact ih hrest _ _ _

/-! ### The codec -/

/-- Encoding 35 bytes is a complete regrouping into 56 characters. -/
theorem encodeFrom_complete {bytes : List Byte} (hlength : bytes.length = strkeyDecodedLen) :
    ∃ groups, encodeFrom bytes 0 0 [] = groups.map symbol ∧ groups.length = 56 ∧
      Regrouping 8 5 (bytes.map BitVec.toNat) groups 0 := by
  have hstart : Encoding [] 0 0 [] := ⟨rfl, [], rfl, .start⟩
  have hencode : ∃ groups bits, encodeFrom bytes 0 0 [] = groups.map symbol ∧ bits < 5 ∧
      Regrouping 8 5 (([] ++ bytes).map BitVec.toNat) groups bits :=
    hstart.encodeFrom (by decide)
  obtain ⟨groups, bits, hout, hbits, hgroups⟩ := hencode
  rw [List.nil_append] at hgroups
  have hcount := hgroups.length
  rw [List.length_map, hlength, strkeyDecodedLen] at hcount
  obtain rfl : bits = 0 := by omega
  exact ⟨groups, hout, by omega, hgroups⟩

/-- Characters of the alphabet determine their values. -/
theorem map_symbol_injective {groups groups' : List ℕ} (h : ∀ group ∈ groups, group < 32)
    (h' : ∀ group ∈ groups', group < 32) (heq : groups.map symbol = groups'.map symbol) :
    groups = groups' := by
  have hvalues {groups : List ℕ} (h : ∀ group ∈ groups, group < 32) :
      (groups.map symbol).map (fun c ↦ (charValue c).elim 0 BitVec.toNat) = groups := by
    rw [List.map_map]
    refine (List.map_congr_left fun group hgroup ↦ ?_).trans (List.map_id groups)
    have hlt := h group hgroup
    rw [Function.comp_apply, charValue_symbol hlt, Option.elim_some, BitVec.toNat_ofNat,
      Nat.mod_eq_of_lt (by omega), id]
  rw [← hvalues h, heq, hvalues h']

/-- Characters of one byte are as many as their bytes. -/
theorem utf8ByteSize_ofList {chars : List Char} (h : ∀ c ∈ chars, c.utf8Size = 1) :
    (String.ofList chars).utf8ByteSize = chars.length := by
  induction chars with
  | nil => rfl
  | cons c rest ih =>
    obtain ⟨hc, hrest⟩ := List.forall_mem_cons.mp h
    rw [String.ofList_cons, String.utf8ByteSize_append, ih hrest, String.utf8ByteSize_singleton,
      hc, List.length_cons, Nat.add_comm]

theorem utf8ByteSize_symbols {groups : List ℕ} (h : ∀ group ∈ groups, group < 32) :
    (String.ofList (groups.map symbol)).utf8ByteSize = groups.length := by
  rw [utf8ByteSize_ofList, List.length_map]
  intro c hc
  obtain ⟨group, hgroup, rfl⟩ := List.mem_map.mp hc
  exact utf8Size_symbol (h group hgroup)

/-- A string that decodes is the characters of 56 values, completely regrouped into 35 bytes. -/
theorem decodedBytes_complete {strkey kind : String} {bytes : List Byte}
    (hdecoded : decodedBytes strkey kind = .ok bytes) :
    ∃ groups, strkey = .ofList (groups.map symbol) ∧ (∀ group ∈ groups, group < 32) ∧
      bytes.length = strkeyDecodedLen ∧ Regrouping 5 8 groups (bytes.map BitVec.toNat) 0 := by
  simp only [decodedBytes, bind_eq_ok_iff, failIf_eq_ok_iff, not_not, exists_const] at hdecoded
  obtain ⟨hsize, hdecode⟩ := hdecoded
  have hstart : Decoding [] 0 0 [] := ⟨rfl, .start⟩
  obtain ⟨groups, bits, hchars, hgroups, hbits, hregrouped⟩ :=
    hstart.decodeFrom (by decide) hdecode
  have hstrkey : strkey = .ofList (groups.map symbol) := by rw [← hchars, String.ofList_toList]
  rw [List.nil_append] at hregrouped
  have hcount := hregrouped.length
  rw [hstrkey, utf8ByteSize_symbols hgroups] at hsize
  rw [hsize, List.length_map] at hcount
  obtain rfl : bits = 0 := by omega
  exact ⟨groups, hstrkey, hgroups, by unfold strkeyDecodedLen; omega, hregrouped⟩

/-- A string decodes to 35 bytes exactly when it is their encoding. -/
theorem decodedBytes_eq_ok_iff {strkey kind : String} {bytes : List Byte}
    (hlength : bytes.length = strkeyDecodedLen) :
    decodedBytes strkey kind = .ok bytes ↔ strkey = .ofList (encodeFrom bytes 0 0 []) := by
  obtain ⟨groups, hout, hcount, hencoded⟩ := encodeFrom_complete hlength
  rw [hout]
  constructor
  · intro hdecoded
    obtain ⟨groups', rfl, -, -, hregrouped⟩ := decodedBytes_complete hdecoded
    rw [hregrouped.inverse (by decide) hencoded]
  · rintro rfl
    have hsize := utf8ByteSize_symbols hencoded.output_lt
    obtain ⟨result, hdecode⟩ := @decodeFrom_symbols kind _ hencoded.output_lt 0 0 []
    have hdecoded : decodedBytes (.ofList (groups.map symbol)) kind = .ok result := by
      simp only [decodedBytes, bind_eq_ok_iff, failIf_eq_ok_iff, not_not, exists_const,
        String.toList_ofList]
      exact ⟨hsize.trans hcount, hdecode⟩
    obtain ⟨groups', heq, hgroups', -, hregrouped⟩ := decodedBytes_complete hdecoded
    obtain rfl := map_symbol_injective hencoded.output_lt hgroups' (String.ofList_injective heq)
    have hbytes := hencoded.inverse (by decide) hregrouped
    rw [hdecoded, List.map_injective_iff.mpr (fun _ _ h ↦ BitVec.eq_of_toNat_eq h) hbytes]

/-! ### The codec -/

/-- The two bytes of a checksum read back as the checksum. -/
theorem fromLeBytes_eq_iff {low high : Byte} {crc : BitVec 16} :
    fromLeBytes low high = crc ↔ low = crc.setWidth 8 ∧ high = (crc >>> 8).setWidth 8 := by
  have hvalue : (fromLeBytes low high).toNat = high.toNat * 2 ^ 8 + low.toNat := by
    rw [fromLeBytes, BitVec.toNat_append, ← Nat.shiftLeft_add_eq_or_of_lt low.isLt,
      Nat.shiftLeft_eq]
  have hlow := low.isLt
  have hhigh := high.isLt
  have hcrc := crc.isLt
  rw [← BitVec.toNat_inj, ← BitVec.toNat_inj, ← BitVec.toNat_inj, hvalue, BitVec.toNat_setWidth,
    BitVec.toNat_setWidth, BitVec.toNat_ushiftRight, Nat.shiftRight_eq_div_pow]
  omega

theorem length_toEncode (key : Key) (typeByte : Byte) :
    (toEncode key typeByte).length = strkeyDecodedLen := by
  simp [toEncode, key.length_eq, strkeyDecodedLen]

/-- Bytes of the right number are a version byte, a key and two bytes of a checksum. -/
theorem exists_body {bytes : List Byte} (hlength : bytes.length = strkeyDecodedLen) :
    ∃ versionByte key low high, bytes = (versionByte :: Key.bytes key) ++ [low, high] := by
  obtain ⟨versionByte, rest, rfl⟩ := List.exists_cons_of_length_eq_add_one hlength
  have hrest : rest.length = 34 := Nat.succ.inj hlength
  obtain ⟨low, high, hcrc⟩ := List.length_eq_two.mp
    (show (rest.drop 32).length = 2 by rw [List.length_drop, hrest])
  refine ⟨versionByte, ⟨rest.take 32, by rw [List.length_take, hrest]; rfl⟩, low, high, ?_⟩
  rw [List.cons_append, ← hcrc, List.take_append_drop]

/-- What is made of the decoded bytes. -/
theorem strkeyDecode_of_body {strkey kind : String} {key : Key} {body : List Byte}
    {low high : Byte} (hbody : body.length = 33)
    (hdecoded : decodedBytes strkey kind = .ok (body ++ [low, high])) :
    strkeyDecode strkey kind = .ok key ↔
      fromLeBytes low high = crc16Xmodem body ∧ body.drop 1 = key.bytes := by
  have hlength : (body ++ [low, high]).length = strkeyDecodedLen := by
    rw [List.length_append, hbody]
    rfl
  have hlow : (body ++ [low, high]).get ⟨33, by rw [hlength]; decide⟩ = low := by
    simp [List.getElem_append_right, hbody]
  have hhigh : (body ++ [low, high]).get ⟨34, by rw [hlength]; decide⟩ = high := by
    simp [List.getElem_append_right, hbody]
  have htake : (body ++ [low, high]).take 33 = body := by
    rw [← hbody, List.take_left]
  rw [strkeyDecode, hdecoded, ok_bind, dif_pos hlength]
  simp only [hlow, hhigh, htake, bind_eq_ok_iff, failIf_eq_ok_iff, not_not, exists_const,
    pure_eq_ok_iff, Key.ext_iff]

/-- A strkey is accepted exactly when it decodes to the bytes that are encoded for the key and some
version byte. -/
theorem strkeyDecode_eq_ok_iff {strkey kind : String} {key : Key} :
    strkeyDecode strkey kind = .ok key ↔
      ∃ versionByte, decodedBytes strkey kind = .ok (toEncode key versionByte) := by
  constructor
  · intro hdecode
    obtain ⟨bytes, hdecoded, -⟩ := bind_eq_ok_iff.mp hdecode
    obtain ⟨-, -, -, hlength, -⟩ := decodedBytes_complete hdecoded
    obtain ⟨versionByte, key', low, high, rfl⟩ := exists_body hlength
    have hbody : (versionByte :: key'.bytes).length = 33 := by
      rw [List.length_cons, key'.length_eq]
    obtain ⟨hcrc, hkey⟩ := (strkeyDecode_of_body hbody hdecoded).mp hdecode
    obtain ⟨rfl, rfl⟩ := fromLeBytes_eq_iff.mp hcrc
    refine ⟨versionByte, ?_⟩
    rw [hdecoded, toEncode, ← hkey]
    rfl
  · rintro ⟨versionByte, hdecoded⟩
    have hbody : (versionByte :: key.bytes).length = 33 := by
      rw [List.length_cons, key.length_eq]
    exact (strkeyDecode_of_body hbody hdecoded).mpr ⟨fromLeBytes_eq_iff.mpr ⟨rfl, rfl⟩, rfl⟩

/-- The codec is a bijection: an encoding has 56 characters and decodes to its key; a string that
decodes to a key is the encoding of the key under the first of its decoded bytes, so that the two
determine it. -/
theorem strkey_bijection (kind : String) :
    (∀ key versionByte, strkeyDecode (strkeyEncode key versionByte) kind = .ok key ∧
      (strkeyEncode key versionByte).length = 56) ∧
    (∀ strkey key, strkeyDecode strkey kind = .ok key → ∃ versionByte rest,
      decodedBytes strkey kind = .ok (versionByte :: rest) ∧ rest.length = 34 ∧
        strkey = strkeyEncode key versionByte) ∧
    ∀ strkey strkey' key versionByte rest rest', strkeyDecode strkey kind = .ok key →
      strkeyDecode strkey' kind = .ok key →
      decodedBytes strkey kind = .ok (versionByte :: rest) →
      decodedBytes strkey' kind = .ok (versionByte :: rest') → strkey = strkey' := by
  have haccepted {strkey : String} {key : Key} (h : strkeyDecode strkey kind = .ok key) :
      ∃ versionByte rest, decodedBytes strkey kind = .ok (versionByte :: rest) ∧
        rest.length = 34 ∧ strkey = strkeyEncode key versionByte := by
    obtain ⟨versionByte, hdecoded⟩ := strkeyDecode_eq_ok_iff.mp h
    refine ⟨versionByte, _, hdecoded, Nat.succ.inj (length_toEncode key versionByte), ?_⟩
    exact (decodedBytes_eq_ok_iff (length_toEncode key versionByte)).mp hdecoded
  refine ⟨fun key versionByte ↦ ⟨?_, ?_⟩, fun strkey key h ↦ haccepted h, ?_⟩
  · exact strkeyDecode_eq_ok_iff.mpr
      ⟨versionByte, (decodedBytes_eq_ok_iff (length_toEncode key versionByte)).mpr rfl⟩
  · obtain ⟨groups, hout, hcount, -⟩ := encodeFrom_complete (length_toEncode key versionByte)
    rw [strkeyEncode, hout, String.length_ofList, List.length_map, hcount]
  · intro strkey strkey' key versionByte rest rest' h h' hfirst hfirst'
    obtain ⟨first, tail, hdecoded, -, rfl⟩ := haccepted h
    obtain ⟨first', tail', hdecoded', -, rfl⟩ := haccepted h'
    cases hdecoded.symm.trans hfirst
    cases hdecoded'.symm.trans hfirst'
    rfl

/-- The seed of 32 equal bytes, and its strkey under the version byte of seeds. -/
def Sample.seed : Key := ⟨List.replicate 32 0x2a, rfl⟩

def Sample.secret : String := "SAVCUKRKFIVCUKRKFIVCUKRKFIVCUKRKFIVCUKRKFIVCUKRKFIVCVLG5"

example : strkeyEncode Sample.seed (18 <<< 3) = Sample.secret := by decide +kernel

/-- The sample strkey decodes to the sample seed, so it is the encoding of the seed. -/
theorem strkey_bijection_seed :
    ∃ versionByte rest, decodedBytes Sample.secret "secret" = .ok (versionByte :: rest) ∧
      rest.length = 34 ∧ Sample.secret = strkeyEncode Sample.seed versionByte :=
  (strkey_bijection "secret").2.1 Sample.secret Sample.seed (by decide +kernel)

end OrbitChain.Tools.Strkey
