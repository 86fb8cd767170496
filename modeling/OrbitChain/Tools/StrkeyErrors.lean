import OrbitChain.Foundations.ShiftRegisters
import OrbitChain.Tools.StrkeyRoundTrip
import Mathlib.Data.BitVec
import Mathlib.Data.LawfulXor.Basic

/-!
# Errors that the strkey checksum sees

The checksum is a linear shift register, so what tells an accepted string from a changed one is the
syndrome of their difference alone: the checksum of the difference of the bodies, compared with the
difference of the checksums. A changed character, or two neighbours that change places, differ in a
run of at most ten bits, which lies in three bytes. Where the run ends in the body the register sees
it, whatever follows; where it reaches into the checksum, whose low byte comes first, its three
bytes are looked at one error after the other (`visible_of_error`).
-/

set_option autoImplicit false
set_option relaxedAutoImplicit false

namespace OrbitChain.Tools.Strkey

open Foundations

/-! ### The checksum as a shift register -/

/-- The polynomial is added where the highest bit is set. -/
theorem crc16Shift_eq (crc : BitVec 16) :
    crc16Shift crc = (crc <<< 1) ^^^ (if crc.msb then 0x1021#16 else 0#16) := by
  have hhighest : crc &&& 0x8000#16 = if crc.msb then 0x8000#16 else 0#16 :=
    BitVec.and_twoPow crc 15
  rw [crc16Shift, hhighest]
  cases crc.msb with
  | true => rfl
  | false => exact (BitVec.xor_zero).symm

theorem crc16Shift_xor (crc crc' : BitVec 16) :
    crc16Shift (crc ^^^ crc') = crc16Shift crc ^^^ crc16Shift crc' := by
  have hpolynomial : (if (crc ^^^ crc').msb then 0x1021#16 else 0#16) =
      (if crc.msb then 0x1021#16 else 0#16) ^^^ (if crc'.msb then 0x1021#16 else 0#16) := by
    rw [BitVec.msb_xor]
    cases crc.msb <;> cases crc'.msb <;> rfl
  rw [crc16Shift_eq, crc16Shift_eq, crc16Shift_eq, BitVec.shiftLeft_xor_distrib, hpolynomial]
  ac_rfl

/-- A shift loses nothing: the polynomial has its lowest bit set, which a shift alone clears. -/
theorem crc16Shift_eq_zero {crc : BitVec 16} (h : crc16Shift crc = 0#16) : crc = 0#16 := by
  rw [crc16Shift_eq] at h
  cases hmsb : crc.msb with
  | true =>
    rw [hmsb, if_pos rfl] at h
    have hlowest := congrArg (BitVec.getLsbD · 0) h
    simp at hlowest
  | false =>
    rw [hmsb, if_neg Bool.false_ne_true, BitVec.xor_zero] at h
    rw [BitVec.msb_eq_false_iff_two_mul_lt] at hmsb
    have hvalue := congrArg BitVec.toNat h
    rw [BitVec.toNat_shiftLeft, BitVec.toNat_zero, Nat.shiftLeft_eq] at hvalue
    apply BitVec.eq_of_toNat_eq
    rw [BitVec.toNat_zero]
    omega

theorem crc16Shift_iterate_xor (count : ℕ) (crc crc' : BitVec 16) :
    crc16Shift^[count] (crc ^^^ crc') = crc16Shift^[count] crc ^^^ crc16Shift^[count] crc' := by
  induction count with
  | zero => rfl
  | succ count ih => rw [Function.iterate_succ_apply', ih, crc16Shift_xor,
      Function.iterate_succ_apply', Function.iterate_succ_apply']

/-- CRC16-XModem as a register that reads bytes. -/
def crc16Register : ShiftRegister (BitVec 16) Byte where
  shift := crc16Shift^[8]
  load := fun byte ↦ BitVec.shiftLeft (byte.setWidth 16) 8
  shift_xor := crc16Shift_iterate_xor 8
  load_xor := fun byte byte' ↦ by
    rw [BitVec.setWidth_xor]
    exact BitVec.shiftLeft_xor_distrib _ _ 8

theorem crc16Xmodem_eq_run (data : List Byte) : crc16Xmodem data = crc16Register.run data := rfl

/-- Zero bytes in front do not change the checksum. -/
theorem crc16Xmodem_replicate_append (count : ℕ) (data : List Byte) :
    crc16Xmodem (List.replicate count 0#8 ++ data) = crc16Xmodem data :=
  crc16Register.run_replicate_append count

theorem crc16Register_shift_eq_zero (crc : BitVec 16) (h : crc16Register.shift crc = 0#16) :
    crc = 0#16 := by
  have hiterate (count : ℕ) (h : crc16Shift^[count] crc = 0#16) : crc = 0#16 := by
    induction count with
    | zero => exact h
    | succ count ih =>
      rw [Function.iterate_succ_apply'] at h
      exact ih (crc16Shift_eq_zero h)
  exact hiterate 8 h

/-- Zero bytes behind do not hide what the register saw. -/
theorem crc16Xmodem_append_ne_zero (count : ℕ) {data : List Byte} (h : crc16Xmodem data ≠ 0#16) :
    crc16Xmodem (data ++ List.replicate count 0#8) ≠ 0#16 :=
  crc16Register.run_append_replicate_ne_zero crc16Register_shift_eq_zero count h

/-! ### Syndromes -/

/-- The checksum of the body compared with the checksum that follows it. -/
def syndrome (body : List Byte) (low high : Byte) : BitVec 16 :=
  crc16Xmodem body ^^^ fromLeBytes low high

theorem fromLeBytes_xor (low low' high high' : Byte) :
    fromLeBytes (low ^^^ low') (high ^^^ high') =
      fromLeBytes low high ^^^ fromLeBytes low' high' :=
  BitVec.xor_append.symm

/-- The syndrome of a difference is the difference of the syndromes. -/
theorem syndrome_xor {body body' : List Byte} (hlength : body.length = body'.length)
    (low low' high high' : Byte) :
    syndrome (List.zipWith (· ^^^ ·) body body') (low ^^^ low') (high ^^^ high') =
      syndrome body low high ^^^ syndrome body' low' high' := by
  rw [syndrome, syndrome, syndrome, crc16Xmodem_eq_run, crc16Register.run_zipWith_xor hlength,
    fromLeBytes_xor, ← crc16Xmodem_eq_run, ← crc16Xmodem_eq_run]
  ac_rfl

/-- The values of the characters of an accepted string, with the bytes they decode to. -/
structure Codeword (groups : List ℕ) (body : List Byte) (low high : Byte) : Prop where
  length_eq : body.length = 33
  regrouping : Regrouping 5 8 groups ((body ++ [low, high]).map BitVec.toNat) 0
  syndrome_eq : syndrome body low high = 0#16

namespace Codeword

variable {groups groups' : List ℕ} {body body' : List Byte} {low high low' high' : Byte}

theorem length_groups (h : Codeword groups body low high) : groups.length = 56 := by
  have hcount := h.regrouping.length
  rw [List.length_map, List.length_append, h.length_eq] at hcount
  exact Nat.eq_of_mul_eq_mul_left (show 0 < 5 by decide) hcount

/-- The values of the characters of an accepted string are a codeword. -/
theorem of_decode {chars : List Char} {kind : String} {key : Key}
    (h : strkeyDecode (.ofList chars) kind = .ok key) :
    ∃ groups body low high, chars = groups.map symbol ∧ Codeword groups body low high := by
  obtain ⟨bytes, hdecoded, -⟩ := bind_eq_ok_iff.mp h
  obtain ⟨groups, hchars, -, hlength, hregrouping⟩ := decodedBytes_complete hdecoded
  obtain ⟨versionByte, key', low, high, rfl⟩ := exists_body hlength
  have hbody : (versionByte :: key'.bytes).length = 33 := by
    rw [List.length_cons, key'.length_eq]
  obtain ⟨hcrc, -⟩ := (strkeyDecode_of_body hbody hdecoded).mp h
  refine ⟨groups, _, low, high, String.ofList_injective hchars, hbody, hregrouping, ?_⟩
  rw [syndrome, hcrc, BitVec.xor_self]

/-- The difference of two codewords is 35 bytes with no syndrome. -/
theorem difference (h : Codeword groups body low high) (h' : Codeword groups' body' low' high') :
    ∃ body low high, body.length = 33 ∧ syndrome body low high = 0#16 ∧
      bigEndian 8 ((body ++ [low, high]).map BitVec.toNat) =
        bigEndian 5 (List.zipWith (· ^^^ ·) groups groups') := by
  have hlength : body.length = body'.length := h.length_eq.trans h'.length_eq.symm
  refine ⟨List.zipWith (· ^^^ ·) body body', low ^^^ low', high ^^^ high', ?_, ?_, ?_⟩
  · rw [List.length_zipWith, h.length_eq, h'.length_eq]
    rfl
  · rw [syndrome_xor hlength, h.syndrome_eq, h'.syndrome_eq]
    rfl
  · have hbytes : List.zipWith (· ^^^ ·) body body' ++ [low ^^^ low', high ^^^ high'] =
        List.zipWith (· ^^^ ·) (body ++ [low, high]) (body' ++ [low', high']) := by
      rw [List.zipWith_append hlength]
      rfl
    rw [hbytes, List.map_zipWith]
    simp only [BitVec.toNat_xor]
    rw [← List.zipWith_map, ← h.regrouping.difference (by decide) h'.regrouping
      (h.length_groups.trans h'.length_groups.symm)]

end Codeword

/-! ### Errors within three bytes -/

/-- Three bytes are seen in the body, across its end and in the checksum. -/
def Visible (x y z : Byte) : Prop :=
  crc16Xmodem [x, y, z] ≠ 0#16 ∧ syndrome [x, y] z 0 ≠ 0#16 ∧ syndrome [x] y z ≠ 0#16

instance (x y z : Byte) : Decidable (Visible x y z) :=
  inferInstanceAs (Decidable (_ ∧ _ ∧ _))

/-- The syndrome of bytes with zeros in front, however they are split off. -/
theorem syndrome_eq_of_split {body front : List Byte} {low high y z : Byte} {lead before : ℕ}
    (h : (List.replicate lead 0#8 ++ body) ++ [low, high] =
      (List.replicate before 0#8 ++ front) ++ [y, z]) :
    syndrome body low high = syndrome front y z := by
  obtain ⟨hfront, hback⟩ := List.append_inj' h rfl
  cases hback
  rw [syndrome, ← crc16Xmodem_replicate_append lead, hfront, crc16Xmodem_replicate_append,
    syndrome]

/-- Bytes that are zero except for three visible ones have a syndrome. -/
theorem syndrome_ne_zero_of_visible {body : List Byte} {low high x y z : Byte}
    {lead before after : ℕ} (hvisible : Visible x y z)
    (h : List.replicate lead 0#8 ++ (body ++ [low, high]) =
      List.replicate before 0#8 ++ ([x, y, z] ++ List.replicate after 0#8)) :
    syndrome body low high ≠ 0#16 := by
  obtain ⟨hbody, hacross, hchecksum⟩ := hvisible
  rw [← List.append_assoc] at h
  match after with
  | 0 =>
    have hsplit : (List.replicate lead 0#8 ++ body) ++ [low, high] =
        (List.replicate before 0#8 ++ [x]) ++ [y, z] := by
      rw [h, List.append_assoc]
      rfl
    rw [syndrome_eq_of_split hsplit]
    exact hchecksum
  | 1 =>
    have hsplit : (List.replicate lead 0#8 ++ body) ++ [low, high] =
        (List.replicate before 0#8 ++ [x, y]) ++ [z, 0#8] := by
      rw [h, List.append_assoc]
      rfl
    rw [syndrome_eq_of_split hsplit]
    exact hacross
  | after + 2 =>
    have hsplit : (List.replicate lead 0#8 ++ body) ++ [low, high] =
        (List.replicate before 0#8 ++ ([x, y, z] ++ List.replicate after 0#8)) ++ [0#8, 0#8] := by
      rw [h, List.replicate_add, List.append_assoc, List.append_assoc]
      rfl
    have hzero : fromLeBytes 0#8 0#8 = 0#16 := rfl
    rw [syndrome_eq_of_split hsplit, syndrome, hzero, BitVec.xor_zero]
    exact crc16Xmodem_append_ne_zero after hbody

/-- The lowest 24 bits of a number in three bytes. -/
def errorBytes (error : ℕ) : List Byte :=
  [.ofNat 8 (error / 2 ^ 16), .ofNat 8 (error / 2 ^ 8), .ofNat 8 error]

theorem bigEndian_errorBytes {error : ℕ} (h : error < 2 ^ 24) :
    bigEndian 8 ((errorBytes error).map BitVec.toNat) = error := by
  have hvalue : bigEndian 8 ((errorBytes error).map BitVec.toNat) =
      error % 2 ^ 8 + 2 ^ 8 * (error / 2 ^ 8 % 2 ^ 8 + 2 ^ 8 * (error / 2 ^ 16 % 2 ^ 8 + 0)) := rfl
  rw [hvalue]
  omega

/-- What a changed character, or two neighbours that change places, leave as a difference: the
difference of two values, alone or next to itself. -/
def IsError (difference error : ℕ) : Prop :=
  0 < difference ∧ difference < 32 ∧ (error = difference ∨ error = difference * 2 ^ 5 + difference)

/-- However such an error lies in its bytes, it is seen. -/
theorem visible_of_error {difference error offset : ℕ} (h : IsError difference error)
    (hoffset : offset < 8) :
    Visible (.ofNat 8 (error * 2 ^ offset / 2 ^ 16)) (.ofNat 8 (error * 2 ^ offset / 2 ^ 8))
      (.ofNat 8 (error * 2 ^ offset)) := by
  have hall : ∀ offset < 8, ∀ difference < 32, 0 < difference →
      ∀ error ∈ [difference, difference * 2 ^ 5 + difference],
        Visible (.ofNat 8 (error * 2 ^ offset / 2 ^ 16)) (.ofNat 8 (error * 2 ^ offset / 2 ^ 8))
          (.ofNat 8 (error * 2 ^ offset)) := by decide +kernel
  obtain ⟨hpos, hlt, herror⟩ := h
  exact hall offset hoffset difference hlt hpos error (by simpa using herror)

/-- So 35 bytes that write such an error, anywhere, have a syndrome. -/
theorem syndrome_ne_zero {body : List Byte} {low high : Byte} {difference error place : ℕ}
    (h : IsError difference error) (hplace : place < 280) (hbody : body.length = 33)
    (hvalue : bigEndian 8 ((body ++ [low, high]).map BitVec.toNat) = error * 2 ^ place) :
    syndrome body low high ≠ 0#16 := by
  have hoffset : place % 8 < 8 := Nat.mod_lt _ (by decide)
  have hlt : error * 2 ^ (place % 8) < 2 ^ 24 := by
    have herror : error < 2 ^ 10 := by
      obtain ⟨-, hdifference, herror⟩ := h
      omega
    calc error * 2 ^ (place % 8)
        ≤ error * 2 ^ 7 := Nat.mul_le_mul_left _ (Nat.pow_le_pow_right (by decide) (by omega))
      _ < 2 ^ 24 := by omega
  refine syndrome_ne_zero_of_visible (visible_of_error h hoffset)
    (?_ : List.replicate 3 0#8 ++ (body ++ [low, high]) =
      List.replicate (35 - place / 8) 0#8 ++
        (errorBytes (error * 2 ^ (place % 8)) ++ List.replicate (place / 8) 0#8))
  apply List.map_injective_iff.mpr (fun _ _ ↦ BitVec.eq_of_toNat_eq)
  have hbytes (bytes : List Byte) : ∀ byte ∈ bytes.map BitVec.toNat, byte < 2 ^ 8 := by
    intro byte hbyte
    obtain ⟨byte, -, rfl⟩ := List.mem_map.mp hbyte
    exact byte.isLt
  refine bigEndian_injective (show 0 < 8 by decide) ?_ (hbytes _) (hbytes _) ?_
  · simp only [List.length_map, List.length_append, List.length_replicate, hbody, errorBytes,
      List.length_cons, List.length_nil]
    omega
  · have hzeros (count : ℕ) : (List.replicate count 0#8).map BitVec.toNat =
        List.replicate count 0 := List.map_replicate
    rw [List.map_append, hzeros, bigEndian_replicate_append, hvalue, List.map_append, hzeros,
      bigEndian_replicate_append, List.map_append, hzeros, bigEndian_append_replicate,
      bigEndian_errorBytes hlt, Nat.mul_assoc, ← Nat.pow_add, Nat.mod_add_div]

/-! ### Changed strings -/

section Changes

variable {before middle middle' after : List Char} {kind kind' : String} {key key' : Key}

/-- Two accepted strings that differ in a middle part only: the difference of the values there,
moved up past what follows, has no syndrome. -/
theorem exists_undetected (hlength : middle.length = middle'.length)
    (h : strkeyDecode (.ofList (before ++ (middle ++ after))) kind = .ok key)
    (h' : strkeyDecode (.ofList (before ++ (middle' ++ after))) kind' = .ok key') :
    ∃ values values', middle = values.map symbol ∧ middle' = values'.map symbol ∧
      (∀ value ∈ values, value < 32) ∧ (∀ value ∈ values', value < 32) ∧
      middle.length + after.length ≤ 56 ∧
      ∃ body low high, body.length = 33 ∧ syndrome body low high = 0#16 ∧
        bigEndian 8 ((body ++ [low, high]).map BitVec.toNat) =
          bigEndian 5 (List.zipWith (· ^^^ ·) values values') * 2 ^ (5 * after.length) := by
  obtain ⟨groups, _, _, _, hchars, hcode⟩ := Codeword.of_decode h
  obtain ⟨groups', _, _, _, hchars', hcode'⟩ := Codeword.of_decode h'
  obtain ⟨front, rest, rfl, hfront, hrest⟩ := List.map_eq_append_iff.mp hchars.symm
  obtain ⟨values, back, rfl, hvalues, hback⟩ := List.map_eq_append_iff.mp hrest
  obtain ⟨front', rest', rfl, hfront', hrest'⟩ := List.map_eq_append_iff.mp hchars'.symm
  obtain ⟨values', back', rfl, hvalues', hback'⟩ := List.map_eq_append_iff.mp hrest'
  have hlt := hcode.regrouping.input_lt
  have hlt' := hcode'.regrouping.input_lt
  simp only [List.forall_mem_append] at hlt hlt'
  obtain rfl := map_symbol_injective hlt.1 hlt'.1 (hfront.trans hfront'.symm)
  obtain rfl := map_symbol_injective hlt.2.2 hlt'.2.2 (hback.trans hback'.symm)
  have hcount := hcode.length_groups
  obtain ⟨body, low, high, hbody, hsyndrome, hvalue⟩ := hcode.difference hcode'
  refine ⟨values, values', hvalues.symm, hvalues'.symm, hlt.2.1, hlt'.2.1, ?_, body, low, high,
    hbody, hsyndrome, ?_⟩
  · rw [← hvalues, ← hback, List.length_map, List.length_map]
    rw [List.length_append, List.length_append] at hcount
    omega
  · rw [← hvalues, ← hvalues', List.length_map, List.length_map] at hlength
    rw [hvalue, bigEndian_zipWith_xor_middle 5 front back hlength, ← hback, List.length_map]

/-- Two different values differ by a number that is not zero and of five bits. -/
theorem xor_pos_lt {value value' : ℕ} (h : value < 32) (h' : value' < 32) (hne : value ≠ value') :
    0 < value ^^^ value' ∧ value ^^^ value' < 32 :=
  ⟨Nat.pos_of_ne_zero fun hzero ↦ hne (xor_eq_zero_iff.mp hzero), Nat.xor_lt_two_pow (n := 5) h h'⟩

/-- A character in the place of another is noticed. -/
theorem eq_of_replaced {c c' : Char}
    (h : strkeyDecode (.ofList (before ++ ([c] ++ after))) kind = .ok key)
    (h' : strkeyDecode (.ofList (before ++ ([c'] ++ after))) kind' = .ok key') : c' = c := by
  obtain ⟨values, values', hc, hc', hlt, hlt', hcount, body, low, high, hbody, hsyndrome, hvalue⟩ :=
    exists_undetected (show [c].length = [c'].length from rfl) h h'
  obtain ⟨value, rfl, rfl⟩ := List.map_eq_singleton_iff.mp hc.symm
  obtain ⟨value', rfl, rfl⟩ := List.map_eq_singleton_iff.mp hc'.symm
  rw [List.forall_mem_singleton] at hlt hlt'
  by_contra hne
  obtain ⟨hpos, hdifference⟩ := xor_pos_lt hlt hlt' fun h ↦ hne (by rw [h])
  have hsingle : bigEndian 5 (List.zipWith (· ^^^ ·) [value] [value']) = value ^^^ value' := by
    simp [bigEndian]
  rw [hsingle] at hvalue
  have hplace : 5 * after.length < 280 := by
    rw [List.length_singleton] at hcount
    omega
  exact syndrome_ne_zero ⟨hpos, hdifference, .inl rfl⟩ hplace hbody hvalue hsyndrome

/-- Neighbours that change places are noticed. -/
theorem eq_of_swapped {c c' : Char}
    (h : strkeyDecode (.ofList (before ++ ([c, c'] ++ after))) kind = .ok key)
    (h' : strkeyDecode (.ofList (before ++ ([c', c] ++ after))) kind' = .ok key') : c = c' := by
  obtain ⟨values, values', hc, hc', hlt, hlt', hcount, body, low, high, hbody, hsyndrome, hvalue⟩ :=
    exists_undetected (show [c, c'].length = [c', c].length from rfl) h h'
  obtain ⟨first, rest, rfl, rfl, hrest⟩ := List.map_eq_cons_iff.mp hc.symm
  obtain ⟨second, rfl, rfl⟩ := List.map_eq_singleton_iff.mp hrest
  obtain rfl : values' = [second, first] := by
    refine map_symbol_injective hlt' (fun value hvalue ↦ hlt value ?_) hc'.symm
    exact (List.Perm.swap first second []).mem_iff.mp hvalue
  rw [List.forall_mem_cons, List.forall_mem_singleton] at hlt
  by_contra hne
  obtain ⟨hpos, hdifference⟩ := xor_pos_lt hlt.1 hlt.2 fun h ↦ hne (by rw [h])
  have hpair : bigEndian 5 (List.zipWith (· ^^^ ·) [first, second] [second, first]) =
      (first ^^^ second) * 2 ^ 5 + (first ^^^ second) := by
    rw [List.zipWith_cons_cons, List.zipWith_cons_cons, List.zipWith_nil_left,
      Nat.xor_comm second first]
    exact bigEndian_concat 5 [first ^^^ second] _
  rw [hpair] at hvalue
  have hplace : 5 * after.length < 280 := by
    rw [List.length_cons, List.length_singleton] at hcount
    omega
  exact syndrome_ne_zero ⟨hpos, hdifference, .inr rfl⟩ hplace hbody hvalue hsyndrome

end Changes

/-- An accepted string has 56 characters, and it is no longer accepted, as no kind of key, when any
one of them is replaced by another, or when any two neighbours that differ change places. -/
theorem strkey_errors_detected (strkey kind : String) (key : Key)
    (h : strkeyDecode strkey kind = .ok key) :
    strkey.toList.length = 56 ∧
    (∀ before c after, strkey.toList = before ++ c :: after → ∀ c', c' ≠ c → ∀ kind' key',
      strkeyDecode (.ofList (before ++ c' :: after)) kind' ≠ .ok key') ∧
    ∀ before c c' after, strkey.toList = before ++ c :: c' :: after → c ≠ c' → ∀ kind' key',
      strkeyDecode (.ofList (before ++ c' :: c :: after)) kind' ≠ .ok key' := by
  rw [← @String.ofList_toList strkey] at h
  refine ⟨?_, fun before c after hsplit c' hne kind' key' h' ↦ ?_,
    fun before c c' after hsplit hne kind' key' h' ↦ ?_⟩
  · obtain ⟨groups, _, _, _, hchars, hcode⟩ := Codeword.of_decode h
    rw [hchars, List.length_map, hcode.length_groups]
  · rw [hsplit] at h
    exact hne (eq_of_replaced h h')
  · rw [hsplit] at h
    exact hne (eq_of_swapped h h')

/-- The sample strkey is no longer read as the seed with another last character, nor with the
characters at the end of its body exchanged. -/
theorem strkey_errors_detected_seed :
    strkeyDecode (.ofList (Sample.secret.toList.take 55 ++ ['6'])) "secret" ≠ .ok Sample.seed ∧
    strkeyDecode (.ofList (Sample.secret.toList.take 52 ++ ['L', 'V', 'G', '5'])) "secret" ≠
      .ok Sample.seed :=
  have h := strkey_errors_detected Sample.secret "secret" Sample.seed (by decide +kernel)
  ⟨h.2.1 (Sample.secret.toList.take 55) '5' [] (by decide +kernel) '6' (by decide) _ _,
    h.2.2 (Sample.secret.toList.take 52) 'V' 'L' ['G', '5'] (by decide +kernel) (by decide) _ _⟩

end OrbitChain.Tools.Strkey
