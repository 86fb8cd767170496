import OrbitChain.Foundations.DigitRegrouping
import OrbitChain.Foundations.ExceptSteps
import Mathlib.Logic.Function.Iterate

/-!
# The strkey codec

A key is written as 56 characters: a version byte, the 32 bytes of the key and a checksum, 35 bytes
in all, regrouped from 8 to 5 bits. Both loops regroup through a 32-bit accumulator
(`Regrouping`): the decoder masks it after every byte, the encoder never does and lets the bits that
are out be shifted off its top. Neither direction pads, since 35 groups of 8 bits are 56 groups
of 5.
-/

set_option autoImplicit false
set_option relaxedAutoImplicit false

namespace OrbitChain.Tools.Strkey

open Foundations

abbrev Byte := BitVec 8

/-- The characters of a strkey in the order of their values. -/
def crockfordAlphabet : List Char :=
  ['A', 'B', 'C', 'D', 'E', 'F', 'G', 'H', 'I', 'J', 'K', 'L', 'M', 'N', 'O', 'P', 'Q', 'R', 'S',
    'T', 'U', 'V', 'W', 'X', 'Y', 'Z', '2', '3', '4', '5', '6', '7']

/-- Decoded strkey length in bytes: a version byte, the key and the checksum. -/
def strkeyDecodedLen : ℕ := 35

/-- Ed25519 key material. -/
@[ext] structure Key where
  bytes : List Byte
  length_eq : bytes.length = 32
  deriving DecidableEq

/-! ### Checksum -/

/-- One bit of the checksum. -/
def crc16Shift (crc : BitVec 16) : BitVec 16 :=
  if crc &&& 0x8000#16 ≠ 0 then (crc <<< 1) ^^^ 0x1021#16 else crc <<< 1

/-- CRC16-XModem. -/
def crc16Xmodem (data : List Byte) : BitVec 16 :=
  data.foldl (fun crc byte ↦ crc16Shift^[8] (crc ^^^ BitVec.shiftLeft (byte.setWidth 16) 8)) 0

/-- The unsigned 16-bit integer with a low and a high byte. -/
def fromLeBytes (low high : Byte) : BitVec 16 := high ++ low

/-! ### Decoding -/

/-- Why a strkey is rejected, with the kind the caller named and the values of the message. -/
inductive DecodeError
  /-- It is not 56 bytes long. -/
  | length (kind : String) (got : ℕ)
  | invalidCharacter (kind : String) (c : Char)
  /-- It does not decode to 35 bytes. -/
  | decodedLength (kind : String) (got : ℕ)
  | crcMismatch (kind : String) (got expected : BitVec 16)
  deriving DecidableEq

/-- The value of a character. -/
def charValue (c : Char) : Option (BitVec 32) :=
  if 'A' ≤ c ∧ c ≤ 'Z' then some (BitVec.ofNat 32 (c.toNat - 'A'.toNat))
  else if '2' ≤ c ∧ c ≤ '7' then some (BitVec.ofNat 32 (26 + c.toNat - '2'.toNat))
  else none

/-- The decoding loop over the rest of the characters. -/
def decodeFrom (kind : String) : List Char → BitVec 32 → ℕ → List Byte →
    Except DecodeError (List Byte)
  | [], _, _, decoded => .ok decoded
  | c :: rest, acc, bits, decoded => do
    let v ← orFail (charValue c) (.invalidCharacter kind c)
    let acc := (acc <<< 5) ||| v
    let bits := bits + 5
    if 8 ≤ bits then
      let bits := bits - 8
      decodeFrom kind rest (acc &&& ((1#32 <<< bits) - 1#32)) bits
        (decoded ++ [((acc >>> bits) &&& 0xff#32).setWidth 8])
    else decodeFrom kind rest acc bits decoded

/-- The bytes that a strkey of the right length decodes to. -/
def decodedBytes (strkey kind : String) : Except DecodeError (List Byte) := do
  failIf (strkey.utf8ByteSize ≠ 56) (.length kind strkey.utf8ByteSize)
  decodeFrom kind strkey.toList 0 0 []

/-- Decode a strkey into its key material, validating its checksum. -/
def strkeyDecode (strkey kind : String) : Except DecodeError Key := do
  let decoded ← decodedBytes strkey kind
  if h : decoded.length = strkeyDecodedLen then
    let expected := fromLeBytes (decoded.get ⟨33, by rw [h]; decide⟩)
      (decoded.get ⟨34, by rw [h]; decide⟩)
    let actual := crc16Xmodem (decoded.take 33)
    failIf (expected ≠ actual) (.crcMismatch kind actual expected)
    pure ⟨(decoded.take 33).drop 1, by rw [List.length_drop, List.length_take, h]; rfl⟩
  else .error (.decodedLength kind decoded.length)

/-! ### Encoding -/

/-- The character of a value. -/
def symbol (value : ℕ) : Char := crockfordAlphabet.getD value 'A'

/-- The inner loop of the encoder: put out groups of 5 bits while there are as many. -/
def emit (acc : BitVec 32) : ℕ → List Char → ℕ × List Char
  | bits + 5, out => emit acc bits (out ++ [symbol ((acc >>> bits) &&& 0x1f#32).toNat])
  | bits, out => (bits, out)

/-- The encoding loop over the rest of the bytes. -/
def encodeFrom : List Byte → BitVec 32 → ℕ → List Char → List Char
  | [], _, _, out => out
  | byte :: rest, acc, bits, out =>
    let acc := (acc <<< 8) ||| byte.setWidth 32
    let (bits, out) := emit acc (bits + 8) out
    encodeFrom rest acc bits out

/-- The bytes that are encoded for a key: the checksum comes last, low byte first. -/
def toEncode (key : Key) (typeByte : Byte) : List Byte :=
  let body := typeByte :: key.bytes
  let crc := crc16Xmodem body
  body ++ [crc.setWidth 8, (crc >>> 8).setWidth 8]

/-- Encode a key into a strkey with the given version byte. -/
def strkeyEncode (key : Key) (typeByte : Byte) : String :=
  .ofList (encodeFrom (toEncode key typeByte) 0 0 [])

end OrbitChain.Tools.Strkey
