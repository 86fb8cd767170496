import OrbitChain.Foundations.ExceptSteps
import OrbitChain.Tools.TextFiles
import Mathlib.Tactic.TypeStar

/-!
# The key manager

Secret keys are encrypted under a master key that is derived from a password, with a nonce of 12
random bytes, and exported as two hexadecimal strings. SHA-256, AES-256-GCM and the hexadecimal
functions are a parameter (`Crypto`) of which only this is used: what was encrypted is decrypted
again under the same master key and nonce, and bytes are written in lower-case hexadecimal digits
and read again. An exported key is made of such digits and one colon (`mem_exportEncrypted`) and is
imported again (`importEncrypted_exportEncrypted`).
-/

set_option autoImplicit false
set_option relaxedAutoImplicit false

namespace OrbitChain.Tools

open Foundations

abbrev Text := List Char

abbrev Bytes := List UInt8

abbrev MasterKey := Vector UInt8 32

abbrev Nonce := Vector UInt8 12

def hexDigits : Text := "0123456789abcdef".toList

/-- SHA-256, AES-256-GCM and the hexadecimal functions. -/
structure Crypto where
  sha256 : Bytes → MasterKey
  encrypt : MasterKey → Nonce → Bytes → Option Bytes
  decrypt : MasterKey → Nonce → Bytes → Option Bytes
  hexEncode : Bytes → Text
  hexDecode : Text → Option Bytes
  decrypt_encrypt : ∀ key nonce plaintext ciphertext,
    encrypt key nonce plaintext = some ciphertext → decrypt key nonce ciphertext = some plaintext
  mem_hexEncode : ∀ bytes, ∀ c ∈ hexEncode bytes, c ∈ hexDigits
  hexDecode_hexEncode : ∀ bytes, hexDecode (hexEncode bytes) = some bytes

/-! ### Texts and bytes -/

/-- The bytes of a text. -/
def asBytes (text : Text) : Bytes := (toUtf8 text).data.toList

/-- The text with some bytes, if they are valid UTF-8. -/
def fromUtf8 (bytes : Bytes) : Option Text := readToString ⟨bytes.toArray⟩

@[simp] theorem fromUtf8_asBytes (text : Text) : fromUtf8 (asBytes text) = some text := by
  rw [fromUtf8, asBytes, Array.toArray_toList]
  exact readToString_toUtf8 text

/-! ### Hexadecimal strings

Functions that a `Crypto` can have: digits are written in lower case, and read in both.
-/

/-- The lower-case digit of a number below 16. -/
def hexDigit (n : ℕ) : Char := hexDigits.getD n '0'

/-- Two digits for each byte. -/
def hexEncode (bytes : Bytes) : Text :=
  bytes.flatMap fun byte ↦ [hexDigit (byte.toNat / 16), hexDigit (byte.toNat % 16)]

/-- The value of a digit in lower or upper case. -/
def hexValue (c : Char) : Option ℕ :=
  if '0' ≤ c ∧ c ≤ '9' then some (c.toNat - '0'.toNat)
  else if 'a' ≤ c ∧ c ≤ 'f' then some (c.toNat - 'a'.toNat + 10)
  else if 'A' ≤ c ∧ c ≤ 'F' then some (c.toNat - 'A'.toNat + 10)
  else none

/-- The bytes of pairs of digits. -/
def hexDecode : Text → Option Bytes
  | [] => some []
  | [_] => none
  | high :: low :: rest => do
    let h ← hexValue high
    let l ← hexValue low
    let bytes ← hexDecode rest
    pure (UInt8.ofNat (h * 16 + l) :: bytes)

theorem hexValue_hexDigit {n : ℕ} (h : n < 16) : hexValue (hexDigit n) = some n := by
  have hall : ∀ n < 16, hexValue (hexDigit n) = some n := by decide
  exact hall n h

theorem hexDigit_mem (n : ℕ) : hexDigit n ∈ hexDigits := by
  rw [hexDigit, List.getD_eq_getElem?_getD]
  cases h : hexDigits[n]? with
  | none => decide
  | some c => exact List.mem_of_getElem? h

theorem mem_hexEncode {bytes : Bytes} {c : Char} (h : c ∈ hexEncode bytes) : c ∈ hexDigits := by
  obtain ⟨byte, -, hc⟩ := List.mem_flatMap.mp h
  simp only [List.mem_cons, List.not_mem_nil, or_false] at hc
  rcases hc with rfl | rfl
  · exact hexDigit_mem _
  · exact hexDigit_mem _

@[simp] theorem hexDecode_hexEncode (bytes : Bytes) : hexDecode (hexEncode bytes) = some bytes := by
  induction bytes with
  | nil => rfl
  | cons byte rest ih =>
    have hbyte : byte.toNat < 256 := byte.toNat_lt
    have hsplit : byte.toNat / 16 * 16 + byte.toNat % 16 = byte.toNat := by omega
    have hcons : hexEncode (byte :: rest) =
        hexDigit (byte.toNat / 16) :: hexDigit (byte.toNat % 16) :: hexEncode rest := rfl
    rw [hcons, hexDecode, hexValue_hexDigit (by omega), hexValue_hexDigit (by omega), ih]
    simp only [Option.bind_eq_bind, Option.bind_some, hsplit, UInt8.ofNat_toNat, Option.pure_def]

/-! ### Keys -/

/-- A secret key encrypted with a nonce. -/
structure EncryptedKey where
  nonce : Nonce
  ciphertext : Bytes
  deriving DecidableEq

structure KeyManager where
  masterKey : MasterKey
  deriving DecidableEq

/-- The number of bytes of a text. -/
def byteLength (text : Text) : ℕ := (String.ofList text).utf8ByteSize

def validateSecretKey (secretKey : Text) : Except String Unit := do
  failIf (secretKey.head? ≠ some 'S') "Secret key must start with 'S' (Stellar format)"
  failIf (byteLength secretKey < 56) "Secret key is too short"

def validatePublicKey (publicKey : Text) : Except String Unit := do
  failIf (publicKey.head? ≠ some 'G') "Public key must start with 'G' (Stellar format)"
  failIf (byteLength publicKey < 56) "Public key is too short"

namespace KeyManager

variable (crypto : Crypto)

def fromPassword (password : Text) : Except String KeyManager :=
  pure ⟨crypto.sha256 (asBytes password)⟩

variable (manager : KeyManager)

/-- Encrypt a secret key with the nonce that was drawn. -/
def encryptKey (nonce : Nonce) (secretKey : Text) : Except String EncryptedKey := do
  let ciphertext ← orFail (crypto.encrypt manager.masterKey nonce (asBytes secretKey))
    "Encryption failed: aead::Error"
  pure ⟨nonce, ciphertext⟩

def decryptKey (encrypted : EncryptedKey) : Except String Text := do
  let plaintext ← orFail (crypto.decrypt manager.masterKey encrypted.nonce encrypted.ciphertext)
    "Decryption failed (wrong key or corrupted data): aead::Error"
  orFail (fromUtf8 plaintext) "Decrypted key is not valid UTF-8"

/-- Export an encrypted key as hexadecimal strings of its nonce and its ciphertext. -/
def exportEncrypted (nonce : Nonce) (secretKey : Text) : Except String Text := do
  let encrypted ← manager.encryptKey crypto nonce secretKey
  pure (crypto.hexEncode encrypted.nonce.toList ++ ':' :: crypto.hexEncode encrypted.ciphertext)

/-- Import an encrypted key from hexadecimal strings. -/
def importEncrypted (encryptedHex : Text) : Except String EncryptedKey :=
  match encryptedHex.splitOn ':' with
  | [nonceHex, ciphertextHex] => do
    let nonce ← orFail (crypto.hexDecode nonceHex) "Failed to decode nonce"
    let ciphertext ← orFail (crypto.hexDecode ciphertextHex) "Failed to decode ciphertext"
    if h : nonce.length = 12 then pure ⟨⟨nonce.toArray, h⟩, ciphertext⟩
    else .error ("Invalid nonce length: expected 12 bytes, got " ++ toString nonce.length)
  | _ => .error "Invalid encrypted key format. Expected 'nonce:ciphertext'"

variable {crypto manager} {nonce : Nonce} {secretKey encryptedHex : Text}

/-- An exported key is imported and decrypted again. -/
theorem importEncrypted_exportEncrypted
    (h : manager.exportEncrypted crypto nonce secretKey = .ok encryptedHex) :
    (importEncrypted crypto encryptedHex >>= manager.decryptKey crypto) = .ok secretKey := by
  simp only [exportEncrypted, encryptKey, bind_eq_ok_iff, orFail_eq_ok_iff, pure_eq_ok_iff] at h
  obtain ⟨_, ⟨ciphertext, hencrypt, rfl⟩, rfl⟩ := h
  have hcolon (bytes : Bytes) : ':' ∉ crypto.hexEncode bytes := fun hmem ↦
    absurd (crypto.mem_hexEncode bytes _ hmem) (by decide)
  have hsplit : (crypto.hexEncode nonce.toList ++ ':' :: crypto.hexEncode ciphertext).splitOn ':' =
      [crypto.hexEncode nonce.toList, crypto.hexEncode ciphertext] := by
    rw [List.splitOn_append_cons_self, List.splitOn_eq_singleton (hcolon _),
      List.splitOn_eq_singleton (hcolon _)]
    rfl
  have hlength : nonce.toList.length = 12 := nonce.size_toArray
  have himport : importEncrypted crypto
      (crypto.hexEncode nonce.toList ++ ':' :: crypto.hexEncode ciphertext) =
        .ok ⟨nonce, ciphertext⟩ := by
    simp only [importEncrypted, hsplit, crypto.hexDecode_hexEncode, orFail, ok_bind,
      dif_pos hlength]
    rfl
  rw [himport, ok_bind]
  simp only [decryptKey, crypto.decrypt_encrypt _ _ _ _ hencrypt, orFail, ok_bind,
    fromUtf8_asBytes]

theorem mem_exportEncrypted (h : manager.exportEncrypted crypto nonce secretKey = .ok encryptedHex)
    {c : Char} (hc : c ∈ encryptedHex) : c = ':' ∨ c ∈ hexDigits := by
  simp only [exportEncrypted, encryptKey, bind_eq_ok_iff, orFail_eq_ok_iff, pure_eq_ok_iff] at h
  obtain ⟨_, ⟨ciphertext, -, rfl⟩, rfl⟩ := h
  rcases List.mem_append.mp hc with hnonce | hrest
  · exact .inr (crypto.mem_hexEncode _ _ hnonce)
  · rcases List.mem_cons.mp hrest with rfl | hcipher
    · exact .inl rfl
    · exact .inr (crypto.mem_hexEncode _ _ hcipher)

end KeyManager

end OrbitChain.Tools
