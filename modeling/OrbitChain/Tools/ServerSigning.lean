import OrbitChain.Tools.StrkeyRoundTrip

/-!
# Server-side signatures and the kinds of strkeys

`strkey_decode` is told the kind of key its caller wants and puts it in its messages; the version
byte it drops unread. The first two characters of a strkey write the version byte, so they tell
its kind: account ids start with `G` and one of the first four letters, seeds with `S` and one of
them. Any strkey decodes as either kind, and `verify` reports on signatures of keys that are not
account ids, when their bytes are an Ed25519 point.
-/

set_option autoImplicit false
set_option relaxedAutoImplicit false

namespace OrbitChain.Tools.Strkey

open Foundations

/-- Version byte for Stellar Ed25519 public account ids. -/
def ed25519PublicVersionByte : Byte := 6 <<< 3

/-- Version byte for Stellar Ed25519 secret seeds. -/
def ed25519SeedVersionByte : Byte := 18 <<< 3

/-! ### Verification -/

/-- The Ed25519 and hexadecimal libraries, as verification calls them. -/
structure Externals where
  VerifyingKey : Type
  /-- The verifying key with these bytes, if they are a point of the curve. -/
  fromBytes : Key → Option VerifyingKey
  /-- The bytes authenticate the message under the key. -/
  verify : VerifyingKey → (message : String) → (signature : List Byte) → Bool
  hexDecode : String → Option (List Byte)

/-- A transaction that has been signed server-side: the fields that verification reads. -/
structure ServerSignedTransaction where
  transactionXdr : String
  signature : String
  algorithm : String
  signerPublicKey : String

/-- Why a payload cannot be verified. -/
inductive VerifyError
  | unsupportedAlgorithm (algorithm : String)
  | emptyPublicKey
  | strkey (error : DecodeError)
  | invalidVerifyingKey
  | signatureNotHex
  /-- The signature is not 64 bytes long. -/
  | signatureLength (got : ℕ)
  deriving DecidableEq

/-- Verify a server signature using only the public key. -/
def ServerSignedTransaction.verify (ext : Externals) (tx : ServerSignedTransaction) :
    Except VerifyError Bool := do
  failIf (tx.algorithm ≠ "ed25519") (.unsupportedAlgorithm tx.algorithm)
  failIf (tx.signerPublicKey = "") .emptyPublicKey
  let publicBytes ← (strkeyDecode tx.signerPublicKey "public").mapError .strkey
  let verifyingKey ← orFail (ext.fromBytes publicBytes) .invalidVerifyingKey
  let sigBytes ← orFail (ext.hexDecode tx.signature) .signatureNotHex
  failIf (sigBytes.length ≠ 64) (.signatureLength sigBytes.length)
  pure (ext.verify verifyingKey tx.transactionXdr sigBytes)

/-! ### The first two characters -/

/-- The string starts with a letter and one of the first four letters of the alphabet. -/
def StartsAs (letter : Char) (strkey : String) : Prop :=
  ∃ second ∈ ['A', 'B', 'C', 'D'], ∃ rest, strkey.toList = letter :: second :: rest

/-- The string is the encoding of a key under some version byte. -/
def IsStrkey (strkey : String) : Prop := ∃ key versionByte, strkey = strkeyEncode key versionByte

/-- The string is a Stellar account id. -/
def IsAccountId (strkey : String) : Prop :=
  ∃ key, strkey = strkeyEncode key ed25519PublicVersionByte

theorem symbol_inj {value value' : ℕ} (h : value < 32) (h' : value' < 32)
    (heq : symbol value = symbol value') : value = value' := by
  have hgroups := @map_symbol_injective [value] [value'] (by simpa using h) (by simpa using h')
    (by rw [List.map_singleton, List.map_singleton, heq])
  exact List.singleton_inj.mp hgroups

/-- One number, written with what is above a place and with what is above two bits more. -/
theorem eq_above_place {high high' low low' place : ℕ} (hlow : low < place)
    (hlow' : low' < 2 ^ 2 * place) (h : high * place + low = high' * (2 ^ 2 * place) + low') :
    low' / place < 2 ^ 2 ∧ high = high' * 2 ^ 2 + low' / place := by
  have hplace : 0 < place := Nat.zero_lt_of_lt hlow
  refine ⟨Nat.div_lt_of_lt_mul (hlow'.trans_eq (Nat.mul_comm (2 ^ 2) place)), ?_⟩
  calc high = (high * place + low) / place := by
        rw [Nat.mul_comm, Nat.mul_add_div hplace, Nat.div_eq_of_lt hlow, Nat.add_zero]
    _ = (place * (high' * 2 ^ 2) + low') / place := by rw [h, ← Nat.mul_assoc, Nat.mul_comm place]
    _ = high' * 2 ^ 2 + low' / place := Nat.mul_add_div hplace _ _

/-- The first two characters write the version byte, above two bits of the key. -/
theorem strkeyEncode_starts (key : Key) (versionByte : Byte) :
    ∃ low < 4, ∃ rest, (strkeyEncode key versionByte).toList =
      symbol (versionByte.toNat / 8) :: symbol (versionByte.toNat % 8 * 4 + low) :: rest := by
  obtain ⟨groups, hout, hcount, hencoded⟩ :=
    encodeFrom_complete (length_toEncode key versionByte)
  obtain ⟨first, second, rest, rfl⟩ : ∃ first second rest, groups = first :: second :: rest := by
    match groups, hcount with
    | first :: second :: rest, _ => exact ⟨first, second, rest, rfl⟩
  obtain ⟨-, hsecond, hrest⟩ : first < 32 ∧ second < 32 ∧ ∀ group ∈ rest, group < 2 ^ 5 := by
    simpa using hencoded.output_lt
  obtain ⟨tail, htail⟩ : ∃ tail, toEncode key versionByte = [versionByte] ++ tail := ⟨_, rfl⟩
  have hbytes : ∀ byte ∈ tail.map BitVec.toNat, byte < 2 ^ 8 := by
    intro byte hbyte
    obtain ⟨byte, -, rfl⟩ := List.mem_map.mp hbyte
    exact byte.isLt
  have hlength : tail.length = 34 := by
    have hall := length_toEncode key versionByte
    rw [htail] at hall
    exact Nat.succ.inj hall
  have hrestLength : rest.length = 54 := Nat.succ.inj (Nat.succ.inj hcount)
  have hgroups := bigEndian_lt (by decide) hrest
  have htotal := bigEndian_lt (by decide) hbytes
  have hvalue := hencoded.value
  rw [hrestLength] at hgroups
  rw [List.length_map, hlength] at htotal
  rw [htail, Nat.pow_zero, Nat.div_one, List.map_append, bigEndian_append, List.length_map, hlength,
    show first :: second :: rest = [first, second] ++ rest from rfl, bigEndian_append,
    hrestLength] at hvalue
  -- both sequences write one number, in which the first two characters stand at this place
  have hplaces : ∀ m n k, k = m + n → 2 ^ k = 2 ^ m * 2 ^ n := by
    rintro m n _ rfl
    exact Nat.pow_add 2 m n
  rw [hplaces 2 (5 * 54) (8 * 34) (by decide)] at hvalue htotal
  generalize 2 ^ (5 * 54) = place at hvalue htotal hgroups
  obtain ⟨hlow, hsplit⟩ := eq_above_place hgroups htotal hvalue
  have hfirst : bigEndian 5 [first, second] = first * 32 + second := by
    simp [bigEndian, Nat.ofDigits_cons, Nat.add_comm, Nat.mul_comm]
  have hbyte : bigEndian 8 ([versionByte].map BitVec.toNat) = versionByte.toNat := by
    simp [bigEndian]
  rw [hfirst, hbyte] at hsplit
  generalize bigEndian 8 (tail.map BitVec.toNat) / place = low at hlow hsplit
  refine ⟨low, hlow, rest.map symbol, ?_⟩
  rw [strkeyEncode, hout, String.toList_ofList, List.map_cons, List.map_cons,
    show first = versionByte.toNat / 8 by omega,
    show second = versionByte.toNat % 8 * 4 + low by omega]

/-- An encoding starts as those under a version byte `kind <<< 3` when its version byte is. -/
theorem startsAs_iff {kind : ℕ} (hkind : kind < 32) (key : Key) (versionByte : Byte) :
    StartsAs (symbol kind) (strkeyEncode key versionByte) ↔ versionByte.toNat = kind * 8 := by
  obtain ⟨low, hlow, rest, hstarts⟩ := strkeyEncode_starts key versionByte
  have hbyte := versionByte.isLt
  have hletters : ['A', 'B', 'C', 'D'] = (List.range 4).map symbol := by decide
  constructor
  · rintro ⟨letter, hletter, rest', hstarts'⟩
    rw [hletters, List.mem_map] at hletter
    obtain ⟨value, hvalue, rfl⟩ := hletter
    rw [List.mem_range] at hvalue
    rw [hstarts, List.cons.injEq, List.cons.injEq] at hstarts'
    have hfirst := symbol_inj (by omega) hkind hstarts'.1
    have hsecond := symbol_inj (by omega) (by omega) hstarts'.2.1
    omega
  · intro hversion
    refine ⟨symbol low, ?_, rest, ?_⟩
    · rw [hletters]
      exact List.mem_map_of_mem (List.mem_range.mpr hlow)
    · rw [hstarts, hversion, Nat.mul_div_cancel _ (by decide), Nat.mul_mod_left, Nat.zero_mul,
        Nat.zero_add]

/-! ### What the kind decides -/

/-- A string is accepted exactly when it is an encoding of the key. -/
theorem strkeyDecode_iff_encode {strkey kind : String} {key : Key} :
    strkeyDecode strkey kind = .ok key ↔ ∃ versionByte, strkey = strkeyEncode key versionByte := by
  rw [strkeyDecode_eq_ok_iff]
  exact exists_congr fun versionByte ↦ decodedBytes_eq_ok_iff (length_toEncode key versionByte)

/-- The version byte is the first decoded byte. -/
theorem decodedBytes_encode (key : Key) (versionByte : Byte) (kind : String) :
    ∃ rest, decodedBytes (strkeyEncode key versionByte) kind = .ok (versionByte :: rest) :=
  ⟨_, (decodedBytes_eq_ok_iff (length_toEncode key versionByte)).mpr rfl⟩

/-- The string decodes as a kind only if its version byte is that of the kind. -/
def DecodesOnlyAs (versionByte : Byte) (strkey kind : String) : Prop :=
  ∀ key, strkeyDecode strkey kind = .ok key →
    ∃ rest, decodedBytes strkey kind = .ok (versionByte :: rest)

/-- The kind keeps out no strkey of another kind. -/
theorem decodesOnlyAs_iff {kind : ℕ} (hkind : kind < 32) {versionByte : Byte}
    (hversion : versionByte.toNat = kind * 8) (strkey name : String) :
    DecodesOnlyAs versionByte strkey name ↔
      (IsStrkey strkey → StartsAs (symbol kind) strkey) := by
  constructor
  · rintro hdecodes ⟨key, found, rfl⟩
    obtain ⟨rest, hrest⟩ := hdecodes key (strkeyDecode_iff_encode.mpr ⟨found, rfl⟩)
    obtain ⟨rest', hrest'⟩ := decodedBytes_encode key found name
    have hbytes := Except.ok.inj (hrest.symm.trans hrest')
    rw [startsAs_iff hkind, ← (List.cons.inj hbytes).1]
    exact hversion
  · intro hstarts key hdecode
    obtain ⟨found, rfl⟩ := strkeyDecode_iff_encode.mp hdecode
    have hfound := (startsAs_iff hkind key found).mp (hstarts ⟨key, found, rfl⟩)
    obtain rfl : found = versionByte := BitVec.eq_of_toNat_eq (hfound.trans hversion.symm)
    exact decodedBytes_encode key found name

/-- Account ids are the strkeys that start as account ids do. -/
theorem isAccountId_iff {strkey : String} :
    IsAccountId strkey ↔ IsStrkey strkey ∧ StartsAs 'G' strkey := by
  constructor
  · rintro ⟨key, rfl⟩
    exact ⟨⟨key, _, rfl⟩, (@startsAs_iff 6 (by decide) key _).mpr rfl⟩
  · rintro ⟨⟨key, found, rfl⟩, hstarts⟩
    have hfound := (@startsAs_iff 6 (by decide) key found).mp hstarts
    exact ⟨key, by rw [BitVec.eq_of_toNat_eq (y := ed25519PublicVersionByte) hfound]⟩

/-- Verification reports on a signature when the public key is any strkey of an Ed25519 point and
the signature is the hexadecimal form of 64 bytes. -/
theorem verify_eq_ok_iff {ext : Externals} {tx : ServerSignedTransaction} :
    (∃ valid, tx.verify ext = .ok valid) ↔
      tx.algorithm = "ed25519" ∧
      (∃ key versionByte, tx.signerPublicKey = strkeyEncode key versionByte ∧
        (ext.fromBytes key).isSome) ∧
      ∃ bytes, ext.hexDecode tx.signature = some bytes ∧ bytes.length = 64 := by
  have hdecode : ∀ key, (strkeyDecode tx.signerPublicKey "public").mapError VerifyError.strkey =
      .ok key ↔ ∃ versionByte, tx.signerPublicKey = strkeyEncode key versionByte := by
    intro key
    rw [← strkeyDecode_iff_encode]
    cases strkeyDecode tx.signerPublicKey "public" <;> simp [Except.mapError]
  have hnonempty : ∀ key versionByte, strkeyEncode key versionByte ≠ "" := by
    intro key versionByte hempty
    obtain ⟨low, -, rest, hstarts⟩ := strkeyEncode_starts key versionByte
    rw [hempty] at hstarts
    exact List.cons_ne_nil _ _ hstarts.symm
  simp only [ServerSignedTransaction.verify, bind_eq_ok_iff, failIf_eq_ok_iff, orFail_eq_ok_iff,
    not_not, hdecode, pure_eq_ok_iff]
  constructor
  · rintro ⟨valid, _, halgorithm, _, -, key, ⟨versionByte, hkey⟩, verifyingKey, hverifying, bytes,
      hbytes, _, hlength, -⟩
    exact ⟨halgorithm, ⟨key, versionByte, hkey, by rw [hverifying]; rfl⟩, bytes, hbytes, hlength⟩
  · rintro ⟨halgorithm, ⟨key, versionByte, hkey, hpoint⟩, bytes, hbytes, hlength⟩
    obtain ⟨verifyingKey, hverifying⟩ := Option.isSome_iff_exists.mp hpoint
    exact ⟨_, (), halgorithm, (), hkey ▸ hnonempty key versionByte, key, ⟨versionByte, hkey⟩,
      verifyingKey, hverifying, bytes, hbytes, (), hlength, rfl⟩

/-- Decoding keeps to the version byte of a kind on exactly the strings that are no strkeys or
start as that kind does, and verification fails for a key that is no account id exactly when the
algorithm is another, the key is no strkey of an Ed25519 point either, or the signature is not the
hexadecimal form of 64 bytes. -/
theorem kinds_separated_iff (strkey : String) (ext : Externals) (tx : ServerSignedTransaction) :
    (DecodesOnlyAs ed25519PublicVersionByte strkey "public" ↔
      (IsStrkey strkey → StartsAs 'G' strkey)) ∧
    (DecodesOnlyAs ed25519SeedVersionByte strkey "secret" ↔
      (IsStrkey strkey → StartsAs 'S' strkey)) ∧
    ((¬ IsAccountId tx.signerPublicKey → ∃ error, tx.verify ext = .error error) ↔
      ¬ (tx.algorithm = "ed25519" ∧
        (∃ key versionByte, tx.signerPublicKey = strkeyEncode key versionByte ∧
          ¬ StartsAs 'G' tx.signerPublicKey ∧ (ext.fromBytes key).isSome) ∧
        ∃ bytes, ext.hexDecode tx.signature = some bytes ∧ bytes.length = 64)) := by
  refine ⟨?_, ?_, ?_⟩
  · exact @decodesOnlyAs_iff 6 (by decide) _ rfl strkey "public"
  · exact @decodesOnlyAs_iff 18 (by decide) _ rfl strkey "secret"
  · have herror : (∃ error, tx.verify ext = .error error) ↔
        ¬ ∃ valid, tx.verify ext = .ok valid := by
      cases tx.verify ext <;> simp
    rw [herror, not_imp_not, verify_eq_ok_iff]
    constructor
    · rintro haccount ⟨halgorithm, ⟨key, versionByte, hkey, hstarts, hpoint⟩, hsignature⟩
      have hvalid := haccount ⟨halgorithm, ⟨key, versionByte, hkey, hpoint⟩, hsignature⟩
      exact hstarts (isAccountId_iff.mp hvalid).2
    · rintro hseparated ⟨halgorithm, ⟨key, versionByte, hkey, hpoint⟩, hsignature⟩
      refine isAccountId_iff.mpr ⟨⟨key, versionByte, hkey⟩, ?_⟩
      by_contra hstarts
      exact hseparated ⟨halgorithm, ⟨key, versionByte, hkey, hstarts, hpoint⟩, hsignature⟩

/-! ### A seed in the place of a public key -/

/-- Key bytes that are a point of the curve. -/
def Sample.point : Key :=
  ⟨[0x3d, 0x40, 0x17, 0xc3, 0xe8, 0x43, 0x89, 0x5a, 0x92, 0xb7, 0x0a, 0xa7, 0x4d, 0x1b, 0x7e, 0xbc,
    0x9c, 0x98, 0x2c, 0xcf, 0x2e, 0xc4, 0x96, 0x8c, 0xc0, 0xcd, 0x55, 0xf1, 0x2a, 0xf4, 0x66, 0x0c],
    rfl⟩

/-- The signature of the message `r` under that key. -/
def Sample.signature : List Byte :=
  [0x92, 0xa0, 0x09, 0xa9, 0xf0, 0xd4, 0xca, 0xb8, 0x72, 0x0e, 0x82, 0x0b, 0x5f, 0x64, 0x25, 0x40,
    0xa2, 0xb2, 0x7b, 0x54, 0x16, 0x50, 0x3f, 0x8f, 0xb3, 0x76, 0x22, 0x23, 0xeb, 0xdb, 0x69, 0xda,
    0x08, 0x5a, 0xc1, 0xe4, 0x3e, 0x15, 0x99, 0x6e, 0x45, 0x8f, 0x36, 0x13, 0xd0, 0xf1, 0x1d, 0x8c,
    0x38, 0x7b, 0x2e, 0xae, 0xb4, 0x30, 0x2a, 0xee, 0xb0, 0x0d, 0x29, 0x16, 0x12, 0xbb, 0x0c, 0x00]

/-- The signed transaction, with the seed strkey of the key bytes in the place of its account
id. -/
def Sample.seedSigned : ServerSignedTransaction where
  transactionXdr := "r"
  signature := "92a009a9f0d4cab8720e820b5f642540a2b27b5416503f8fb3762223ebdb69da" ++
    "085ac1e43e15996e458f3613d0f11d8c387b2eaeb4302aeeb00d291612bb0c00"
  algorithm := "ed25519"
  signerPublicKey := "SA6UAF6D5BBYSWUSW4FKOTI3P26JZGBMZ4XMJFUMYDGVL4JK6RTAYCEI"

/-- The libraries, as they behave on that key, message and signature. -/
def Sample.externals : Externals where
  VerifyingKey := Key
  fromBytes key := some key
  verify key message signature :=
    key = Sample.point ∧ message = "r" ∧ signature = Sample.signature
  hexDecode text := if text = Sample.seedSigned.signature then some Sample.signature else none

/-- A seed decodes as a public key, and a signature under it verifies. -/
theorem seed_passes_as_public :
    strkeyDecode Sample.seedSigned.signerPublicKey "public" = .ok Sample.point ∧
    ¬ DecodesOnlyAs ed25519PublicVersionByte Sample.seedSigned.signerPublicKey "public" ∧
    ¬ IsAccountId Sample.seedSigned.signerPublicKey ∧
    Sample.seedSigned.verify Sample.externals = .ok true := by
  have hseed : Sample.seedSigned.signerPublicKey =
      strkeyEncode Sample.point ed25519SeedVersionByte := by decide +kernel
  have hstarts : ¬ StartsAs 'G' Sample.seedSigned.signerPublicKey := by
    rw [hseed]
    exact (@startsAs_iff 6 (by decide) _ _).not.mpr (by decide)
  have hstrkey : IsStrkey Sample.seedSigned.signerPublicKey := ⟨_, _, hseed⟩
  refine ⟨by decide +kernel, fun hdecodes ↦ ?_, fun haccount ↦ ?_, by decide +kernel⟩
  · exact hstarts ((@decodesOnlyAs_iff 6 (by decide) _ rfl _ "public").mp hdecodes hstrkey)
  · exact hstarts (isAccountId_iff.mp haccount).2

end OrbitChain.Tools.Strkey
