import OrbitChain.Tools.KeyManager
import OrbitChain.Tools.ServerSigning
import OrbitChain.Tools.StrkeyErrors

/-!
# Signed requests

A signing request is signed with a secret seed, and the signed transaction carries the account id
of the signer. The signing half of Ed25519 and the hexadecimal encoder are a parameter (`Signer`);
what is used of them is that the verifying half accepts what they make (`Signer.Lawful`). Exactly
the seeds that are strkeys and start with `S` are accepted, what is signed with them verifies, and
a signer that is mistyped in one character or in two neighbours does not (`signServerSide_verify`).
-/

set_option autoImplicit false
set_option relaxedAutoImplicit false

namespace OrbitChain.Tools.Strkey

open Foundations

/-! ### Signing -/

/-- A signing request for a transaction. -/
structure SigningRequest where
  id : String
  network : String
  transactionXdr : String
  description : String
  createdAt : ℕ

/-- A signed transaction with the fields that verification does not read. -/
structure SignedRequest extends ServerSignedTransaction where
  requestId : String
  signedAt : ℤ

/-- The signing half of the libraries. -/
structure Signer (ext : Externals) where
  verifyingKey : Key → ext.VerifyingKey
  toBytes : ext.VerifyingKey → Key
  sign : Key → (message : String) → List Byte
  hexEncode : List Byte → String

/-- Verification accepts what a seed signs, under the verifying key of the seed. -/
structure Signer.Lawful {ext : Externals} (signer : Signer ext) : Prop where
  fromBytes_toBytes : ∀ seed, ext.fromBytes (signer.toBytes (signer.verifyingKey seed)) =
    some (signer.verifyingKey seed)
  verify_sign : ∀ seed message,
    ext.verify (signer.verifyingKey seed) message (signer.sign seed message) = true
  length_sign : ∀ seed message, (signer.sign seed message).length = 64
  hexDecode_hexEncode : ∀ bytes, ext.hexDecode (signer.hexEncode bytes) = some bytes

/-- Why a request is not signed. -/
inductive SignError
  | emptySecretKey
  | invalidSecretKey (message : String)
  | strkey (error : DecodeError)

/-- Sign the transaction with a secret seed. -/
def SigningRequest.signServerSide (request : SigningRequest) {ext : Externals}
    (signer : Signer ext) (secretKey : String) (now : ℤ) : Except SignError SignedRequest := do
  failIf (secretKey = "") .emptySecretKey
  (validateSecretKey secretKey.toList).mapError .invalidSecretKey
  let seedBytes ← (strkeyDecode secretKey "secret").mapError .strkey
  pure
    { requestId := request.id
      transactionXdr := request.transactionXdr
      signature := signer.hexEncode (signer.sign seedBytes request.transactionXdr)
      algorithm := "ed25519"
      signerPublicKey :=
        strkeyEncode (signer.toBytes (signer.verifyingKey seedBytes)) ed25519PublicVersionByte
      signedAt := now }

/-! ### Keys and how they are mistyped -/

/-- One character is replaced by another, or two neighbours that differ are swapped. -/
def Mistyped (strkey mistyped : String) : Prop :=
  (∃ before c c' after, c' ≠ c ∧ strkey.toList = before ++ ([c] ++ after) ∧
    mistyped = .ofList (before ++ ([c'] ++ after))) ∨
  ∃ before c c' after, c ≠ c' ∧ strkey.toList = before ++ ([c, c'] ++ after) ∧
    mistyped = .ofList (before ++ ([c', c] ++ after))

section Keys

variable {strkey mistyped kind kind' : String} {key key' : Key}

theorem Mistyped.not_decode (h : Mistyped strkey mistyped)
    (hdecode : strkeyDecode strkey kind = .ok key) : strkeyDecode mistyped kind' ≠ .ok key' := by
  intro hdecode'
  rcases h with ⟨before, c, c', after, hne, hstrkey, rfl⟩ |
    ⟨before, c, c', after, hne, hstrkey, rfl⟩
  · rw [← String.ofList_toList (s := strkey), hstrkey] at hdecode
    exact hne (eq_of_replaced hdecode hdecode')
  · rw [← String.ofList_toList (s := strkey), hstrkey] at hdecode
    exact hne (eq_of_swapped hdecode hdecode')

theorem utf8ByteSize_of_isStrkey (h : IsStrkey strkey) : strkey.utf8ByteSize = 56 := by
  obtain ⟨key, hencode⟩ := h
  have hdecode : strkeyDecode strkey "" = .ok key := strkeyDecode_iff_encode.mpr hencode
  obtain ⟨_, hdecoded, -⟩ := bind_eq_ok_iff.mp hdecode
  obtain ⟨_, hlength, -⟩ := bind_eq_ok_iff.mp hdecoded
  exact not_not.mp (failIf_eq_ok_iff.mp hlength)

theorem ne_empty_of_isStrkey (h : IsStrkey strkey) : strkey ≠ "" := by
  rintro rfl
  exact absurd (utf8ByteSize_of_isStrkey h) (by decide)

theorem validateSecretKey_eq_ok_iff (h : IsStrkey strkey) :
    validateSecretKey strkey.toList = .ok () ↔ strkey.toList.head? = some 'S' := by
  simp [validateSecretKey, byteLength, utf8ByteSize_of_isStrkey h]

theorem validatePublicKey_of_isAccountId (h : IsAccountId strkey) :
    validatePublicKey strkey.toList = .ok () := by
  obtain ⟨hstrkey, second, -, rest, hstarts⟩ := isAccountId_iff.mp h
  have hletter : strkey.toList.head? = some 'G' := by rw [hstarts, List.head?_cons]
  simp [validatePublicKey, byteLength, utf8ByteSize_of_isStrkey hstrkey, hletter]

end Keys

/-! ### Signing and verifying -/

section Signing

variable {ext : Externals} {signer : Signer ext} {request : SigningRequest} {secretKey : String}
  {now : ℤ} {signed : SignedRequest}

theorem signServerSide_eq_ok_iff : request.signServerSide signer secretKey now = .ok signed ↔
    secretKey.toList.head? = some 'S' ∧ ∃ seed versionByte,
      secretKey = strkeyEncode seed versionByte ∧
      signed =
        { requestId := request.id
          transactionXdr := request.transactionXdr
          signature := signer.hexEncode (signer.sign seed request.transactionXdr)
          algorithm := "ed25519"
          signerPublicKey :=
            strkeyEncode (signer.toBytes (signer.verifyingKey seed)) ed25519PublicVersionByte
          signedAt := now } := by
  simp only [SigningRequest.signServerSide, bind_eq_ok_iff, failIf_eq_ok_iff, mapError_eq_ok_iff,
    strkeyDecode_iff_encode, pure_eq_ok_iff]
  constructor
  · rintro ⟨-, -, _, hvalid, seed, ⟨versionByte, hencode⟩, rfl⟩
    exact ⟨(validateSecretKey_eq_ok_iff ⟨seed, versionByte, hencode⟩).mp hvalid, seed, versionByte,
      hencode, rfl⟩
  · rintro ⟨hletter, seed, versionByte, hencode, rfl⟩
    have hstrkey : IsStrkey secretKey := ⟨seed, versionByte, hencode⟩
    exact ⟨(), ne_empty_of_isStrkey hstrkey, (), (validateSecretKey_eq_ok_iff hstrkey).mpr hletter,
      seed, ⟨versionByte, hencode⟩, rfl⟩

/-- A payload whose signer is no strkey is malformed. -/
theorem verify_error {tx : ServerSignedTransaction}
    (h : ∀ key, strkeyDecode tx.signerPublicKey "public" ≠ .ok key) :
    ∃ error, tx.verify ext = .error error := by
  cases hverify : tx.verify ext with
  | error error => exact ⟨error, rfl⟩
  | ok valid =>
    obtain ⟨-, ⟨key, versionByte, hencode, -⟩, -⟩ := verify_eq_ok_iff.mp ⟨valid, hverify⟩
    exact absurd (strkeyDecode_iff_encode.mpr ⟨versionByte, hencode⟩) (h key)

theorem verify_signed (hlawful : signer.Lawful) (seed : Key) {tx : ServerSignedTransaction}
    (halgorithm : tx.algorithm = "ed25519")
    (hsignature : tx.signature = signer.hexEncode (signer.sign seed tx.transactionXdr))
    (hpublic : tx.signerPublicKey =
      strkeyEncode (signer.toBytes (signer.verifyingKey seed)) ed25519PublicVersionByte) :
    tx.verify ext = .ok true := by
  have hdecode : strkeyDecode tx.signerPublicKey "public" =
      .ok (signer.toBytes (signer.verifyingKey seed)) :=
    strkeyDecode_iff_encode.mpr ⟨_, hpublic⟩
  have hnonempty : tx.signerPublicKey ≠ "" := ne_empty_of_isStrkey ⟨_, _, hpublic⟩
  simp [ServerSignedTransaction.verify, halgorithm, hnonempty, hdecode, hsignature, failIf, orFail,
    Except.mapError, hlawful.fromBytes_toBytes, hlawful.hexDecode_hexEncode, hlawful.length_sign,
    hlawful.verify_sign]

/-- Exactly the strkeys that start with `S` sign, and what they sign verifies and names an account
id; with that id mistyped it is no payload. -/
theorem signServerSide_verify (hlawful : signer.Lawful) (request : SigningRequest)
    (secretKey : String) (now : ℤ) :
    ((∃ signed, request.signServerSide signer secretKey now = .ok signed) ↔
      IsStrkey secretKey ∧ secretKey.toList.head? = some 'S') ∧
    ∀ signed, request.signServerSide signer secretKey now = .ok signed →
      signed.verify ext = .ok true ∧ IsAccountId signed.signerPublicKey ∧
      validatePublicKey signed.signerPublicKey.toList = .ok () ∧
      ∀ mistyped, Mistyped signed.signerPublicKey mistyped →
        ∃ error, { signed.toServerSignedTransaction with
          signerPublicKey := mistyped }.verify ext = .error error := by
  constructor
  · constructor
    · rintro ⟨signed, hsign⟩
      obtain ⟨hletter, seed, versionByte, hencode, -⟩ := signServerSide_eq_ok_iff.mp hsign
      exact ⟨⟨seed, versionByte, hencode⟩, hletter⟩
    · rintro ⟨⟨seed, versionByte, hencode⟩, hletter⟩
      exact ⟨_, signServerSide_eq_ok_iff.mpr ⟨hletter, seed, versionByte, hencode, rfl⟩⟩
  · intro signed hsign
    obtain ⟨-, seed, -, -, rfl⟩ := signServerSide_eq_ok_iff.mp hsign
    have haccount : IsAccountId (strkeyEncode (signer.toBytes (signer.verifyingKey seed))
      ed25519PublicVersionByte) := ⟨_, rfl⟩
    refine ⟨verify_signed hlawful seed rfl rfl rfl, haccount,
      validatePublicKey_of_isAccountId haccount, fun mistyped hmistyped ↦ ?_⟩
    have hdecode : strkeyDecode (strkeyEncode (signer.toBytes (signer.verifyingKey seed))
        ed25519PublicVersionByte) "public" = .ok (signer.toBytes (signer.verifyingKey seed)) :=
      strkeyDecode_iff_encode.mpr ⟨_, rfl⟩
    exact verify_error fun key ↦ hmistyped.not_decode hdecode

end Signing

/-! ### A signature -/

/-- The seed of the sample point. -/
def Sample.pointSeed : Key :=
  ⟨[0x4c, 0xcd, 0x08, 0x9b, 0x28, 0xff, 0x96, 0xda, 0x9d, 0xb6, 0xc3, 0x46, 0xec, 0x11, 0x4e, 0x0f,
    0x5b, 0x8a, 0x31, 0x9f, 0x35, 0xab, 0xa6, 0x24, 0xda, 0x8c, 0xf6, 0xed, 0x4f, 0xb8, 0xa6, 0xfb],
    rfl⟩

/-- The verifying half, as it behaves on the sample point and message. -/
def Sample.verifying : Externals where
  VerifyingKey := Key
  fromBytes key := some key
  verify key message signature :=
    if key = Sample.point ∧ message = "r" then signature = Sample.signature else true
  hexDecode text := (hexDecode text.toList).map (·.map UInt8.toBitVec)

/-- The signing half. -/
def Sample.signing : Signer Sample.verifying where
  verifyingKey seed := if seed = Sample.pointSeed then Sample.point else seed
  toBytes key := key
  sign seed message :=
    if (seed = Sample.pointSeed ∨ seed = Sample.point) ∧ message = "r" then Sample.signature
    else List.replicate 64 0
  hexEncode bytes := .ofList (hexEncode (bytes.map UInt8.ofBitVec))

theorem Sample.signing_lawful : Sample.signing.Lawful where
  fromBytes_toBytes _ := rfl
  verify_sign seed message := by
    by_cases hmessage : message = "r" <;> by_cases hseed : seed = Sample.pointSeed <;>
      by_cases hpoint : seed = Sample.point <;>
        simp [Sample.signing, Sample.verifying, hmessage, hseed, hpoint]
  length_sign seed message := by
    unfold Sample.signing
    dsimp only
    split_ifs <;> rfl
  hexDecode_hexEncode bytes := by
    have hbytes : UInt8.toBitVec ∘ UInt8.ofBitVec = id := rfl
    simp [Sample.signing, Sample.verifying, hbytes]

def Sample.request : SigningRequest := ⟨"req_0", "testnet", "r", "", 0⟩

def Sample.pointSecret : String := "SBGM2CE3FD7ZNWU5W3BUN3ARJYHVXCRRT422XJRE3KGPN3KPXCTPXJAU"

/-- The sample seed signs the sample message. -/
theorem signServerSide_verify_point :
    ∃ signed, Sample.request.signServerSide Sample.signing Sample.pointSecret 0 = .ok signed ∧
      signed.verify Sample.verifying = .ok true := by
  obtain ⟨haccepts, hverifies⟩ :=
    signServerSide_verify Sample.signing_lawful Sample.request Sample.pointSecret 0
  obtain ⟨signed, hsigned⟩ := haccepts.mpr
    ⟨⟨Sample.pointSeed, ed25519SeedVersionByte, by decide +kernel⟩, by decide +kernel⟩
  exact ⟨signed, hsigned, (hverifies signed hsigned).1⟩

end OrbitChain.Tools.Strkey
