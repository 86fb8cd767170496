import OrbitChain.Foundations.CaseConversion
import OrbitChain.Foundations.TextLines
import OrbitChain.Foundations.TextParts
import OrbitChain.Foundations.TransitionRuns
import OrbitChain.Tools.KeyManager
import Mathlib.Data.Finmap

/-!
# The encrypted vault

A vault maps names to encrypted secret keys and names to public keys. It is saved as lines
`NAME=key` and `NAME_ENCRYPTED=key` under comments, with the names in upper case and the entries in
whatever order the hash maps are iterated, and loaded by cutting each line at its first equals sign
and converting the name to lower case. The case tables are those of `CaseTables`.
-/

set_option autoImplicit false
set_option relaxedAutoImplicit false

namespace OrbitChain.Tools

open Foundations

abbrev HashMap := Finmap fun _ : Text ↦ Text

/-- The entries of a hash map in the order of an iteration. -/
abbrev IterationOrder := AList fun _ : Text ↦ Text

structure EncryptedVault where
  keyManager : Option KeyManager
  /-- Encrypted keys as hexadecimal strings. -/
  encryptedKeys : HashMap
  publicKeys : HashMap

namespace EncryptedVault

/-- An empty vault without a master password. -/
def new : EncryptedVault := ⟨none, ∅, ∅⟩

/-- A hash map with the value of a name, if there is one. -/
def insertFound (map : HashMap) (keyName : String) (value : Option String) : HashMap :=
  match value with
  | some value => map.insert keyName.toList value.toList
  | none => map

section Keys

variable (crypto : Crypto)

/-- An empty vault with a master password. -/
def withPassword (password : Text) : Except String EncryptedVault := do
  let keyManager ← KeyManager.fromPassword crypto password
  pure ⟨some keyManager, ∅, ∅⟩

/-- A vault with the keys that the environment has. -/
def fromEnv (env : String → Option String) : Except String EncryptedVault := do
  let masterPassword := (env "VAULT_MASTER_PASSWORD").or (env "VAULT_MASTER_KEY")
  let vault ← match masterPassword with
    | some password => withPassword crypto password.toList
    | none => pure new
  let publicKeys := insertFound vault.publicKeys "admin_public_key" (env "SOROBAN_ADMIN_PUBLIC_KEY")
  let publicKeys := insertFound publicKeys "issuing_public_key" (env "SOROBAN_ISSUING_PUBLIC_KEY")
  let encryptedKeys := insertFound vault.encryptedKeys "admin_secret_key"
    (env "SOROBAN_ADMIN_SECRET_KEY_ENCRYPTED")
  let encryptedKeys := insertFound encryptedKeys "issuing_secret_key"
    (env "SOROBAN_ISSUING_SECRET_KEY_ENCRYPTED")
  pure { vault with publicKeys := publicKeys, encryptedKeys := encryptedKeys }

variable (vault : EncryptedVault)

/-- Store a secret key, encrypted with the nonce that was drawn. -/
def storeSecretKey (nonce : Nonce) (keyName secretKey : Text) : Except String EncryptedVault := do
  validateSecretKey secretKey
  let keyManager ← orFail vault.keyManager
    "Vault key manager not initialized. Call with_password() first."
  let encryptedHex ← keyManager.exportEncrypted crypto nonce secretKey
  pure { vault with encryptedKeys := vault.encryptedKeys.insert keyName encryptedHex }

/-- Retrieve and decrypt a secret key. -/
def retrieveSecretKey (keyName : Text) : Except String Text := do
  let encryptedHex ← orFail (vault.encryptedKeys.lookup keyName)
    ("Key '" ++ String.ofList keyName ++ "' not found in vault")
  let keyManager ← orFail vault.keyManager
    "Vault key manager not initialized. Cannot decrypt keys."
  let encrypted ← KeyManager.importEncrypted crypto encryptedHex
  keyManager.decryptKey crypto encrypted

def storePublicKey (keyName publicKey : Text) : Except String EncryptedVault := do
  validatePublicKey publicKey
  pure { vault with publicKeys := vault.publicKeys.insert keyName publicKey }

def retrievePublicKey (keyName : Text) : Except String Text :=
  orFail (vault.publicKeys.lookup keyName)
    ("Public key '" ++ String.ofList keyName ++ "' not found in vault")

end Keys

/-! ### The file -/

section File

variable (tables : CaseTables)

def publicLine (entry : Σ _ : Text, Text) : Text :=
  tables.toUppercase entry.1 ++ "=".toList ++ entry.2

def encryptedLine (entry : Σ _ : Text, Text) : Text :=
  tables.toUppercase entry.1 ++ "_ENCRYPTED=".toList ++ entry.2

/-- What is written to the file when the hash maps are iterated in some orders. -/
def saveToFile (publicOrder encryptedOrder : IterationOrder) : ByteArray :=
  toUtf8 <|
    "# Encrypted Vault Configuration\n".toList ++
    "# WARNING: Keep this file secure!\n\n".toList ++
    "# Public Keys (unencrypted)\n".toList ++
    publicOrder.entries.flatMap (fun entry ↦ publicLine tables entry ++ "\n".toList) ++
    "\n# Encrypted Secret Keys\n".toList ++
    encryptedOrder.entries.flatMap (fun entry ↦ encryptedLine tables entry ++ "\n".toList)

/-- The end of the names of encrypted keys. -/
def encryptedSuffix : Text := "_encrypted".toList

/-- Read one line into a vault. -/
def loadLine (vault : EncryptedVault) (line : Text) : EncryptedVault :=
  if line.head? = some '#' ∨ isBlank line = true then vault
  else
    match splitOnce '=' line with
    | none => vault
    | some (before, value) =>
      let keyName := tables.toLowercase before
      if encryptedSuffix <:+ keyName then
        let name := trimEndMatches encryptedSuffix keyName
        { vault with encryptedKeys := vault.encryptedKeys.insert name value }
      else { vault with publicKeys := vault.publicKeys.insert keyName value }

/-- Load a vault from what a file holds. -/
def loadFromFile (crypto : Crypto) (bytes : ByteArray) (password : Text) :
    Except String EncryptedVault := do
  let content ← orFail (readToString bytes) "Failed to read vault file"
  let vault ← withPassword crypto password
  pure ((lines '\n' '\r' content).foldl (loadLine tables) vault)

end File

end EncryptedVault

/-! ### A vault in use -/

/-- What is done to a vault before it is saved. -/
inductive StoreCall
  | storeSecretKey (nonce : Nonce) (keyName secretKey : Text)
  | storePublicKey (keyName publicKey : Text)

def vaultSystem (crypto : Crypto) : System StoreCall EncryptedVault String where
  exec call vault :=
    match call with
    | .storeSecretKey nonce keyName secretKey =>
      vault.storeSecretKey crypto nonce keyName secretKey
    | .storePublicKey keyName publicKey => vault.storePublicKey keyName publicKey

end OrbitChain.Tools
