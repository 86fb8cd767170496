import OrbitChain.Tools.VaultLines

/-!
# What comes back from a vault file

The whole vault comes back from its file exactly when no name is changed by case conversion and
trimming, none is cut at an equals sign or a newline or taken for a comment, and no public key is
cut at the end of its line (`vault_roundTrips_iff`). The encrypted keys are hexadecimal strings, so
they always stay whole.
-/

set_option autoImplicit false
set_option relaxedAutoImplicit false

namespace OrbitChain.Tools

open Foundations

namespace EncryptedVault

/-! ### What is loaded -/

section Loading

variable {tables : CaseTables} {publicOrder encryptedOrder : IterationOrder} {line : Text}

/-- A name that comes back. -/
structure PlainName (tables : CaseTables) (name : Text) : Prop where
  equals_notMem : '=' ∉ name
  newline_notMem : '\n' ∉ name
  not_comment : name.head? ≠ some '#'
  not_suffix : ¬ encryptedSuffix <:+ name
  fold_eq : tables.fold name = name

/-- A key that comes back. -/
structure PlainValue (value : Text) : Prop where
  newline_notMem : '\n' ∉ value
  getLast_ne : value.getLast? ≠ some '\r'

theorem classify_prefix (keyName : Text) : (classify keyName).2 <+: keyName := by
  unfold classify
  split_ifs
  · obtain ⟨times, htimes⟩ := trimEndMatches_spec encryptedSuffix keyName
    exact ⟨_, htimes.symm⟩
  · exact List.prefix_refl _

/-- What a line can write. -/
structure Written (entry : (KeyKind × Text) × Text) : Prop where
  equals_notMem : '=' ∉ entry.1.2
  newline_notMem : '\n' ∉ entry.1.2
  not_comment : entry.1.2.head? ≠ some '#'
  value_newline_notMem : '\n' ∉ entry.2

theorem written_of_parseLine {entry : (KeyKind × Text) × Text} (hline : '\n' ∉ line)
    (h : parseLine tables line = some entry) : Written entry := by
  unfold parseLine at h
  split_ifs at h with hskip
  obtain ⟨⟨before, value⟩, hsplit, rfl⟩ := Option.map_eq_some_iff.mp h
  obtain ⟨rfl, hequals⟩ := splitOnce_eq_some_iff.mp hsplit
  have hcut := classify_prefix (tables.toLowercase before)
  rw [List.mem_append, List.mem_cons, not_or, not_or] at hline
  refine ⟨fun hmem ↦ hequals ?_, fun hmem ↦ hline.1 ?_, fun hhead ↦ hskip (.inl ?_), hline.2.2⟩
  · exact (CaseTables.mem_toLowercase_iff (by decide)).mp (hcut.subset hmem)
  · exact (CaseTables.mem_toLowercase_iff (by decide)).mp (hcut.subset hmem)
  · obtain ⟨rest, hrest⟩ := hcut
    have hlower : (tables.toLowercase before).head? = some '#' := by
      rw [← hrest, List.head?_append, hhead]
      rfl
    rw [List.head?_append, (CaseTables.head?_toLowercase_iff (by decide)).mp hlower]
    rfl

/-- What is read back from a file when all names and keys stay on their lines. -/
theorem filterMap_lines (h : ∀ entry ∈ fileEntries publicOrder encryptedOrder, Written entry) :
    (lines '\n' '\r' (unlines '\n' (fileLines tables publicOrder encryptedOrder))).filterMap
        (parseLine tables) =
      (fileEntries publicOrder encryptedOrder).map fun entry ↦
        (filedKey tables entry.1, stripReturn '\r' entry.2) := by
  have hlabel (kind : KeyKind) : '\n' ∉ writtenSuffix kind := by cases kind <;> decide +kernel
  have hnewline : ∀ line ∈ fileLines tables publicOrder encryptedOrder, '\n' ∉ line := by
    rw [fileEntries, List.forall_mem_append] at h
    have hentries {entries : List ((KeyKind × Text) × Text)}
        (h : ∀ entry ∈ entries, Written entry) :
        ∀ line ∈ entries.map (entryLine tables), '\n' ∉ line := by
      intro line hline
      obtain ⟨entry, hentry, rfl⟩ := List.mem_map.mp hline
      rw [entryLine, List.mem_append, List.mem_append, List.mem_cons, not_or, not_or, not_or,
        CaseTables.mem_toUppercase_iff (by decide)]
      exact ⟨⟨(h entry hentry).newline_notMem, hlabel _⟩, by decide,
        (h entry hentry).value_newline_notMem⟩
    rw [fileLines_eq, List.forall_mem_append, List.forall_mem_append, List.forall_mem_append]
    exact ⟨⟨⟨by decide +kernel, hentries h.1⟩, by decide +kernel⟩, hentries h.2⟩
  rw [lines_unlines_stripReturn hnewline]
  exact filterMap_fileLines fun entry hentry ↦
    ⟨(h entry hentry).equals_notMem, (h entry hentry).not_comment⟩

/-- The keys of a file are those that were saved when all of them are plain, and only then. -/
theorem updateAll_lines_eq_iff {m : KeyKind × Text → Option Text}
    (hlists : Lists (fileEntries publicOrder encryptedOrder) m) :
    updateAll (fun _ ↦ none) ((lines '\n' '\r' (unlines '\n'
        (fileLines tables publicOrder encryptedOrder))).filterMap (parseLine tables)) = m ↔
      ∀ entry ∈ fileEntries publicOrder encryptedOrder,
        PlainName tables entry.1.2 ∧ PlainValue entry.2 := by
  constructor
  · intro hback
    have hwritten : ∀ entry ∈ fileEntries publicOrder encryptedOrder, Written entry := by
      rintro ⟨key, value⟩ hentry
      have hread := (hlists.mem_iff key value).mp hentry
      rw [← hback] at hread
      obtain ⟨line, hline, hparse⟩ := List.mem_filterMap.mp (mem_of_updateAll_none hread)
      exact written_of_parseLine (newline_notMem_of_mem_lines hline) hparse
    rw [filterMap_lines hwritten,
      hlists.updateAll_map_eq_iff filedKey_filedKey_filedKey] at hback
    intro entry hentry
    obtain ⟨hkey, hvalue⟩ := hback entry hentry
    obtain ⟨hfold, hsuffix⟩ := filedKey_eq_self_iff.mp hkey
    have hfacts := hwritten entry hentry
    exact ⟨⟨hfacts.equals_notMem, hfacts.newline_notMem, hfacts.not_comment, hsuffix, hfold⟩,
      hfacts.value_newline_notMem, stripReturn_eq_self_iff.mp hvalue⟩
  · intro hplain
    have hwritten : ∀ entry ∈ fileEntries publicOrder encryptedOrder, Written entry :=
      fun entry hentry ↦
        have hname := (hplain entry hentry).1
        ⟨hname.equals_notMem, hname.newline_notMem, hname.not_comment,
          (hplain entry hentry).2.newline_notMem⟩
    rw [filterMap_lines hwritten, hlists.updateAll_map_eq_iff filedKey_filedKey_filedKey]
    intro entry hentry
    obtain ⟨hname, hvalue⟩ := hplain entry hentry
    exact ⟨filedKey_eq_self_iff.mpr ⟨hname.fold_eq, hname.not_suffix⟩,
      stripReturn_eq_self_iff.mpr hvalue.getLast_ne⟩

end Loading

/-! ### A vault in use -/

/-- Retrieve a key of either kind. -/
def retrieve (crypto : Crypto) (vault : EncryptedVault) (key : KeyKind × Text) :
    Except String Text :=
  match key.1 with
  | .publicKey => vault.retrievePublicKey key.2
  | .secretKey => vault.retrieveSecretKey crypto key.2

/-- The key that was last stored under a name. -/
def latest (key : KeyKind × Text) (history : List (Receipt StoreCall EncryptedVault)) :
    Option Text :=
  history.findSome? fun r ↦
    match r.label with
    | .storeSecretKey _ keyName secretKey =>
      if (KeyKind.secretKey, keyName) = key then some secretKey else none
    | .storePublicKey keyName publicKey =>
      if (KeyKind.publicKey, keyName) = key then some publicKey else none

section InUse

variable {crypto : Crypto} {tables : CaseTables} {password keyName secretKey publicKey : Text}
  {start vault next : EncryptedVault} {nonce : Nonce} {key : KeyKind × Text} {value : Text}
  {history : List (Receipt StoreCall EncryptedVault)}

theorem storeSecretKey_spec (h : vault.storeSecretKey crypto nonce keyName secretKey = .ok next) :
    ∃ manager encryptedHex, vault.keyManager = some manager ∧
      manager.exportEncrypted crypto nonce secretKey = .ok encryptedHex ∧
      next = vaultStore.write vault (.secretKey, keyName) encryptedHex := by
  simp only [storeSecretKey, bind_eq_ok_iff, orFail_eq_ok_iff, pure_eq_ok_iff] at h
  obtain ⟨_, -, manager, hmanager, encryptedHex, hexport, rfl⟩ := h
  exact ⟨manager, encryptedHex, hmanager, hexport, rfl⟩

theorem storePublicKey_spec (h : vault.storePublicKey keyName publicKey = .ok next) :
    next = vaultStore.write vault (.publicKey, keyName) publicKey := by
  simp only [storePublicKey, bind_eq_ok_iff, pure_eq_ok_iff] at h
  obtain ⟨_, -, rfl⟩ := h
  rfl

@[simp] theorem keyManager_write : (vaultStore.write vault key value).keyManager =
    vault.keyManager := by
  obtain ⟨kind, name⟩ := key
  cases kind <;> rfl

/-- A key is retrieved from what the vault holds under its kind and name. -/
theorem retrieve_congr {vault' : EncryptedVault} (hmanager : vault.keyManager = vault'.keyManager)
    (hread : vaultStore.read vault key = vaultStore.read vault' key) :
    vault.retrieve crypto key = vault'.retrieve crypto key := by
  obtain ⟨kind, name⟩ := key
  cases kind with
  | publicKey =>
    have hlookup : vault.publicKeys.lookup name = vault'.publicKeys.lookup name := hread
    rw [retrieve, retrieve, retrievePublicKey, retrievePublicKey, hlookup]
  | secretKey =>
    have hlookup : vault.encryptedKeys.lookup name = vault'.encryptedKeys.lookup name := hread
    rw [retrieve, retrieve, retrieveSecretKey, retrieveSecretKey, hlookup, hmanager]

theorem retrieve_write_of_ne {other : KeyKind × Text} (h : other ≠ key) :
    (vaultStore.write vault key value).retrieve crypto other = vault.retrieve crypto other :=
  retrieve_congr keyManager_write (by
    rw [vaultStore_actsAsMap, Function.update_of_ne h])

/-- The vault holds the keys that were last stored, and its encrypted keys are hexadecimal
strings. -/
structure InUse (crypto : Crypto) (password : Text)
    (history : List (Receipt StoreCall EncryptedVault)) (vault : EncryptedVault) : Prop where
  keyManager_eq : vault.keyManager = some ⟨crypto.sha256 (asBytes password)⟩
  retrieve_eq : ∀ key value, latest key history = some value → vault.retrieve crypto key = .ok value
  encrypted_plain : ∀ name encryptedHex,
    vault.encryptedKeys.lookup name = some encryptedHex → PlainValue encryptedHex

theorem plainValue_of_exportEncrypted {manager : KeyManager} {encryptedHex : Text}
    (h : manager.exportEncrypted crypto nonce secretKey = .ok encryptedHex) :
    PlainValue encryptedHex where
  newline_notMem hmem := absurd (KeyManager.mem_exportEncrypted h hmem) (by decide +kernel)
  getLast_ne hlast :=
    absurd (KeyManager.mem_exportEncrypted h (List.mem_of_getLast? hlast)) (by decide +kernel)

theorem inUse_start (hstart : withPassword crypto password = .ok start) :
    InUse crypto password [] start := by
  simp only [withPassword, KeyManager.fromPassword, bind_eq_ok_iff, pure_eq_ok_iff] at hstart
  obtain ⟨manager, rfl, rfl⟩ := hstart
  exact ⟨rfl, by simp [latest], by simp⟩

theorem InUse.storeSecretKey (h : InUse crypto password history vault)
    (hstep : vault.storeSecretKey crypto nonce keyName secretKey = .ok next) :
    InUse crypto password (⟨.storeSecretKey nonce keyName secretKey, vault, next⟩ :: history)
      next := by
  obtain ⟨manager, encryptedHex, hmanager, hexport, rfl⟩ := storeSecretKey_spec hstep
  refine ⟨by rw [keyManager_write, h.keyManager_eq], fun key value hlatest ↦ ?_,
    fun name hex hlookup ↦ ?_⟩
  · rw [latest, List.findSome?_cons] at hlatest
    by_cases hkey : (KeyKind.secretKey, keyName) = key
    · subst hkey
      obtain rfl : secretKey = value := by simpa using hlatest
      simp only [retrieve, retrieveSecretKey, vaultStore, Finmap.lookup_insert, hmanager, orFail,
        ok_bind]
      exact KeyManager.importEncrypted_exportEncrypted hexport
    · rw [retrieve_write_of_ne (Ne.symm hkey)]
      refine h.retrieve_eq key value ?_
      simpa [hkey, latest] using hlatest
  · simp only [vaultStore, lookup_insert_eq_update] at hlookup
    split_ifs at hlookup
    · cases hlookup
      exact plainValue_of_exportEncrypted hexport
    · exact h.encrypted_plain name hex hlookup

theorem InUse.storePublicKey (h : InUse crypto password history vault)
    (hstep : vault.storePublicKey keyName publicKey = .ok next) :
    InUse crypto password (⟨.storePublicKey keyName publicKey, vault, next⟩ :: history) next := by
  obtain rfl := storePublicKey_spec hstep
  refine ⟨by rw [keyManager_write, h.keyManager_eq], fun key value hlatest ↦ ?_,
    fun name hex hlookup ↦ h.encrypted_plain name hex hlookup⟩
  rw [latest, List.findSome?_cons] at hlatest
  by_cases hkey : (KeyKind.publicKey, keyName) = key
  · subst hkey
    obtain rfl : publicKey = value := by simpa using hlatest
    simp only [retrieve, retrievePublicKey, vaultStore, Finmap.lookup_insert, orFail]
  · rw [retrieve_write_of_ne (Ne.symm hkey)]
    refine h.retrieve_eq key value ?_
    simpa [hkey, latest] using hlatest

theorem inUse_of_run (hstart : withPassword crypto password = .ok start)
    (run : Run (vaultSystem crypto) start history vault) : InUse crypto password history vault := by
  refine run.invariant (inUse_start hstart) fun history vault call next _ ih hstep ↦ ?_
  cases call with
  | storeSecretKey nonce keyName secretKey => exact ih.storeSecretKey hstep
  | storePublicKey keyName publicKey => exact ih.storePublicKey hstep

end InUse

/-! ### Round trips -/

/-- In whatever orders the hash maps are iterated, loading what is saved succeeds with the same
maps, and every key can be retrieved under the name it was last stored with. -/
def RoundTrips (crypto : Crypto) (tables : CaseTables) (password : Text)
    (history : List (Receipt StoreCall EncryptedVault)) (vault : EncryptedVault) : Prop :=
  ∀ publicOrder encryptedOrder : IterationOrder,
    publicOrder.toFinmap = vault.publicKeys → encryptedOrder.toFinmap = vault.encryptedKeys →
    ∃ loaded, loadFromFile tables crypto (saveToFile tables publicOrder encryptedOrder) password =
        .ok loaded ∧
      loaded.encryptedKeys = vault.encryptedKeys ∧ loaded.publicKeys = vault.publicKeys ∧
      ∀ key value, latest key history = some value → loaded.retrieve crypto key = .ok value

/-- All names are plain, and so are the public keys. -/
def Plain (tables : CaseTables) (vault : EncryptedVault) : Prop :=
  (∀ name publicKey, vault.publicKeys.lookup name = some publicKey →
    PlainName tables name ∧ PlainValue publicKey) ∧
  ∀ name encryptedHex, vault.encryptedKeys.lookup name = some encryptedHex → PlainName tables name

section RoundTrip

variable {crypto : Crypto} {tables : CaseTables} {password : Text} {start vault : EncryptedVault}
  {publicOrder encryptedOrder : IterationOrder}
  {history : List (Receipt StoreCall EncryptedVault)}

theorem keyManager_foldl_loadLine (vault : EncryptedVault) (ls : List Text) :
    (ls.foldl (loadLine tables) vault).keyManager = vault.keyManager := by
  induction ls generalizing vault with
  | nil => rfl
  | cons line rest ih =>
    rw [List.foldl_cons, ih, loadLine_eq]
    cases parseLine tables line with
    | none => rfl
    | some entry => exact keyManager_write

/-- Loading what was saved succeeds, with what the lines say. -/
theorem loadFromFile_saveToFile (publicOrder encryptedOrder : IterationOrder) :
    ∃ loaded, loadFromFile tables crypto (saveToFile tables publicOrder encryptedOrder) password =
        .ok loaded ∧
      loaded.keyManager = some ⟨crypto.sha256 (asBytes password)⟩ ∧
      vaultStore.read loaded = updateAll (fun _ ↦ none) ((lines '\n' '\r' (unlines '\n'
        (fileLines tables publicOrder encryptedOrder))).filterMap (parseLine tables)) := by
  have hempty : vaultStore.read ⟨some ⟨crypto.sha256 (asBytes password)⟩, ∅, ∅⟩ =
      fun _ ↦ none := by
    ext1 ⟨kind, name⟩
    cases kind <;> rfl
  refine ⟨(lines '\n' '\r' (unlines '\n' (fileLines tables publicOrder encryptedOrder))).foldl
    (loadLine tables) ⟨some ⟨crypto.sha256 (asBytes password)⟩, ∅, ∅⟩, ?_, ?_, ?_⟩
  · rw [loadFromFile, saveToFile_eq, readToString_toUtf8]
    rfl
  · rw [keyManager_foldl_loadLine]
  · rw [read_foldl_loadLine, hempty]

theorem InUse.plain_iff (h : InUse crypto password history vault)
    (hpublic : publicOrder.toFinmap = vault.publicKeys)
    (hencrypted : encryptedOrder.toFinmap = vault.encryptedKeys) :
    (∀ entry ∈ fileEntries publicOrder encryptedOrder,
      PlainName tables entry.1.2 ∧ PlainValue entry.2) ↔ Plain tables vault := by
  have hlists := lists_fileEntries hpublic hencrypted
  constructor
  · intro hplain
    constructor
    · intro name publicKey hlookup
      exact hplain ((.publicKey, name), publicKey) ((hlists.mem_iff _ _).mpr hlookup)
    · intro name encryptedHex hlookup
      exact (hplain ((.secretKey, name), encryptedHex) ((hlists.mem_iff _ _).mpr hlookup)).1
  · rintro hplain ⟨⟨kind, name⟩, value⟩ hentry
    have hread := (hlists.mem_iff _ _).mp hentry
    cases kind with
    | publicKey => exact hplain.1 name value hread
    | secretKey => exact ⟨hplain.2 name value hread, h.encrypted_plain name value hread⟩

theorem exists_order (map : HashMap) : ∃ order : IterationOrder, order.toFinmap = map :=
  Finmap.induction_on map fun order ↦ ⟨order, rfl⟩

theorem InUse.roundTrips_iff (huse : InUse crypto password history vault) :
    RoundTrips crypto tables password history vault ↔ Plain tables vault := by
  constructor
  · intro hround
    obtain ⟨publicOrder, hpublic⟩ := exists_order vault.publicKeys
    obtain ⟨encryptedOrder, hencrypted⟩ := exists_order vault.encryptedKeys
    obtain ⟨loaded, hload, hencryptedKeys, hpublicKeys, -⟩ :=
      hround publicOrder encryptedOrder hpublic hencrypted
    obtain ⟨loaded', hload', -, hread⟩ :=
      @loadFromFile_saveToFile crypto tables password publicOrder encryptedOrder
    obtain rfl : loaded = loaded' := Except.ok.inj (hload.symm.trans hload')
    rw [read_eq_of_maps_eq hencryptedKeys hpublicKeys] at hread
    have hlists := lists_fileEntries hpublic hencrypted
    exact (huse.plain_iff hpublic hencrypted).mp ((updateAll_lines_eq_iff hlists).mp hread.symm)
  · intro hplain publicOrder encryptedOrder hpublic hencrypted
    obtain ⟨loaded, hload, hmanager, hread⟩ :=
      @loadFromFile_saveToFile crypto tables password publicOrder encryptedOrder
    have hlists := lists_fileEntries hpublic hencrypted
    rw [(updateAll_lines_eq_iff hlists).mpr ((huse.plain_iff hpublic hencrypted).mpr hplain)]
      at hread
    obtain ⟨hencryptedKeys, hpublicKeys⟩ := maps_eq_of_read_eq hread
    refine ⟨loaded, hload, hencryptedKeys, hpublicKeys, fun key value hlatest ↦ ?_⟩
    rw [retrieve_congr (hmanager.trans huse.keyManager_eq.symm) (congrFun hread key)]
    exact huse.retrieve_eq key value hlatest

end RoundTrip

namespace Sample

def password : Text := "test_password".toList

/-- The SHA-256 digest of the password. -/
def masterKey : MasterKey :=
  ⟨#[0x10, 0xa6, 0xe6, 0xcc, 0x83, 0x11, 0xa3, 0xe2, 0xbc, 0xc0, 0x9b, 0xf6, 0xc1, 0x99, 0xad,
    0xec, 0xd5, 0xdd, 0x59, 0x40, 0x8c, 0x34, 0x3e, 0x92, 0x6b, 0x12, 0x9c, 0x49, 0x14, 0xf3,
    0xcb, 0x01], rfl⟩

def nonce : Nonce := ⟨#[0, 1, 2, 3, 4, 5, 6, 7, 8, 9, 10, 11], rfl⟩

def secretKey : Text := "SAVCUKRKFIVCUKRKFIVCUKRKFIVCUKRKFIVCUKRKFIVCUKRKFIVCVLG5".toList

/-- The secret key encrypted with AES-256-GCM. -/
def ciphertext : Bytes :=
  [0x5d, 0xfa, 0x57, 0x42, 0xc7, 0xc8, 0x72, 0xe5, 0x22, 0x1d, 0x96, 0x63, 0x2f, 0x7a, 0xf1,
    0xea, 0x66, 0x12, 0x21, 0x3b, 0xbe, 0xbe, 0x3c, 0x88, 0xa5, 0x5a, 0xc9, 0xf4, 0x40, 0xc5,
    0x9d, 0x66, 0x3f, 0xcb, 0x63, 0xb7, 0x07, 0xe5, 0x02, 0xdf, 0x4c, 0x17, 0x5d, 0xdb, 0x77,
    0x5b, 0xd4, 0xec, 0x5c, 0x6b, 0xde, 0x7e, 0x30, 0xab, 0xd3, 0x67, 0x94, 0x59, 0x65, 0x8d,
    0x89, 0x1d, 0x1b, 0xf7, 0x0c, 0xa2, 0x65, 0x72, 0xbe, 0x7d, 0x8a, 0xca]

/-- The digest of the password, and the encryption of the secret key under it. -/
def crypto : Crypto where
  sha256 _ := masterKey
  encrypt key n plaintext :=
    if key = masterKey ∧ n = nonce ∧ plaintext = asBytes secretKey then some ciphertext else none
  decrypt key n c :=
    if key = masterKey ∧ n = nonce ∧ c = ciphertext then some (asBytes secretKey) else none
  hexEncode := hexEncode
  hexDecode := hexDecode
  decrypt_encrypt key n plaintext c h := by
    obtain ⟨⟨rfl, rfl, rfl⟩, rfl⟩ : (key = masterKey ∧ n = nonce ∧ plaintext = asBytes secretKey) ∧
        ciphertext = c := by simpa using h
    exact if_pos ⟨rfl, rfl, rfl⟩
  mem_hexEncode _ _ := mem_hexEncode
  hexDecode_hexEncode := hexDecode_hexEncode

def publicKey : Text := "GAMX62ZD4FWIKMWGVPEDR6WNL2TYTPQMO2ZJEAZUAON7VCZ5G2GWDF7W".toList

def start : EncryptedVault := ⟨some ⟨masterKey⟩, ∅, ∅⟩

def secretName : Text := "admin_secret_key".toList

def publicName : Text := "admin_public_key".toList

/-- A vault with a secret key. -/
def secretVault : EncryptedVault :=
  vaultStore.write start (.secretKey, secretName)
    (hexEncode nonce.toList ++ ':' :: hexEncode ciphertext)

/-- A vault with a secret and a public key. -/
def fullVault : EncryptedVault := vaultStore.write secretVault (.publicKey, publicName) publicKey

/-- A name that ends like those of encrypted keys. -/
def misleadingName : Text := "backup_encrypted".toList

/-- A vault with a public key under the misleading name. -/
def misleadingVault : EncryptedVault :=
  vaultStore.write start (.publicKey, misleadingName) publicKey

theorem storeSecretKey_start :
    (vaultSystem crypto).exec (.storeSecretKey nonce secretName secretKey) start =
      .ok secretVault := by
  have hvalid : validateSecretKey secretKey = .ok () := by
    simp only [validateSecretKey, bind_eq_ok_iff, failIf_eq_ok_iff]
    exact ⟨(), by decide +kernel, by decide +kernel⟩
  have hencrypt : crypto.encrypt masterKey nonce (asBytes secretKey) = some ciphertext := by
    simp [crypto]
  simp only [vaultSystem, EncryptedVault.storeSecretKey, hvalid, ok_bind, start, orFail,
    KeyManager.exportEncrypted, KeyManager.encryptKey, hencrypt]
  rfl

theorem storePublicKey_eq (vault : EncryptedVault) (name : Text) :
    (vaultSystem crypto).exec (.storePublicKey name publicKey) vault =
      .ok (vaultStore.write vault (.publicKey, name) publicKey) := by
  have hvalid : validatePublicKey publicKey = .ok () := by
    simp only [validatePublicKey, bind_eq_ok_iff, failIf_eq_ok_iff]
    exact ⟨(), by decide +kernel, by decide +kernel⟩
  simp only [vaultSystem, EncryptedVault.storePublicKey, hvalid, ok_bind]
  rfl

theorem withPassword_eq : withPassword crypto password = .ok start := rfl

def history : List (Receipt StoreCall EncryptedVault) :=
  [⟨.storePublicKey publicName publicKey, secretVault, fullVault⟩,
    ⟨.storeSecretKey nonce secretName secretKey, start, secretVault⟩]

theorem fullVault_run : Run (vaultSystem crypto) start history fullVault :=
  .accept (.accept .start storeSecretKey_start) (storePublicKey_eq _ _)

theorem plain_fullVault : Plain asciiSigma fullVault := by
  constructor
  · intro name key hlookup
    simp only [fullVault, secretVault, start, vaultStore, lookup_insert_eq_update,
      Finmap.lookup_empty] at hlookup
    split_ifs at hlookup with hname
    subst hname
    cases hlookup
    exact ⟨⟨by decide +kernel, by decide +kernel, by decide +kernel, by decide +kernel,
      by decide +kernel⟩, by decide +kernel, by decide +kernel⟩
  · intro name encryptedHex hlookup
    simp only [fullVault, secretVault, start, vaultStore, lookup_insert_eq_update,
      Finmap.lookup_empty] at hlookup
    split_ifs at hlookup with hname
    subst hname
    exact ⟨by decide +kernel, by decide +kernel, by decide +kernel, by decide +kernel,
      by decide +kernel⟩

end Sample

/-- A vault survives being saved and loaded when all its names and public keys are plain, and only
then. -/
theorem vault_roundTrips_iff {crypto : Crypto} {tables : CaseTables} {password : Text}
    {start vault : EncryptedVault} {history : List (Receipt StoreCall EncryptedVault)}
    (hstart : withPassword crypto password = .ok start)
    (run : Run (vaultSystem crypto) start history vault) :
    RoundTrips crypto tables password history vault ↔ Plain tables vault :=
  (inUse_of_run hstart run).roundTrips_iff

/-- A vault with a secret and a public key under usual names survives. -/
theorem vault_roundTrips_iff_fullVault :
    RoundTrips Sample.crypto asciiSigma Sample.password Sample.history Sample.fullVault :=
  (vault_roundTrips_iff Sample.withPassword_eq Sample.fullVault_run).mpr Sample.plain_fullVault

/-- A public key under a name that ends like those of encrypted keys comes back as one of them. -/
theorem vault_moves_key : ¬ ∀ (crypto : Crypto) (tables : CaseTables) (password : Text)
    (start vault : EncryptedVault) (history : List (Receipt StoreCall EncryptedVault)),
    withPassword crypto password = .ok start → Run (vaultSystem crypto) start history vault →
      RoundTrips crypto tables password history vault := by
  intro hclaim
  have run : Run (vaultSystem Sample.crypto) Sample.start
      [⟨.storePublicKey Sample.misleadingName Sample.publicKey, Sample.start,
        Sample.misleadingVault⟩] Sample.misleadingVault :=
    .accept .start (Sample.storePublicKey_eq _ _)
  have hround := hclaim _ asciiSigma _ _ _ _ Sample.withPassword_eq run
  have hplain := (inUse_of_run Sample.withPassword_eq run).roundTrips_iff.mp hround
  have hlookup : Sample.misleadingVault.publicKeys.lookup Sample.misleadingName =
      some Sample.publicKey :=
    Finmap.lookup_insert _
  exact (hplain.1 _ _ hlookup).1.not_suffix (by decide +kernel)

end EncryptedVault

end OrbitChain.Tools
