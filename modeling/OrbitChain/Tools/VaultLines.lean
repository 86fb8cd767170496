import OrbitChain.Foundations.KeyRenaming
import OrbitChain.Tools.Vault

/-!
# The lines of a vault file

A vault is one map from kinds and names to keys (`vaultStore`), and loading a file writes to it what
each line says (`parseLine`). A key is read back from its line under the kind and the name that
case conversion and trimming make of its own (`filedKey`), and filing it three times is the same as
filing it twice.
-/

set_option autoImplicit false
set_option relaxedAutoImplicit false

namespace OrbitChain.Tools

open Foundations

namespace EncryptedVault

/-- The kinds of keys in a vault. -/
inductive KeyKind
  | publicKey
  | secretKey
  deriving DecidableEq

/-- A vault as one map. -/
def vaultStore : KeyedStore EncryptedVault (KeyKind × Text) Text where
  read vault key :=
    match key.1 with
    | .publicKey => vault.publicKeys.lookup key.2
    | .secretKey => vault.encryptedKeys.lookup key.2
  write vault key value :=
    match key.1 with
    | .publicKey => { vault with publicKeys := vault.publicKeys.insert key.2 value }
    | .secretKey => { vault with encryptedKeys := vault.encryptedKeys.insert key.2 value }

theorem lookup_insert_eq_update (map : HashMap) (name value other : Text) :
    (map.insert name value).lookup other =
      if other = name then some value else map.lookup other := by
  split_ifs with h
  · rw [h, Finmap.lookup_insert]
  · rw [Finmap.lookup_insert_of_ne _ h]

theorem vaultStore_actsAsMap : vaultStore.ActsAsMap := by
  rintro vault ⟨kind, name⟩ value
  ext1 ⟨kind', name'⟩
  cases kind <;> cases kind' <;>
    simp [vaultStore, Function.update_apply, lookup_insert_eq_update]

/-- Vaults with the same keys have the same maps. -/
theorem maps_eq_of_read_eq {vault vault' : EncryptedVault}
    (h : vaultStore.read vault = vaultStore.read vault') :
    vault.encryptedKeys = vault'.encryptedKeys ∧ vault.publicKeys = vault'.publicKeys :=
  ⟨Finmap.ext_lookup fun name ↦ congrFun h (.secretKey, name),
    Finmap.ext_lookup fun name ↦ congrFun h (.publicKey, name)⟩

theorem read_eq_of_maps_eq {vault vault' : EncryptedVault}
    (hencrypted : vault.encryptedKeys = vault'.encryptedKeys)
    (hpublic : vault.publicKeys = vault'.publicKeys) :
    vaultStore.read vault = vaultStore.read vault' := by
  simp only [vaultStore, hencrypted, hpublic]

/-! ### Lines -/

section Lines

variable (tables : CaseTables)

/-- The kind and the name of a key that is filed under a name in lower case. -/
def classify (keyName : Text) : KeyKind × Text :=
  if encryptedSuffix <:+ keyName then (.secretKey, trimEndMatches encryptedSuffix keyName)
  else (.publicKey, keyName)

/-- What a line writes to the vault. -/
def parseLine (line : Text) : Option ((KeyKind × Text) × Text) :=
  if line.head? = some '#' ∨ isBlank line = true then none
  else (splitOnce '=' line).map fun parts ↦ (classify (tables.toLowercase parts.1), parts.2)

theorem loadLine_eq (vault : EncryptedVault) (line : Text) :
    loadLine tables vault line =
      match parseLine tables line with
      | none => vault
      | some (key, value) => vaultStore.write vault key value := by
  unfold loadLine parseLine
  split_ifs with hskip
  · rfl
  · cases splitOnce '=' line with
    | none => rfl
    | some parts =>
      simp only [Option.map_some, classify, vaultStore]
      split_ifs <;> rfl

/-- Loading lines writes what they say. -/
theorem read_foldl_loadLine (vault : EncryptedVault) (ls : List Text) :
    vaultStore.read (ls.foldl (loadLine tables) vault) =
      updateAll (vaultStore.read vault) (ls.filterMap (parseLine tables)) := by
  rw [← vaultStore.read_writeAll vaultStore_actsAsMap]
  congr 1
  induction ls generalizing vault with
  | nil => rfl
  | cons line rest ih =>
    rw [List.foldl_cons, ih, loadLine_eq]
    cases hparse : parseLine tables line with
    | none => rw [List.filterMap_cons_none hparse]
    | some entry => rw [List.filterMap_cons_some hparse]; rfl

end Lines

/-! ### Names -/

section Names

variable {tables : CaseTables}

/-- The end of the names of encrypted keys in upper case. -/
def encryptedLabel : Text := "_ENCRYPTED".toList

theorem encryptedSuffix_ascii : ∀ c ∈ encryptedSuffix, c.toNat < 128 := by
  have h : encryptedSuffix.all (fun c ↦ c.toNat < 128) = true := by decide +kernel
  simpa only [List.all_eq_true, decide_eq_true_eq] using h

theorem encryptedLabel_ascii : ∀ c ∈ encryptedLabel, c.toNat < 128 := by
  have h : encryptedLabel.all (fun c ↦ c.toNat < 128) = true := by decide +kernel
  simpa only [List.all_eq_true, decide_eq_true_eq] using h

theorem toUppercase_encryptedSuffix : tables.toUppercase encryptedSuffix = encryptedLabel := by
  rw [CaseTables.toUppercase_ascii encryptedSuffix_ascii]
  decide +kernel

theorem toLowercase_append_label (text : Text) :
    tables.toLowercase (text ++ encryptedLabel) = tables.toLowercase text ++ encryptedSuffix := by
  have hcons : encryptedLabel = '_' :: "ENCRYPTED".toList := by decide +kernel
  have hlower : encryptedLabel.flatMap tables.lower = encryptedSuffix := by
    rw [CaseTables.flatMap_lower_ascii encryptedLabel_ascii]
    decide +kernel
  rw [← hlower, hcons]
  exact CaseTables.toLowercase_append (by decide +kernel)

theorem fold_append (name : Text) :
    tables.fold (name ++ encryptedSuffix) = tables.fold name ++ encryptedSuffix := by
  have hupper : tables.toUppercase (name ++ encryptedSuffix) =
      tables.toUppercase name ++ encryptedLabel := by
    rw [← toUppercase_encryptedSuffix]
    exact List.flatMap_append
  rw [CaseTables.fold, hupper, toLowercase_append_label]
  rfl

/-- Any number of suffixes is kept by folding. -/
theorem fold_append_copies (name : Text) (times : ℕ) :
    tables.fold (name ++ copies times encryptedSuffix) =
      tables.fold name ++ copies times encryptedSuffix := by
  induction times with
  | zero => simp [copies]
  | succ times ih => rw [copies_succ, ← List.append_assoc, fold_append, ih, List.append_assoc]

/-- The end of the names that a kind of keys is written under. -/
def kindSuffix : KeyKind → Text
  | .publicKey => []
  | .secretKey => encryptedSuffix

/-- The kind and the name under which a key comes back. -/
def filedKey (tables : CaseTables) (key : KeyKind × Text) : KeyKind × Text :=
  classify (tables.fold key.2 ++ kindSuffix key.1)

theorem filedKey_eq_classify_fold (key : KeyKind × Text) :
    filedKey tables key = classify (tables.fold (key.2 ++ kindSuffix key.1)) := by
  obtain ⟨kind, name⟩ := key
  cases kind with
  | publicKey => simp [filedKey, kindSuffix]
  | secretKey => rw [filedKey, kindSuffix, fold_append]

theorem encryptedSuffix_ne_nil : encryptedSuffix ≠ [] := by decide

theorem classify_append_copies (stem : Text) (times : ℕ) :
    classify (stem ++ copies (times + 1) encryptedSuffix) =
      (.secretKey, trimEndMatches encryptedSuffix stem) := by
  rw [classify, if_pos, trimEndMatches_append_copies encryptedSuffix_ne_nil]
  rw [copies_succ, ← List.append_assoc]
  exact List.suffix_append _ _

theorem classify_append_suffix (stem : Text) :
    classify (stem ++ encryptedSuffix) = (.secretKey, trimEndMatches encryptedSuffix stem) :=
  classify_append_copies stem 0

/-- Filing a key under the name it was filed under folds the name once more. -/
theorem filedKey_classify (keyName : Text) :
    filedKey tables (classify keyName) = classify (tables.fold keyName) := by
  by_cases hends : encryptedSuffix <:+ keyName
  · obtain ⟨times, htimes⟩ := trimEndMatches_spec encryptedSuffix keyName
    have hclassify : classify keyName = (.secretKey, trimEndMatches encryptedSuffix keyName) :=
      if_pos hends
    have hstem := not_suffix_trimEndMatches encryptedSuffix_ne_nil keyName
    generalize trimEndMatches encryptedSuffix keyName = stem at htimes hclassify hstem
    cases times with
    | zero =>
      rw [htimes, copies, List.replicate_zero, List.flatten_nil, List.append_nil] at hends
      exact absurd hends hstem
    | succ times =>
      rw [hclassify, filedKey, kindSuffix, classify_append_suffix, htimes, fold_append_copies,
        classify_append_copies]
  · rw [classify, if_neg hends, filedKey, kindSuffix, List.append_nil]

theorem filedKey_filedKey_filedKey (key : KeyKind × Text) :
    filedKey tables (filedKey tables (filedKey tables key)) =
      filedKey tables (filedKey tables key) := by
  rw [filedKey_eq_classify_fold key, filedKey_classify, filedKey_classify,
    CaseTables.fold_fold_fold]

/-- A key is filed under its own kind and name if folding leaves the name as it is and the name
does not end like those of encrypted keys. -/
theorem filedKey_eq_self_iff {key : KeyKind × Text} :
    filedKey tables key = key ↔ tables.fold key.2 = key.2 ∧ ¬ encryptedSuffix <:+ key.2 := by
  obtain ⟨kind, name⟩ := key
  constructor
  · intro hfiled
    cases kind with
    | publicKey =>
      rw [filedKey, kindSuffix, List.append_nil, classify] at hfiled
      split_ifs at hfiled with hends
      · simp at hfiled
      · have hname := congrArg Prod.snd hfiled
        exact ⟨hname, hname ▸ hends⟩
    | secretKey =>
      rw [filedKey, kindSuffix, classify_append_suffix] at hfiled
      have hname : trimEndMatches encryptedSuffix (tables.fold name) = name :=
        congrArg Prod.snd hfiled
      obtain ⟨times, htimes⟩ := trimEndMatches_spec encryptedSuffix (tables.fold name)
      refine ⟨?_, hname ▸ not_suffix_trimEndMatches encryptedSuffix_ne_nil _⟩
      -- Suffixes that folding once adds would be added by folding a third time too.
      have hthrice : tables.fold (tables.fold (tables.fold name)) =
          tables.fold (tables.fold name) ++ copies times encryptedSuffix := by
        conv_lhs => rw [htimes, hname, fold_append_copies, fold_append_copies]
      rw [CaseTables.fold_fold_fold, List.self_eq_append_right] at hthrice
      rw [htimes, hname, hthrice, List.append_nil]
  · rintro ⟨hfold, hends⟩
    rw [filedKey, hfold]
    cases kind with
    | publicKey => rw [kindSuffix, List.append_nil, classify, if_neg hends]
    | secretKey => rw [kindSuffix, classify_append_suffix, trimEndMatches_of_not_suffix hends]

end Names

/-! ### What is saved -/

section Saving

variable {tables : CaseTables} {publicOrder encryptedOrder : IterationOrder}

/-- The end of the names that a kind of keys is written under, in upper case. -/
def writtenSuffix : KeyKind → Text
  | .publicKey => []
  | .secretKey => encryptedLabel

/-- The line of a key. -/
def entryLine (tables : CaseTables) (entry : (KeyKind × Text) × Text) : Text :=
  tables.toUppercase entry.1.2 ++ writtenSuffix entry.1.1 ++ '=' :: entry.2

/-- The keys of one kind in the order in which they are saved. -/
def kindEntries (kind : KeyKind) (order : IterationOrder) : List ((KeyKind × Text) × Text) :=
  order.entries.map fun entry ↦ ((kind, entry.1), entry.2)

/-- The keys in the order in which they are saved. -/
def fileEntries (publicOrder encryptedOrder : IterationOrder) : List ((KeyKind × Text) × Text) :=
  kindEntries .publicKey publicOrder ++ kindEntries .secretKey encryptedOrder

/-- The lines before the public keys. -/
def preamble : List Text :=
  ["# Encrypted Vault Configuration".toList, "# WARNING: Keep this file secure!".toList, [],
    "# Public Keys (unencrypted)".toList]

/-- The lines before the encrypted keys. -/
def divider : List Text := [[], "# Encrypted Secret Keys".toList]

/-- The lines of the file. -/
def fileLines (tables : CaseTables) (publicOrder encryptedOrder : IterationOrder) : List Text :=
  preamble ++ publicOrder.entries.map (publicLine tables) ++
    divider ++ encryptedOrder.entries.map (encryptedLine tables)

theorem saveToFile_eq : saveToFile tables publicOrder encryptedOrder =
    toUtf8 (unlines '\n' (fileLines tables publicOrder encryptedOrder)) := by
  simp [saveToFile, fileLines, preamble, divider, unlines, List.flatMap_map]

theorem publicLine_eq (entry : Σ _ : Text, Text) :
    publicLine tables entry = entryLine tables ((.publicKey, entry.1), entry.2) := by
  have hlabel : "=".toList = ['='] := by decide +kernel
  rw [publicLine, entryLine, writtenSuffix, hlabel, List.append_nil, List.append_assoc,
    List.singleton_append]

theorem encryptedLine_eq (entry : Σ _ : Text, Text) :
    encryptedLine tables entry = entryLine tables ((.secretKey, entry.1), entry.2) := by
  have hlabel : "_ENCRYPTED=".toList = encryptedLabel ++ ['='] := by decide +kernel
  rw [encryptedLine, entryLine, writtenSuffix, hlabel, ← List.append_assoc, List.append_assoc,
    List.singleton_append]

theorem fileLines_eq : fileLines tables publicOrder encryptedOrder =
    preamble ++ (kindEntries .publicKey publicOrder).map (entryLine tables) ++
      divider ++ (kindEntries .secretKey encryptedOrder).map (entryLine tables) := by
  rw [fileLines, kindEntries, kindEntries, List.map_map, List.map_map, funext publicLine_eq,
    funext encryptedLine_eq]
  rfl

theorem mem_kindEntries {kind : KeyKind} {order : IterationOrder} {key : KeyKind × Text}
    {value : Text} :
    (key, value) ∈ kindEntries kind order ↔ key.1 = kind ∧ order.lookup key.2 = some value := by
  obtain ⟨kind', name⟩ := key
  rw [← Option.mem_def, AList.mem_lookup_iff, kindEntries, List.mem_map]
  constructor
  · rintro ⟨⟨name', value'⟩, hentry, hsame⟩
    obtain ⟨⟨rfl, rfl⟩, rfl⟩ : (kind = kind' ∧ name' = name) ∧ value' = value := by
      simpa using hsame
    exact ⟨rfl, hentry⟩
  · rintro ⟨rfl, hentry⟩
    exact ⟨⟨name, value⟩, hentry, rfl⟩

theorem map_fst_kindEntries (kind : KeyKind) (order : IterationOrder) :
    (kindEntries kind order).map Prod.fst = order.keys.map (Prod.mk kind) := by
  rw [kindEntries, AList.keys, List.keys, List.map_map, List.map_map]
  rfl

/-- The orders of the hash maps list the vault. -/
theorem lists_fileEntries {vault : EncryptedVault}
    (hpublic : publicOrder.toFinmap = vault.publicKeys)
    (hencrypted : encryptedOrder.toFinmap = vault.encryptedKeys) :
    Lists (fileEntries publicOrder encryptedOrder) (vaultStore.read vault) := by
  constructor
  · rw [fileEntries, List.map_append, map_fst_kindEntries, map_fst_kindEntries,
      List.nodup_append']
    refine ⟨publicOrder.nodupKeys.map (Prod.mk_right_injective _),
      encryptedOrder.nodupKeys.map (Prod.mk_right_injective _), ?_⟩
    rw [List.disjoint_left]
    intro key hpublicKey hsecretKey
    obtain ⟨_, -, rfl⟩ := List.mem_map.mp hpublicKey
    obtain ⟨_, -, hkind⟩ := List.mem_map.mp hsecretKey
    exact absurd (congrArg Prod.fst hkind) (by simp)
  · rintro ⟨kind, name⟩ value
    rw [fileEntries, List.mem_append, mem_kindEntries, mem_kindEntries]
    cases kind <;> simp [vaultStore, ← hpublic, ← hencrypted]

/-- A key is read back from its line under the name it is filed under. -/
theorem parseLine_entryLine {entry : (KeyKind × Text) × Text} (hequals : '=' ∉ entry.1.2)
    (hcomment : entry.1.2.head? ≠ some '#') :
    parseLine tables (entryLine tables entry) = some (filedKey tables entry.1, entry.2) := by
  obtain ⟨⟨kind, name⟩, value⟩ := entry
  have hhead : (entryLine tables ((kind, name), value)).head? ≠ some '#' := by
    cases name with
    | nil =>
      cases kind with
      | publicKey => exact fun h ↦ absurd (Option.some.inj h) (by decide)
      | secretKey => exact fun h ↦ absurd (Option.some.inj h) (by decide)
    | cons c rest =>
      rw [entryLine, List.append_assoc, List.head?_append_of_ne_nil]
      · exact mt (CaseTables.head?_toUppercase_iff (by decide)).mp hcomment
      · simp [CaseTables.toUppercase, tables.upper_ne_nil]
  have hblank : isBlank (entryLine tables ((kind, name), value)) = false := by
    rw [isBlank, List.all_eq_false]
    exact ⟨'=', by simp [entryLine], by decide⟩
  have hsuffix : '=' ∉ tables.toUppercase name ++ writtenSuffix kind := by
    rw [List.mem_append, not_or, CaseTables.mem_toUppercase_iff (by decide)]
    exact ⟨hequals, by cases kind <;> decide +kernel⟩
  have hlower : tables.toLowercase (tables.toUppercase name ++ writtenSuffix kind) =
      tables.fold name ++ kindSuffix kind := by
    cases kind with
    | publicKey => rw [writtenSuffix, List.append_nil, kindSuffix, List.append_nil]; rfl
    | secretKey => exact toLowercase_append_label _
  rw [parseLine, if_neg (by simp [hhead, hblank]), entryLine, splitOnce_append hsuffix,
    Option.map_some, hlower]
  rfl

theorem stripReturn_entryLine (entry : (KeyKind × Text) × Text) :
    stripReturn '\r' (entryLine tables entry) =
      entryLine tables (entry.1, stripReturn '\r' entry.2) :=
  stripReturn_append_cons (by decide) _ _

theorem filterMap_entryLines {entries : List ((KeyKind × Text) × Text)}
    (h : ∀ entry ∈ entries, '=' ∉ entry.1.2 ∧ entry.1.2.head? ≠ some '#') :
    ((entries.map (entryLine tables)).map (stripReturn '\r')).filterMap (parseLine tables) =
      entries.map fun entry ↦ (filedKey tables entry.1, stripReturn '\r' entry.2) := by
  induction entries with
  | nil => rfl
  | cons entry rest ih =>
    obtain ⟨⟨hequals, hcomment⟩, hrest⟩ := List.forall_mem_cons.mp h
    have hparse : parseLine tables (entryLine tables (entry.1, stripReturn '\r' entry.2)) =
        some (filedKey tables entry.1, stripReturn '\r' entry.2) :=
      parseLine_entryLine hequals hcomment
    simp only [List.map_cons, stripReturn_entryLine]
    rw [List.filterMap_cons_some hparse, ih hrest]

/-- Comments and blank lines are skipped. -/
theorem filterMap_comments {ls : List Text}
    (h : ∀ line ∈ ls, line.head? = some '#' ∨ isBlank line = true) :
    ls.filterMap (parseLine tables) = [] :=
  List.filterMap_eq_nil_iff.mpr fun line hline ↦ if_pos (h line hline)

theorem filterMap_fileLines (h : ∀ entry ∈ fileEntries publicOrder encryptedOrder,
      '=' ∉ entry.1.2 ∧ entry.1.2.head? ≠ some '#') :
    ((fileLines tables publicOrder encryptedOrder).map (stripReturn '\r')).filterMap
        (parseLine tables) =
      (fileEntries publicOrder encryptedOrder).map fun entry ↦
        (filedKey tables entry.1, stripReturn '\r' entry.2) := by
  have hpreamble : (preamble.map (stripReturn '\r')).filterMap (parseLine tables) = [] :=
    filterMap_comments (by decide +kernel)
  have hdivider : (divider.map (stripReturn '\r')).filterMap (parseLine tables) = [] :=
    filterMap_comments (by decide +kernel)
  rw [fileEntries, List.forall_mem_append] at h
  simp only [fileLines_eq, fileEntries, List.map_append, List.filterMap_append, hpreamble,
    hdivider, filterMap_entryLines h.1, filterMap_entryLines h.2, List.nil_append,
    List.append_nil]

end Saving

end EncryptedVault

end OrbitChain.Tools
