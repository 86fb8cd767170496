import OrbitChain.Foundations.ItemLoops
import OrbitChain.Tools.Invoke
import OrbitChain.Tools.VaultFile
import Mathlib.Data.List.Induction

/-!
# What the invoke command asks of the stellar CLI

The arguments of the command are flags with values, in any order, and the last value of a flag is
the one that counts (`parseInvokeArgs_eq_ok_iff`). The argument vector of the CLI can be read back
(`readArgv`), and what is read is what the flags, the JSON object and the environment ask for
(`start_asks`). The signing key is no part of it: it is passed in two variables of the CLI's
environment, and whatever key is used, the argument vector is the same (`start_hides_key`). The
other variables are passed on as they are, those with the admin key and the vault among them.
-/

set_option autoImplicit false
set_option relaxedAutoImplicit false

namespace OrbitChain.Tools.Invoke

open Foundations

/-! ### The grammar of the arguments -/

/-- The arguments that a flag with its value is written with. -/
def spell (item : Flag × String) : List String := [item.1.name, item.2]

/-- A flag with its value is given. -/
def Given.enter (given : Given) (item : Flag × String) : Given :=
  Function.update given item.1 (some item.2)

/-- The last value of a flag. -/
def lastGiven (items : List (Flag × String)) (flag : Flag) : Option String :=
  (items.filterMap fun item ↦ if item.1 = flag then some item.2 else none).getLast?

theorem readsItems :
    ReadsItems spell (fun given item ↦ .ok (Given.enter given item)) parseFrom where
  ne_nil := fun _ ↦ List.cons_ne_nil _ _
  nil := fun _ ↦ rfl
  item := by
    rintro given ⟨flag, value⟩ rest
    have hflag : Flag.parse flag.name = some flag := Flag.parse_eq_some_iff.mpr rfl
    show parseFrom given (flag.name :: value :: rest) = _
    rw [parseFrom.eq_def]
    simp only [hflag]
    rfl
  reads := by
    intro given args final h
    cases args with
    | nil => exact .inl rfl
    | cons arg rest =>
      right
      rw [parseFrom.eq_def] at h
      cases hflag : Flag.parse arg with
      | none => simp [hflag] at h
      | some flag =>
        obtain rfl := Flag.parse_eq_some_iff.mp hflag
        cases rest with
        | nil => simp [hflag] at h
        | cons value rest => exact ⟨(flag, value), rest, rfl⟩

theorem prefixFree : PrefixFree spell where
  ne_nil := fun _ ↦ List.cons_ne_nil _ _
  unique := by
    rintro ⟨flag, value⟩ ⟨flag', value'⟩ rest rest' h
    obtain ⟨hname, htail⟩ := List.cons.inj h
    obtain ⟨rfl, rfl⟩ := List.cons.inj htail
    have hflag := (Flag.parse_eq_some_iff.mpr rfl).symm.trans (Flag.parse_eq_some_iff.mpr hname)
    exact ⟨congrArg (·, value) (Option.some.inj hflag), rfl⟩

/-- Entering items leaves the last value of each flag. -/
theorem foldl_enter (items : List (Flag × String)) :
    items.foldl Given.enter (fun _ ↦ none) = lastGiven items := by
  induction items using List.reverseRecOn with
  | nil => rfl
  | append_singleton items item ih =>
    rw [List.foldl_append, ih]
    funext flag
    unfold lastGiven
    rw [List.filterMap_append, List.getLast?_append]
    by_cases heq : item.1 = flag
    · subst heq
      simp [Given.enter]
    · simp [Given.enter, heq, Function.update_of_ne (Ne.symm heq)]

/-- The options that flags with values ask for. -/
structure Options (items : List (Flag × String)) (opts : InvokeOptions) : Prop where
  contractId : lastGiven items .id = some opts.contractId
  method : lastGiven items .method = some opts.method
  argsJson : lastGiven items .argsJson = opts.argsJson
  sourceKey : lastGiven items .sourceKey = opts.sourceKey
  network : lastGiven items .network = opts.network
  send : lastGiven items .send = opts.send
  network_known : ∀ network, opts.network = some network → network = "testnet" ∨ network = "mainnet"
  send_known : ∀ send, opts.send = some send → send = "default" ∨ send = "no" ∨ send = "yes"

theorem checkNetwork_eq_ok_iff {network : Option String} {u : Unit} :
    checkNetwork network = .ok u ↔
      ∀ name, network = some name → name = "testnet" ∨ name = "mainnet" := by
  cases network with
  | none => simp [checkNetwork]
  | some name => simp [checkNetwork, or_iff_not_imp_left]

theorem checkSend_eq_ok_iff {send : Option String} {u : Unit} :
    checkSend send = .ok u ↔
      ∀ mode, send = some mode → mode = "default" ∨ mode = "no" ∨ mode = "yes" := by
  cases send with
  | none => simp [checkSend]
  | some mode => simp [checkSend, or_iff_not_imp_left]

/-- The parser accepts the spellings of flags with values that ask for options, and returns these
options. -/
theorem parseInvokeArgs_eq_ok_iff {args : List String} {opts : InvokeOptions} :
    parseInvokeArgs args = .ok opts ↔
      ∃ items : List (Flag × String), args = items.flatMap spell ∧ Options items opts := by
  have hsteps (items : List (Flag × String)) (given : Given) :
      items.foldlM (fun given item ↦ (.ok (Given.enter given item) : Except String Given)) given =
        .ok (items.foldl Given.enter given) := List.foldlM_pure
  simp only [parseInvokeArgs, bind_eq_ok_iff, readsItems.eq_ok_iff, hsteps, foldl_enter,
    Except.ok.injEq, orFail_eq_ok_iff, checkNetwork_eq_ok_iff, checkSend_eq_ok_iff,
    pure_eq_ok_iff, exists_const]
  constructor
  · rintro ⟨given, ⟨items, rfl, rfl⟩, contractId, hid, method, hmethod, hnetwork, hsend, rfl⟩
    exact ⟨items, rfl, hid, hmethod, rfl, rfl, rfl, rfl, hnetwork, hsend⟩
  · rintro ⟨items, rfl, hid, hmethod, hjson, hkey, hnetwork, hsend, hknown, hknown'⟩
    refine ⟨_, ⟨items, rfl, rfl⟩, _, hid, _, hmethod, ?_, ?_, ?_⟩
    · rwa [hnetwork]
    · rwa [hsend]
    · rw [hjson, hkey, hnetwork, hsend]

/-! ### Reading the argument vector -/

/-- What an argument vector asks the CLI for. -/
structure Request where
  contractId : String
  rpcUrl : String
  networkPassphrase : String
  send : Option String
  method : String
  arguments : List (String × String)
  deriving DecidableEq

/-- The name behind two dashes. -/
def flagName (flag : String) : Option String :=
  if flag.toList.take 2 = ['-', '-'] then some (String.ofList (flag.toList.drop 2)) else none

/-- Named values, two arguments each. -/
def readPairs : List String → Option (List (String × String))
  | [] => some []
  | [_] => none
  | flag :: value :: rest => do
    let name ← flagName flag
    let pairs ← readPairs rest
    pure ((name, value) :: pairs)

/-- The send mode, if it is given, and what follows. -/
def readSend : List String → Option String × List String
  | flag :: send :: rest =>
    if flag = "--send" then (some send, rest) else (none, flag :: send :: rest)
  | rest => (none, rest)

def readArgv : List String → Option Request
  | contract :: invoke :: id :: contractId :: rpc :: rpcUrl :: passphrase :: networkPassphrase ::
      rest =>
    if [contract, invoke, id, rpc, passphrase] =
        ["contract", "invoke", "--id", "--rpc-url", "--network-passphrase"] then
      match readSend rest with
      | (send, divider :: method :: pairs) =>
        if divider = "--" then
          (readPairs pairs).map fun arguments ↦
            ⟨contractId, rpcUrl, networkPassphrase, send, method, arguments⟩
        else none
      | _ => none
    else none
  | _ => none

theorem flagName_append (name : String) : flagName ("--" ++ name) = some name := by
  simp [flagName]

theorem readArgv_buildStellarArgs {opts : InvokeOptions} {network : NetworkConfig}
    {methodArgs : List String} {arguments : List (String × String)}
    (h : readPairs methodArgs = some arguments) :
    readArgv (buildStellarArgs opts network methodArgs) =
      some ⟨opts.contractId, network.rpcUrl, network.networkPassphrase, opts.send, opts.method,
        arguments⟩ := by
  unfold buildStellarArgs
  cases opts.send <;> simp [readArgv, readSend, h]

/-- A member of the JSON object is passed as a named value. -/
structure PassedAs (json : JsonFunctions) (member : String × Json) (argument : String × String) :
    Prop where
  name_eq : argument.1 = member.1
  valid : isValidArgName member.1 = true
  value : renderValue json member.1 member.2 = .ok argument.2

theorem memberArgs_eq_ok_iff {json : JsonFunctions} {member : String × Json} {args : List String} :
    memberArgs json member = .ok args ↔
      ∃ argument, PassedAs json member argument ∧ args = ["--" ++ argument.1, argument.2] := by
  simp only [memberArgs, bind_eq_ok_iff, failIf_eq_ok_iff, pure_eq_ok_iff, exists_const,
    Bool.not_eq_false]
  constructor
  · rintro ⟨hvalid, rendered, hrendered, rfl⟩
    exact ⟨(member.1, rendered), ⟨rfl, hvalid, hrendered⟩, rfl⟩
  · rintro ⟨⟨name, rendered⟩, ⟨rfl, hvalid, hrendered⟩, rfl⟩
    exact ⟨hvalid, rendered, hrendered, rfl⟩

/-- The arguments of the members are read as their names and values. -/
theorem readPairs_of_memberArgs {json : JsonFunctions} {members : List (String × Json)}
    {args : List (List String)}
    (h : List.Forall₂ (fun member args ↦ memberArgs json member = .ok args) members args) :
    ∃ arguments, readPairs args.flatten = some arguments ∧
      List.Forall₂ (PassedAs json) members arguments := by
  induction h with
  | nil => exact ⟨[], rfl, .nil⟩
  | @cons member own members args hown _ ih =>
    obtain ⟨argument, hpassed, rfl⟩ := memberArgs_eq_ok_iff.mp hown
    obtain ⟨arguments, hread, hall⟩ := ih
    refine ⟨argument :: arguments, ?_, .cons hpassed hall⟩
    show readPairs (("--" ++ argument.1) :: argument.2 :: args.flatten) = _
    rw [readPairs, flagName_append, hread]
    rfl

/-! ### What is asked for -/

/-- The network that the flags choose, or else the environment, or else the test network. -/
def chosenNetwork (env : String → Option String) (given : Option String) : Option NetworkConfig :=
  let config := EnvironmentConfig.fromEnv env
  if given.getD config.network = "testnet" then some config.testnet
  else if given.getD config.network = "mainnet" then some config.mainnet
  else none

/-- A request is what flags with values, JSON and the environment ask for. -/
structure Asks (json : JsonFunctions) (env : String → Option String)
    (items : List (Flag × String)) (request : Request) : Prop where
  contractId : lastGiven items .id = some request.contractId
  method : lastGiven items .method = some request.method
  send : lastGiven items .send = request.send
  network : ∃ network, chosenNetwork env (lastGiven items .network) = some network ∧
    request.rpcUrl = network.rpcUrl ∧ request.networkPassphrase = network.networkPassphrase
  no_arguments : lastGiven items .argsJson = none → request.arguments = []
  arguments : ∀ argsJson, lastGiven items .argsJson = some argsJson →
    ∃ members, json.fromStr argsJson = some (.object members) ∧
      List.Forall₂ (PassedAs json) members request.arguments

/-- The key that the CLI is given is valid and comes from one of three places. -/
structure Resolved (key : ResolvedKey) : Prop where
  valid : validateSecretKey key.secret = .ok ()
  source : key.source ∈
    ["--source-key flag", "SOROBAN_ADMIN_SECRET_KEY (SecureVault)", "encrypted vault"]

section Start

variable {crypto crypto' : Crypto} {json : JsonFunctions} {env env' : String → Option String}
  {args args' : List String} {items items' : List (Flag × String)} {started started' : Started}

theorem withContext_eq_ok_iff {α : Type} {context : String} {result : Except String α} {a : α} :
    withContext context result = .ok a ↔ result = .ok a :=
  mapError_eq_ok_iff

theorem resolved_of_resolveFromVault {vault : EncryptedVault} {names : List String}
    {key : ResolvedKey} (h : resolveFromVault crypto vault names = .ok (some key)) :
    Resolved key := by
  induction names with
  | nil => cases h
  | cons name names ih =>
    rw [resolveFromVault] at h
    split at h
    · exact ih h
    · simp only [bind_eq_ok_iff, withContext_eq_ok_iff, pure_eq_ok_iff, Option.some.injEq] at h
      obtain ⟨⟨⟩, hvalid, rfl⟩ := h
      exact ⟨hvalid, by simp⟩

theorem resolved_of_resolveSourceKey {explicit adminSecretKey : Option String}
    {encrypted : Option EncryptedVault} {key : ResolvedKey}
    (h : resolveSourceKey crypto explicit adminSecretKey encrypted = .ok key) : Resolved key := by
  unfold resolveSourceKey at h
  split at h
  · simp only [bind_eq_ok_iff, withContext_eq_ok_iff, pure_eq_ok_iff] at h
    obtain ⟨⟨⟩, hvalid, rfl⟩ := h
    exact ⟨hvalid, by simp⟩
  · split at h
    · simp only [bind_eq_ok_iff, withContext_eq_ok_iff, pure_eq_ok_iff] at h
      obtain ⟨⟨⟩, hvalid, rfl⟩ := h
      exact ⟨hvalid, by simp⟩
    · split at h
      · simp only [bind_eq_ok_iff, orFail_eq_ok_iff] at h
        obtain ⟨found, hfound, rfl⟩ := h
        exact resolved_of_resolveFromVault hfound
      · cases h

theorem getActiveNetwork_eq_ok_iff {given : Option String} {network : NetworkConfig} :
    ((EnvironmentConfig.fromEnv env).withNetwork given).getActiveNetwork = .ok network ↔
      chosenNetwork env given = some network := by
  have hnamed (config : EnvironmentConfig) : config.getActiveNetwork = .ok network ↔
      (if config.network = "testnet" then some config.testnet
        else if config.network = "mainnet" then some config.mainnet else none) = some network := by
    unfold EnvironmentConfig.getActiveNetwork
    split_ifs <;> simp
  cases given with
  | none => exact hnamed _
  | some name => exact hnamed _

/-- What the command has done when it starts the CLI. -/
theorem start_eq_ok_iff :
    start crypto json env args = .ok (some started) ↔ ∃ opts methodArgs network key,
      parseInvokeArgs args = .ok opts ∧ validateContractId opts.contractId = .ok () ∧
      givenMethodArgs json opts.argsJson = .ok methodArgs ∧
      chosenNetwork env opts.network = some network ∧
      resolveSourceKey crypto opts.sourceKey (env "SOROBAN_ADMIN_SECRET_KEY")
        (EncryptedVault.fromEnv crypto env).toOption = .ok key ∧
      started = ⟨announcement opts network key.source,
        ⟨buildStellarArgs opts network methodArgs,
          inheriting env accountVariables key.secret⟩⟩ := by
  unfold start
  split_ifs with hargs
  · subst hargs
    have hparse (opts : InvokeOptions) : parseInvokeArgs [] ≠ .ok opts := by
      rintro ⟨⟩
    simp [hparse]
  · simp only [bind_eq_ok_iff, pure_eq_ok_iff, Option.some.injEq, getActiveNetwork_eq_ok_iff]
    constructor
    · rintro ⟨opts, hopts, ⟨⟩, hid, methodArgs, hmethodArgs, network, hnetwork, key, hkey, rfl⟩
      exact ⟨opts, methodArgs, network, key, hopts, hid, hmethodArgs, hnetwork, hkey, rfl⟩
    · rintro ⟨opts, methodArgs, network, key, hopts, hid, hmethodArgs, hnetwork, hkey, rfl⟩
      exact ⟨opts, hopts, (), hid, methodArgs, hmethodArgs, network, hnetwork, key, hkey, rfl⟩

theorem readPairs_of_methodArgs {argsJson : String} {methodArgs : List String}
    (h : methodArgsFromJson json argsJson = .ok methodArgs) :
    ∃ arguments, readPairs methodArgs = some arguments ∧
      ∃ members, json.fromStr argsJson = some (.object members) ∧
        List.Forall₂ (PassedAs json) members arguments := by
  simp only [methodArgsFromJson, bind_eq_ok_iff, orFail_eq_ok_iff] at h
  obtain ⟨value, hvalue, h⟩ := h
  cases value with
  | object members =>
    simp only [bind_eq_ok_iff, mapM_eq_ok_iff, pure_eq_ok_iff] at h
    obtain ⟨args, hargs, rfl⟩ := h
    obtain ⟨arguments, hread, hall⟩ := readPairs_of_memberArgs hargs
    exact ⟨arguments, hread, members, hvalue, hall⟩
  | _ => cases h

/-! ### What is not asked for -/

/-- The variables of the environment that are no secrets. -/
def publicVariables : List String :=
  ["SOROBAN_NETWORK", "SOROBAN_TESTNET_RPC_URL", "SOROBAN_TESTNET_PASSPHRASE",
    "SOROBAN_MAINNET_RPC_URL", "SOROBAN_MAINNET_PASSPHRASE"]

/-- The flags with values that are no keys. -/
def publicItems (items : List (Flag × String)) : List (Flag × String) :=
  items.filter (·.1 ≠ .sourceKey)

theorem lastGiven_publicItems {flag : Flag} (h : flag ≠ .sourceKey) :
    lastGiven (publicItems items) flag = lastGiven items flag := by
  unfold lastGiven publicItems
  rw [List.filterMap_filter]
  congr 2
  funext item
  by_cases heq : item.1 = flag
  · simp [heq, h]
  · simp [heq]

theorem chosenNetwork_congr (henv : ∀ name ∈ publicVariables, env name = env' name)
    (given : Option String) : chosenNetwork env given = chosenNetwork env' given := by
  simp only [publicVariables, List.forall_mem_cons] at henv
  obtain ⟨hnetwork, hrpc, hpassphrase, hrpc', hpassphrase', -⟩ := henv
  have hconfig : EnvironmentConfig.fromEnv env = EnvironmentConfig.fromEnv env' := by
    simp only [EnvironmentConfig.fromEnv, hnetwork, hrpc, hpassphrase, hrpc', hpassphrase']
  rw [chosenNetwork, hconfig, chosenNetwork]

/-- Two starts of the CLI, in two environments, are the same but for the names of the places where
the keys come from and for the environments: the CLI has the key in its account's variables, and
every other variable as it was outside. -/
structure DifferInKeys (env env' : String → Option String) (started started' : Started)
    (key key' : ResolvedKey) : Prop where
  argv : started.child.argv = started'.child.argv
  printed : ∃ lines, started.printed = lines ++ ["Source:   via " ++ key.source, ""] ∧
    started'.printed = lines ++ ["Source:   via " ++ key'.source, ""]
  account : ∀ name ∈ accountVariables,
    started.child.env name = some key.secret ∧ started'.child.env name = some key'.secret
  inherited : ∀ name ∉ accountVariables,
    started.child.env name = (env name).map String.toList ∧
      started'.child.env name = (env' name).map String.toList

/-! ### The signing key -/

/-- A key signs: that of the flag, or else that of the environment, or else the one that the
environment holds encrypted under its master password. -/
inductive SignsWith (crypto : Crypto) (env : String → Option String) :
    Option String → ResolvedKey → Prop
  | flag {key : String} (hvalid : validateSecretKey key.toList = .ok ()) :
      SignsWith crypto env (some key) ⟨key.toList, "--source-key flag"⟩
  | environment {key : String} (hkey : env "SOROBAN_ADMIN_SECRET_KEY" = some key) (hne : key ≠ "")
      (hvalid : validateSecretKey key.toList = .ok ()) :
      SignsWith crypto env none ⟨key.toList, "SOROBAN_ADMIN_SECRET_KEY (SecureVault)"⟩
  | vault {password encryptedHex : String} {secret : Text}
      (hnone : ∀ key, env "SOROBAN_ADMIN_SECRET_KEY" = some key → key = "")
      (hpassword : (env "VAULT_MASTER_PASSWORD").or (env "VAULT_MASTER_KEY") = some password)
      (hencrypted : env "SOROBAN_ADMIN_SECRET_KEY_ENCRYPTED" = some encryptedHex)
      (hdecrypts : (KeyManager.importEncrypted crypto encryptedHex.toList >>=
        (⟨crypto.sha256 (asBytes password.toList)⟩ : KeyManager).decryptKey crypto) = .ok secret)
      (hvalid : validateSecretKey secret = .ok ()) :
      SignsWith crypto env none ⟨secret, "encrypted vault"⟩

theorem retrieveSecretKey_eq_ok_iff {vault : EncryptedVault} {keyName secret : Text} :
    vault.retrieveSecretKey crypto keyName = .ok secret ↔
      ∃ encryptedHex manager, vault.encryptedKeys.lookup keyName = some encryptedHex ∧
        vault.keyManager = some manager ∧
        (KeyManager.importEncrypted crypto encryptedHex >>= manager.decryptKey crypto) =
          .ok secret := by
  simp only [EncryptedVault.retrieveSecretKey, bind_eq_ok_iff, orFail_eq_ok_iff]
  constructor
  · rintro ⟨encryptedHex, hlookup, manager, hmanager, himport⟩
    exact ⟨encryptedHex, manager, hlookup, hmanager, himport⟩
  · rintro ⟨encryptedHex, manager, hlookup, hmanager, himport⟩
    exact ⟨encryptedHex, hlookup, manager, hmanager, himport⟩

theorem lookup_insertFound (map : HashMap) (keyName : String) (value : Option String)
    (name : Text) : (EncryptedVault.insertFound map keyName value).lookup name =
      if name = keyName.toList then (value.map String.toList).or (map.lookup name)
      else map.lookup name := by
  cases value with
  | none => simp [EncryptedVault.insertFound]
  | some value => exact EncryptedVault.lookup_insert_eq_update map _ _ name

/-- The vault of the environment: one of its encrypted keys signs, and it has no master keypair. -/
theorem exists_fromEnv (crypto : Crypto) (env : String → Option String) :
    ∃ vault, EncryptedVault.fromEnv crypto env = .ok vault ∧
      vault.keyManager = ((env "VAULT_MASTER_PASSWORD").or (env "VAULT_MASTER_KEY")).map
        (fun password ↦ ⟨crypto.sha256 (asBytes password.toList)⟩) ∧
      vault.encryptedKeys.lookup "admin_secret_key".toList =
        (env "SOROBAN_ADMIN_SECRET_KEY_ENCRYPTED").map String.toList ∧
      vault.encryptedKeys.lookup "master_secret_key".toList = none := by
  unfold EncryptedVault.fromEnv
  cases (env "VAULT_MASTER_PASSWORD").or (env "VAULT_MASTER_KEY") with
  | none => exact ⟨_, rfl, rfl, by simp [lookup_insertFound, EncryptedVault.new],
      by simp [lookup_insertFound, EncryptedVault.new]⟩
  | some password => exact ⟨_, rfl, rfl, by simp [lookup_insertFound], by simp [lookup_insertFound]⟩

/-- The vault signs with its admin key, if that decrypts and is valid. -/
theorem resolveFromVault_eq_ok_iff {vault : EncryptedVault} {key : ResolvedKey}
    (hmaster : vault.encryptedKeys.lookup "master_secret_key".toList = none) :
    resolveFromVault crypto vault ["admin_secret_key", "master_secret_key"] = .ok (some key) ↔
      ∃ secret, vault.retrieveSecretKey crypto "admin_secret_key".toList = .ok secret ∧
        validateSecretKey secret = .ok () ∧ key = ⟨secret, "encrypted vault"⟩ := by
  have hmaster' (secret : Text) :
      vault.retrieveSecretKey crypto "master_secret_key".toList ≠ .ok secret := by
    rw [ne_eq, retrieveSecretKey_eq_ok_iff]
    rintro ⟨encryptedHex, -, hfound, -⟩
    exact absurd (hmaster.symm.trans hfound) nofun
  rw [resolveFromVault]
  cases hadmin : vault.retrieveSecretKey crypto "admin_secret_key".toList with
  | ok secret =>
    simp only [bind_eq_ok_iff, withContext_eq_ok_iff, pure_eq_ok_iff, Option.some.injEq,
      Except.ok.injEq]
    constructor
    · rintro ⟨⟨⟩, hvalid, rfl⟩
      exact ⟨secret, rfl, hvalid, rfl⟩
    · rintro ⟨_, rfl, hvalid, rfl⟩
      exact ⟨(), hvalid, rfl⟩
  | error failure =>
    cases hmasterKey : vault.retrieveSecretKey crypto "master_secret_key".toList with
    | ok secret => exact absurd hmasterKey (hmaster' secret)
    | error failure' => simp only [resolveFromVault, hmasterKey, Except.ok.injEq, reduceCtorEq,
        false_and, exists_const]

end Start

namespace Sample

def contractId : String := "CDLZFC3SYJYDZT7K67VZ75HPJVIEUVNIXF47ZG2FB2RMQQVU2HHGCYSC"

def secretKey : String := "SADQOBYHA4DQOBYHA4DQOBYHA4DQOBYHA4DQOBYHA4DQOBYHA4DQP54X"

/-- An object with one member. -/
def amount : String := "\x7b\"amount\": 5\x7d"

/-- The JSON functions on the object. -/
def json : JsonFunctions where
  fromStr text := if text = amount then some (.object [("amount", .integer 5)]) else none
  toString _ := none

/-- A call with an argument. -/
def call : List (Flag × String) := [(.method, "donate"), (.id, contractId), (.argsJson, amount)]

/-- The environment has a vault with a key. -/
def vaultEnv : String → Option String
  | "VAULT_MASTER_PASSWORD" => some "test_password"
  | "SOROBAN_ADMIN_SECRET_KEY_ENCRYPTED" => some (String.ofList
      (hexEncode EncryptedVault.Sample.nonce.toList ++
        ':' :: hexEncode EncryptedVault.Sample.ciphertext))
  | _ => none

/-- The network of the call. -/
def testnet : NetworkConfig :=
  ⟨"testnet", "https://soroban-testnet.stellar.org:443", "Test SDF Network ; September 2015"⟩

/-- What the call starts in an environment, with a key of some source. -/
def started (env : String → Option String) (key : Text) (source : String) : Started where
  printed := ["🔄 Invoking Contract Method", "━━━━━━━━━━━━━━━━━━━━━━━━━━━",
    "Contract: " ++ contractId, "Method:   donate",
    "Network:  testnet (https://soroban-testnet.stellar.org:443)", "Source:   via " ++ source, ""]
  child :=
    { argv := ["contract", "invoke", "--id", contractId, "--rpc-url",
        "https://soroban-testnet.stellar.org:443", "--network-passphrase",
        "Test SDF Network ; September 2015", "--", "donate", "--amount", "5"]
      env := inheriting env accountVariables key }

/-- The options of the call with a key of some source. -/
def options (sourceKey : Option String) : InvokeOptions :=
  ⟨contractId, "donate", some amount, sourceKey, none, none⟩

theorem start_explicit : start EncryptedVault.Sample.crypto json (fun _ ↦ none)
    (((.sourceKey, secretKey) :: call).flatMap spell) =
      .ok (some (started (fun _ ↦ none) secretKey.toList "--source-key flag")) :=
  start_eq_ok_iff.mpr ⟨options (some secretKey), ["--amount", "5"], testnet,
    ⟨secretKey.toList, "--source-key flag"⟩, by decide +kernel, by decide +kernel,
    by decide +kernel, by decide +kernel, by decide +kernel, rfl⟩

theorem start_vault : start EncryptedVault.Sample.crypto json vaultEnv (call.flatMap spell) =
    .ok (some (started vaultEnv EncryptedVault.Sample.secretKey "encrypted vault")) :=
  start_eq_ok_iff.mpr ⟨options none, ["--amount", "5"], testnet,
    ⟨EncryptedVault.Sample.secretKey, "encrypted vault"⟩, by decide +kernel, by decide +kernel,
    by decide +kernel, by decide +kernel, by decide +kernel, rfl⟩

end Sample

section Results

variable {crypto crypto' : Crypto} {json : JsonFunctions} {env env' : String → Option String}
  {args args' : List String} {items items' : List (Flag × String)} {started started' : Started}

/-- Where the CLI is started, its argument vector reads as the request that the flags, the JSON
object and the environment ask for. -/
theorem start_asks (h : start crypto json env args = .ok (some started)) :
    ∃ items request, args = items.flatMap spell ∧
      readArgv started.child.argv = some request ∧ Asks json env items request := by
  obtain ⟨opts, methodArgs, network, key, hopts, -, hmethodArgs, hnetwork, -, rfl⟩ :=
    start_eq_ok_iff.mp h
  obtain ⟨items, hitems, options⟩ := parseInvokeArgs_eq_ok_iff.mp hopts
  rw [← options.network] at hnetwork
  cases hjson : opts.argsJson with
  | none =>
    rw [hjson] at hmethodArgs
    cases hmethodArgs
    refine ⟨items, _, hitems, readArgv_buildStellarArgs rfl, ?_⟩
    exact {
      contractId := options.contractId
      method := options.method
      send := options.send
      network := ⟨network, hnetwork, rfl, rfl⟩
      no_arguments := fun _ ↦ rfl
      arguments := fun argsJson hgiven ↦ by
        rw [options.argsJson, hjson] at hgiven
        cases hgiven }
  | some argsJson =>
    rw [hjson] at hmethodArgs
    obtain ⟨arguments, hread, hmembers⟩ := readPairs_of_methodArgs hmethodArgs
    refine ⟨items, _, hitems, readArgv_buildStellarArgs hread, ?_⟩
    exact {
      contractId := options.contractId
      method := options.method
      send := options.send
      network := ⟨network, hnetwork, rfl, rfl⟩
      no_arguments := fun hgiven ↦ by
        rw [options.argsJson, hjson] at hgiven
        cases hgiven
      arguments := fun argsJson' hgiven ↦ by
        rw [options.argsJson, hjson] at hgiven
        cases hgiven
        exact hmembers }

theorem start_asks_call : ∃ items request, Sample.call.flatMap spell = items.flatMap spell ∧
    readArgv (Sample.started Sample.vaultEnv EncryptedVault.Sample.secretKey
      "encrypted vault").child.argv = some request ∧
    Asks Sample.json Sample.vaultEnv items request :=
  start_asks Sample.start_vault

/-- Two runs with the same flags but for the keys, and the same environment but for its secrets,
start the CLI with the same arguments and print the same, whatever keys they find. These are in two
variables of the CLI, whose environment is otherwise that of the run. -/
theorem start_hides_key (hargs : args = items.flatMap spell) (hargs' : args' = items'.flatMap spell)
    (hitems : publicItems items = publicItems items')
    (henv : ∀ name ∈ publicVariables, env name = env' name)
    (h : start crypto json env args = .ok (some started))
    (h' : start crypto' json env' args' = .ok (some started')) :
    ∃ key key', Resolved key ∧ Resolved key' ∧ DifferInKeys env env' started started' key key' := by
  obtain ⟨opts, methodArgs, network, key, hopts, -, hmethodArgs, hnetwork, hkey, rfl⟩ :=
    start_eq_ok_iff.mp h
  obtain ⟨opts', methodArgs', network', key', hopts', -, hmethodArgs', hnetwork', hkey', rfl⟩ :=
    start_eq_ok_iff.mp h'
  obtain ⟨read, hread, options⟩ := parseInvokeArgs_eq_ok_iff.mp hopts
  obtain ⟨read', hread', options'⟩ := parseInvokeArgs_eq_ok_iff.mp hopts'
  obtain rfl := prefixFree.flatMap_injective (hargs.symm.trans hread)
  obtain rfl := prefixFree.flatMap_injective (hargs'.symm.trans hread')
  have hsame {flag : Flag} (hflag : flag ≠ .sourceKey) :
      lastGiven items flag = lastGiven items' flag := by
    rw [← lastGiven_publicItems hflag, hitems, lastGiven_publicItems hflag]
  have hid : opts.contractId = opts'.contractId := Option.some.inj <|
    options.contractId.symm.trans ((hsame (by decide)).trans options'.contractId)
  have hmethod : opts.method = opts'.method := Option.some.inj <|
    options.method.symm.trans ((hsame (by decide)).trans options'.method)
  have hsend : opts.send = opts'.send :=
    options.send.symm.trans ((hsame (by decide)).trans options'.send)
  have hjson : opts.argsJson = opts'.argsJson :=
    options.argsJson.symm.trans ((hsame (by decide)).trans options'.argsJson)
  have hgiven : opts.network = opts'.network :=
    options.network.symm.trans ((hsame (by decide)).trans options'.network)
  rw [hjson, hmethodArgs'] at hmethodArgs
  cases hmethodArgs
  rw [hgiven, chosenNetwork_congr henv, hnetwork'] at hnetwork
  cases hnetwork
  refine ⟨key, key', resolved_of_resolveSourceKey hkey, resolved_of_resolveSourceKey hkey', ?_⟩
  exact {
    argv := by simp only [buildStellarArgs, hid, hmethod, hsend]
    printed := ⟨(announcement opts network key.source).take 5, rfl, by
      simp only [announcement, hid, hmethod]
      rfl⟩
    account := fun name hname ↦ ⟨if_pos hname, if_pos hname⟩
    inherited := fun name hname ↦ ⟨if_neg hname, if_neg hname⟩ }

theorem start_hides_key_call : ∃ key key', Resolved key ∧ Resolved key' ∧
    DifferInKeys (fun _ ↦ none) Sample.vaultEnv
      (Sample.started (fun _ ↦ none) Sample.secretKey.toList "--source-key flag")
      (Sample.started Sample.vaultEnv EncryptedVault.Sample.secretKey "encrypted vault")
      key key' := by
  have hitems : publicItems ((.sourceKey, Sample.secretKey) :: Sample.call) =
      publicItems Sample.call := by decide
  have henv : ∀ name ∈ publicVariables, (fun _ ↦ none) name = Sample.vaultEnv name := by decide
  exact start_hides_key rfl rfl hitems henv Sample.start_explicit Sample.start_vault

/-- The command signs with the key of the flag, or else that of the environment, or else the admin
key that the environment holds encrypted, and with no other: the vault that it opens never has the
master keypair that is looked for last. -/
theorem resolveSourceKey_eq_ok_iff {explicit : Option String} {key : ResolvedKey} :
    resolveSourceKey crypto explicit (env "SOROBAN_ADMIN_SECRET_KEY")
        (EncryptedVault.fromEnv crypto env).toOption = .ok key ↔
      SignsWith crypto env explicit key := by
  obtain ⟨vault, hvault, hmanager, hadmin, hmaster⟩ := exists_fromEnv crypto env
  rw [hvault]
  constructor
  · intro h
    unfold resolveSourceKey at h
    split at h
    · simp only [bind_eq_ok_iff, withContext_eq_ok_iff, pure_eq_ok_iff] at h
      obtain ⟨⟨⟩, hvalid, rfl⟩ := h
      exact .flag hvalid
    split at h
    · rename_i given hgiven
      obtain ⟨hfound, hne⟩ := Option.filter_eq_some_iff.mp hgiven
      simp only [bind_eq_ok_iff, withContext_eq_ok_iff, pure_eq_ok_iff] at h
      obtain ⟨⟨⟩, hvalid, rfl⟩ := h
      exact .environment hfound (by simpa using hne) hvalid
    · rename_i hnone
      simp only [Except.toOption, bind_eq_ok_iff, orFail_eq_ok_iff] at h
      obtain ⟨_, hfound, rfl⟩ := h
      obtain ⟨secret, hretrieved, hvalid, rfl⟩ := (resolveFromVault_eq_ok_iff hmaster).mp hfound
      obtain ⟨encryptedHex, manager, hlookup, hopen, himport⟩ :=
        retrieveSecretKey_eq_ok_iff.mp hretrieved
      obtain ⟨hex, hhex, rfl⟩ := Option.map_eq_some_iff.mp (hadmin.symm.trans hlookup)
      obtain ⟨password, hpassword, rfl⟩ := Option.map_eq_some_iff.mp (hmanager.symm.trans hopen)
      exact .vault (by simpa [Option.filter_eq_none_iff] using hnone) hpassword hhex himport hvalid
  · intro h
    cases h with
    | flag hvalid => simp [resolveSourceKey, hvalid, withContext]
    | environment hkey hne hvalid =>
      simp [resolveSourceKey, hkey, Option.filter, hne, hvalid, withContext]
    | @vault password encryptedHex secret hnone hpassword hencrypted hdecrypts hvalid =>
      have hretrieved : vault.retrieveSecretKey crypto "admin_secret_key".toList = .ok secret := by
        rw [hencrypted] at hadmin
        rw [hpassword] at hmanager
        exact retrieveSecretKey_eq_ok_iff.mpr ⟨_, _, hadmin, hmanager, hdecrypts⟩
      have hfound := (resolveFromVault_eq_ok_iff hmaster).mpr ⟨secret, hretrieved, hvalid, rfl⟩
      have hfilter : (env "SOROBAN_ADMIN_SECRET_KEY").filter (· ≠ "") = none := by
        simpa [Option.filter_eq_none_iff] using hnone
      simp only [resolveSourceKey, hfilter, Except.toOption, hfound, ok_bind, orFail]

end Results


end OrbitChain.Tools.Invoke
