import OrbitChain.Tools.Vault

/-!
# The invoke command

The command reads its flags, turns a JSON object into the arguments of a contract method, picks a
signing key and starts the stellar CLI with an argument vector and its own environment, in which two
variables are set to the key. It is modelled up to that start (`start`). The JSON functions are a
parameter (`JsonFunctions`), as are the environment and what encrypts the vault.
-/

set_option autoImplicit false
set_option relaxedAutoImplicit false

namespace OrbitChain.Tools.Invoke

open Foundations

/-! ### Flags -/

inductive Flag
  | id
  | method
  | argsJson
  | sourceKey
  | network
  | send
  deriving DecidableEq

namespace Flag

def name : Flag → String
  | id => "--id"
  | method => "--method"
  | argsJson => "--args-json"
  | sourceKey => "--source-key"
  | network => "--network"
  | send => "--send"

def parse (text : String) : Option Flag :=
  if text = "--id" then some id
  else if text = "--method" then some method
  else if text = "--args-json" then some argsJson
  else if text = "--source-key" then some sourceKey
  else if text = "--network" then some network
  else if text = "--send" then some send
  else none

theorem parse_eq_some_iff {text : String} {flag : Flag} :
    parse text = some flag ↔ text = flag.name := by
  unfold parse
  split_ifs with hid hmethod hjson hkey hnetwork hsend <;> cases flag <;> simp_all [name]

end Flag

/-- Parsed options. -/
structure InvokeOptions where
  contractId : String
  method : String
  argsJson : Option String
  sourceKey : Option String
  network : Option String
  send : Option String
  deriving DecidableEq

/-- The values that were given so far. -/
abbrev Given := Flag → Option String

/-- The loop over the rest of the arguments. -/
def parseFrom (given : Given) : List String → Except String Given
  | [] => .ok given
  | arg :: rest =>
    match Flag.parse arg with
    | none => .error ("Unknown argument '" ++ arg ++ "'. Run `orbitchain-cli invoke` for usage.")
    | some flag =>
      match rest with
      | [] => .error ("Flag '" ++ arg ++ "' requires a value")
      | value :: rest => parseFrom (Function.update given flag (some value)) rest

/-- The network is one of two. -/
def checkNetwork : Option String → Except String Unit
  | none => .ok ()
  | some network => failIf (network ≠ "testnet" ∧ network ≠ "mainnet")
      ("Invalid --network '" ++ network ++ "'. Use 'testnet' or 'mainnet'.")

/-- The send mode is one of three. -/
def checkSend : Option String → Except String Unit
  | none => .ok ()
  | some send => failIf (send ≠ "default" ∧ send ≠ "no" ∧ send ≠ "yes")
      ("Invalid --send '" ++ send ++ "'. Use 'default', 'no', or 'yes'.")

def parseInvokeArgs (args : List String) : Except String InvokeOptions := do
  let given ← parseFrom (fun _ ↦ none) args
  let contractId ← orFail (given .id) "Missing required flag '--id <CONTRACT_ID>'"
  let method ← orFail (given .method) "Missing required flag '--method <METHOD>'"
  checkNetwork (given .network)
  checkSend (given .send)
  pure
    { contractId := contractId
      method := method
      argsJson := given .argsJson
      sourceKey := given .sourceKey
      network := given .network
      send := given .send }

/-- The shape of a contract ID; the CLI looks at its checksum. -/
def validateContractId (id : String) : Except String Unit := do
  failIf (id.toList.head? ≠ some 'C') ("Contract ID must start with 'C' (got '" ++ id ++ "')")
  failIf (id.utf8ByteSize ≠ 56)
    ("Contract ID must be 56 characters (got " ++ toString id.utf8ByteSize ++ ")")
  failIf (¬ id.toList.all fun c ↦ c.isUpper || decide ('2' ≤ c ∧ c ≤ '7'))
    "Contract ID contains invalid characters (expected base32: A-Z, 2-7)"

/-! ### Method arguments -/

/-- A JSON value. Integers are those of 64 bits, signed or unsigned; other numbers are known by
the text they are shown with. -/
inductive Json
  | null
  | bool (b : Bool)
  | integer (n : ℤ)
  | float (shown : String)
  | string (s : String)
  | array (items : List Json)
  | object (members : List (String × Json))

/-- The JSON functions that the command uses. -/
structure JsonFunctions where
  fromStr : String → Option Json
  toString : Json → Option String

/-- The name of a method argument is an identifier. -/
def isValidArgName (name : String) : Bool :=
  match name.toList with
  | [] => false
  | c :: rest => (c.isAlpha || c == '_') && rest.all fun c ↦ c.isAlphanum || c == '_'

/-- The text that a value is passed as. -/
def renderValue (json : JsonFunctions) (name : String) : Json → Except String String
  | .string s => .ok s
  | .integer n => .ok (toString n)
  | .float shown => .error ("Argument '" ++ name ++
      "' is a float or an integer beyond u64 range (" ++ shown ++
      "). Quote large integers as strings to preserve precision, e.g. \"" ++ shown ++ "\"")
  | .bool b => .ok (toString b)
  | .array items => orFail (json.toString (.array items)) "Failed to serialize nested JSON value"
  | .object members => orFail (json.toString (.object members))
      "Failed to serialize nested JSON value"
  | .null => .ok "null"

/-- The two arguments of a member. -/
def memberArgs (json : JsonFunctions) (member : String × Json) : Except String (List String) := do
  failIf (isValidArgName member.1 = false) ("Invalid argument name '" ++ member.1 ++
    "' in --args-json (must match [a-zA-Z_][a-zA-Z0-9_]*)")
  let rendered ← renderValue json member.1 member.2
  pure ["--" ++ member.1, rendered]

def methodArgsFromJson (json : JsonFunctions) (argsJson : String) :
    Except String (List String) := do
  let value ← orFail (json.fromStr argsJson) "--args-json is not valid JSON"
  match value with
  | .object members => do
    let args ← members.mapM (memberArgs json)
    pure args.flatten
  | _ => .error ("--args-json must be a JSON object keyed by parameter name, " ++
      "e.g. '\x7b\"amount\":\"5\"\x7d'")

/-- The method arguments, if there is an object of them. -/
def givenMethodArgs (json : JsonFunctions) : Option String → Except String (List String)
  | some argsJson => methodArgsFromJson json argsJson
  | none => .ok []

/-! ### Networks -/

structure NetworkConfig where
  name : String
  rpcUrl : String
  networkPassphrase : String
  deriving DecidableEq

structure EnvironmentConfig where
  network : String
  testnet : NetworkConfig
  mainnet : NetworkConfig

namespace EnvironmentConfig

def fromEnv (env : String → Option String) : EnvironmentConfig where
  network := (env "SOROBAN_NETWORK").getD "testnet"
  testnet :=
    { name := "testnet"
      rpcUrl := (env "SOROBAN_TESTNET_RPC_URL").getD "https://soroban-testnet.stellar.org:443"
      networkPassphrase :=
        (env "SOROBAN_TESTNET_PASSPHRASE").getD "Test SDF Network ; September 2015" }
  mainnet :=
    { name := "mainnet"
      rpcUrl := (env "SOROBAN_MAINNET_RPC_URL").getD
        "https://soroban-rpc.mainnet.stellar.gateway.fm"
      networkPassphrase := (env "SOROBAN_MAINNET_PASSPHRASE").getD
        "Public Global Stellar Network ; September 2015" }

/-- The configuration for the network of a flag. -/
def withNetwork (config : EnvironmentConfig) : Option String → EnvironmentConfig
  | some network => { config with network := network }
  | none => config

def getActiveNetwork (config : EnvironmentConfig) : Except String NetworkConfig :=
  if config.network = "testnet" then .ok config.testnet
  else if config.network = "mainnet" then .ok config.mainnet
  else .error ("Unknown network: " ++ config.network)

end EnvironmentConfig

/-- The argument vector of the CLI. -/
def buildStellarArgs (opts : InvokeOptions) (network : NetworkConfig) (methodArgs : List String) :
    List String :=
  ["contract", "invoke", "--id", opts.contractId, "--rpc-url", network.rpcUrl,
    "--network-passphrase", network.networkPassphrase] ++
  (match opts.send with
    | some send => ["--send", send]
    | none => []) ++
  ["--", opts.method] ++ methodArgs

/-! ### The signing key -/

/-- A signing key and where it comes from. -/
structure ResolvedKey where
  secret : Text
  source : String
  deriving DecidableEq

/-- Show only the context of a failure. -/
def withContext {α : Type} (context : String) (result : Except String α) : Except String α :=
  result.mapError fun _ ↦ context

/-- The first key of the vault that decrypts, which has to be valid. -/
def resolveFromVault (crypto : Crypto) (vault : EncryptedVault) :
    List String → Except String (Option ResolvedKey)
  | [] => .ok none
  | name :: names =>
    match vault.retrieveSecretKey crypto name.toList with
    | .error _ => resolveFromVault crypto vault names
    | .ok key => do
      withContext ("Encrypted vault key '" ++ name ++ "' decrypted to an invalid secret key")
        (validateSecretKey key)
      pure (some ⟨key, "encrypted vault"⟩)

def noKeyFound : String :=
  "No signing key found. Provide one via:\n  " ++
  "1. --source-key <S...>\n  " ++
  "2. SOROBAN_ADMIN_SECRET_KEY in the environment / .env\n  " ++
  "3. Encrypted vault (VAULT_MASTER_PASSWORD + SOROBAN_ADMIN_SECRET_KEY_ENCRYPTED)"

/-- The flag goes before the environment, and the environment before the vault. -/
def resolveSourceKey (crypto : Crypto) (explicit adminSecretKey : Option String)
    (encrypted : Option EncryptedVault) : Except String ResolvedKey :=
  match explicit with
  | some key => do
    withContext "--source-key is not a valid secret key" (validateSecretKey key.toList)
    pure ⟨key.toList, "--source-key flag"⟩
  | none =>
    match adminSecretKey.filter (· ≠ "") with
    | some key => do
      withContext "SOROBAN_ADMIN_SECRET_KEY is not a valid secret key"
        (validateSecretKey key.toList)
      pure ⟨key.toList, "SOROBAN_ADMIN_SECRET_KEY (SecureVault)"⟩
    | none =>
      match encrypted with
      | some vault => do
        let found ← resolveFromVault crypto vault ["admin_secret_key", "master_secret_key"]
        orFail found noKeyFound
      | none => .error noKeyFound

/-! ### The command -/

/-- What the CLI is started with. -/
structure Child where
  argv : List String
  env : String → Option Text

/-- The variables that the CLI takes the key of its account from. -/
def accountVariables : List String := ["STELLAR_ACCOUNT", "SOROBAN_ACCOUNT"]

/-- The environment of a command that is started in another, with variables set to a value. -/
def inheriting (env : String → Option String) (names : List String) (value : Text) :
    String → Option Text :=
  fun name ↦ if name ∈ names then some value else (env name).map String.toList

/-- What is printed before the CLI is started. -/
def announcement (opts : InvokeOptions) (network : NetworkConfig) (source : String) :
    List String :=
  ["🔄 Invoking Contract Method", "━━━━━━━━━━━━━━━━━━━━━━━━━━━", "Contract: " ++ opts.contractId,
    "Method:   " ++ opts.method, "Network:  " ++ network.name ++ " (" ++ network.rpcUrl ++ ")",
    "Source:   via " ++ source, ""]

/-- What the command goes on to do. -/
structure Started where
  printed : List String
  child : Child

/-- The command up to the start of the CLI, or nothing if it prints its usage. -/
def start (crypto : Crypto) (json : JsonFunctions) (env : String → Option String)
    (args : List String) : Except String (Option Started) :=
  if args = [] then .ok none
  else do
    let opts ← parseInvokeArgs args
    validateContractId opts.contractId
    let methodArgs ← givenMethodArgs json opts.argsJson
    let config := (EnvironmentConfig.fromEnv env).withNetwork opts.network
    let network ← config.getActiveNetwork
    let key ← resolveSourceKey crypto opts.sourceKey (env "SOROBAN_ADMIN_SECRET_KEY")
      (EncryptedVault.fromEnv crypto env).toOption
    pure (some
      { printed := announcement opts network key.source
        child :=
          { argv := buildStellarArgs opts network methodArgs
            env := inheriting env accountVariables key.secret } })

end OrbitChain.Tools.Invoke
