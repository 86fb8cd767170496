import OrbitChain.Foundations.ExceptSteps

/-!
# The deploy command

The arguments of `deploy` and what the command settles from them and the environment before it
touches anything: the network with its RPC URL and passphrase, and the artifact. The network is
given positionally or as `--network`, and both write the same slot; only the positional form looks
whether the slot is taken.
-/

set_option autoImplicit false
set_option relaxedAutoImplicit false

namespace OrbitChain.Tools.Deploy

open Foundations

/-- Default WASM artifact. -/
def defaultWasmPath : String := "target/wasm32v1-none/release/orbitchain_core.wasm"

/-! ### Networks -/

inductive Network
  | testnet
  | mainnet
  | sandbox
  deriving DecidableEq

namespace Network

def parse (name : String) : Except String Network :=
  if name = "testnet" then .ok .testnet
  else if name = "mainnet" then .ok .mainnet
  else if name = "sandbox" then .ok .sandbox
  else .error ("Unknown network: " ++ name ++ " (use testnet | sandbox | mainnet)")

def name : Network → String
  | testnet => "testnet"
  | mainnet => "mainnet"
  | sandbox => "sandbox"

/-- Environment variable that overrides the RPC URL. -/
def rpcEnvVar : Network → String
  | testnet => "SOROBAN_TESTNET_RPC_URL"
  | mainnet => "SOROBAN_MAINNET_RPC_URL"
  | sandbox => "SOROBAN_SANDBOX_RPC_URL"

def defaultRpcUrl : Network → String
  | testnet => "https://soroban-testnet.stellar.org:443"
  | mainnet => "https://soroban-rpc.mainnet.stellar.gateway.fm"
  | sandbox => "http://localhost:8000/soroban/rpc"

/-- Environment variable that overrides the network passphrase. -/
def passphraseEnvVar : Network → String
  | testnet => "SOROBAN_TESTNET_PASSPHRASE"
  | mainnet => "SOROBAN_MAINNET_PASSPHRASE"
  | sandbox => "SOROBAN_SANDBOX_PASSPHRASE"

def defaultPassphrase : Network → String
  | testnet => "Test SDF Network ; September 2015"
  | mainnet => "Public Global Stellar Network ; September 2015"
  | sandbox => "Standalone Network ; February 2017"

def rpcUrl (env : String → Option String) (network : Network) : String :=
  (env network.rpcEnvVar).getD network.defaultRpcUrl

def passphrase (env : String → Option String) (network : Network) : String :=
  (env network.passphraseEnvVar).getD network.defaultPassphrase

end Network

/-! ### Arguments -/

/-- Typed arguments. -/
structure DeployArgs where
  network : Option String
  wasm : Option String
  force : Bool
  help : Bool
  deriving DecidableEq

/-- No argument is given. -/
def DeployArgs.default : DeployArgs := ⟨none, none, false, false⟩

/-- The word starts with a dash. -/
def startsWithDash (word : String) : Prop := word.toList.head? = some '-'

instance (word : String) : Decidable (startsWithDash word) :=
  inferInstanceAs (Decidable (_ = _))

/-- The loop over the rest of the arguments. -/
def parseFrom (parsed : DeployArgs) : List String → Except String DeployArgs
  | [] => .ok parsed
  | arg :: rest =>
    if arg = "--help" ∨ arg = "-h" then parseFrom { parsed with help := true } rest
    else if arg = "--force" then parseFrom { parsed with force := true } rest
    else if arg = "--network" then
      match rest with
      | [] => .error "--network requires a value (testnet | sandbox | mainnet)"
      | value :: rest => parseFrom { parsed with network := some value } rest
    else if arg = "--wasm" then
      match rest with
      | [] => .error "--wasm requires a path"
      | value :: rest => parseFrom { parsed with wasm := some value } rest
    else if startsWithDash arg then
      .error ("Unknown flag: " ++ arg ++ " (see 'deploy --help')")
    else if parsed.network.isSome then
      .error ("Unexpected argument: " ++ arg ++ " (network already given)")
    else parseFrom { parsed with network := some arg } rest

def parseArgs (args : List String) : Except String DeployArgs := parseFrom .default args

/-! ### The command -/

/-- What is deployed, and where. -/
structure Target where
  network : Network
  rpcUrl : String
  passphrase : String
  wasmPath : String
  force : Bool
  deriving DecidableEq

/-- The command up to its prerequisites: what it goes on to deploy, or nothing if it prints its
usage. -/
def runTarget (env : String → Option String) (args : List String) :
    Except String (Option Target) := do
  let parsed ← parseArgs args
  if parsed.help then pure none
  else do
    let networkName := (parsed.network.or (env "SOROBAN_NETWORK")).getD "testnet"
    let network ← Network.parse networkName
    pure (some
      { network := network
        rpcUrl := network.rpcUrl env
        passphrase := network.passphrase env
        wasmPath := parsed.wasm.getD defaultWasmPath
        force := parsed.force })

end OrbitChain.Tools.Deploy
