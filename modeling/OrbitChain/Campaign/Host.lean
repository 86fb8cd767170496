import OrbitChain.Campaign.Storage

/-!
# The host of the campaign contract

What the contract sees of the ledger it runs on: the time and sequence of the ledger it is called
in, who authorised the call, its own address, and the token contracts. A `World` is the state the
contract can reach, its storage and the token balances, together with the events and the code
hash it has published.

The token contracts are a parameter (`TokenClient`): a query or a transfer may fail and may change
the world. `sep41` is the standard one, a balance ledger. A build with overflow checks traps where
a plain operator leaves its type, and a build without them wraps.
-/

set_option autoImplicit false
set_option relaxedAutoImplicit false

namespace OrbitChain.Campaign

open Foundations

/-- The events of the contract with their data. -/
inductive Event
  | initialized (creator : Address) (goalAmount : ℤ) (endTime assetCount milestoneCount
      createdAtLedger : ℕ)
  | campaignGoalReached (raisedAmount : ℤ)
  | donationReceived (donor : Address) (amount : ℤ) (assetCode : String) (raisedTotal : ℤ)
      (timestamp : ℕ)
  | milestoneUnlocked (milestoneIndex : ℕ) (targetAmount raisedTotal : ℤ)
  | milestoneReleased (milestoneIndex : ℕ) (amount : ℤ) (assetCode : String)
      (recipient : Address) (timestamp : ℕ)
  | milestoneSkipped (milestoneIndex : ℕ) (assetCode : String)
  | assetRefund (donor token : Address) (amount : ℤ)
  | refundClaimed (donor : Address) (totalDonated : ℤ)
  | campaignEnded
  | campaignCancelled (creator : Address)
  | deadlineExtended (creator : Address) (oldDeadline newDeadline : ℕ)
  | contractUpgraded (admin : Address) (newWasmHash : BitVec 256) (timestamp : ℕ)
  | contractFrozen (admin : Address) (timestamp : ℕ)
  | contractUnfrozen (admin : Address) (timestamp : ℕ)
  | assetBlocked (admin asset : Address) (timestamp : ℕ)
  | assetUnblocked (admin asset : Address) (timestamp : ℕ)
  deriving DecidableEq

/-- Everything an invocation can change. Events are in the order of publication. -/
structure World where
  storage : Storage
  ledger : Ledger Address Address
  events : List Event
  wasmHash : BitVec 256

namespace World

/-- A freshly deployed contract beside a ledger of tokens. -/
def deployed (ledger : Ledger Address Address) (wasmHash : BitVec 256) : World where
  storage := .empty
  ledger := ledger
  events := []
  wasmHash := wasmHash

def publish (w : World) (event : Event) : World := { w with events := w.events ++ [event] }

/-- Replace the storage and publish events. -/
def commit (w : World) (storage : Storage) (events : List Event) : World :=
  { w with storage := storage, events := w.events ++ events }

/-- Replace the token balances and publish events. -/
def settle (w : World) (ledger : Ledger Address Address) (events : List Event) : World :=
  { w with ledger := ledger, events := w.events ++ events }

@[simp] theorem settle_nil (w : World) : w.settle w.ledger [] = w := by
  simp [settle]

theorem settle_settle (w : World) (ledger ledger' : Ledger Address Address)
    (events events' : List Event) :
    (w.settle ledger events).settle ledger' events' = w.settle ledger' (events ++ events') := by
  simp [settle]

/-- Doing nothing is settling an empty list of payments. -/
theorem pure_eq_ok_iff_settle_nil {w next : World} {source target : Address} :
    (pure w : Except Failure World) = .ok next ↔
      ∃ ledger, Ledger.transferAll source target [] w.ledger = some ledger ∧
        next = w.settle ledger [] := by
  rw [pure_eq_ok_iff]
  simp only [Ledger.transferAll_nil, Option.some.injEq, exists_eq_left', settle_nil]
  exact eq_comm

end World

/-- The token contracts as the campaign contract calls them. -/
structure TokenClient where
  /-- The balance of an account in a token. -/
  balance : (token account : Address) → World → Except Failure (ℤ × World)
  /-- Move an amount of a token. -/
  transfer : (token source target : Address) → (amount : ℤ) → World → Except Failure World

/-- The standard token: its balances and transfers are those of the ledger. -/
def sep41 : TokenClient where
  balance token account w := .ok (w.ledger.balance token account, w)
  transfer token source target amount w := do
    let ledger ← orFail (w.ledger.transfer token source target amount) .token
    pure { w with ledger := ledger }

/-- The host of a contract instance: its address, its build and the token contracts. -/
structure Host where
  contract : Address
  overflowChecks : Bool
  token : TokenClient

/-- The environment of one invocation. -/
structure Env where
  host : Host
  timestamp : ℕ
  sequence : ℕ
  authorisers : List Address

namespace Env

variable (env : Env)

/-- The address signed for the invocation. The contract never signs for its own entrypoints. -/
def Authorised (address : Address) : Prop :=
  address ∈ env.authorisers ∧ address ≠ env.host.contract

instance (address : Address) : Decidable (env.Authorised address) :=
  inferInstanceAs (Decidable (_ ∧ _))

def requireAuth (address : Address) : Except Failure Unit :=
  failIf (¬ env.Authorised address) .auth

@[simp] theorem requireAuth_eq_ok_iff {address : Address} {u : Unit} :
    env.requireAuth address = .ok u ↔ env.Authorised address := by
  simp [requireAuth]

end Env

end OrbitChain.Campaign
