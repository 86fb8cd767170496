import OrbitChain.BatchDonor.Modes
import OrbitChain.Campaign.Settlement
import OrbitChain.Foundations.RunProjections

/-!
# Many campaigns on one ledger

The contracts of the repository as they are deployed together: any number of campaign contracts,
each with its own storage, events and code, beside one ledger of standard tokens, and the batch
donor contract, whose calls fan out to the campaigns. A transaction is an invocation of one
campaign, a batch in either mode, or a transfer between token holders that are not campaigns.

Contracts sign no transaction. Within a batch the batch donor is the direct caller of the
campaigns, so that it also authorises what it calls. `Deployment.settled` chooses whether every
donation is paired with the transfer of its tokens, as on `settledChain`, or stands alone, as on
`chain`.
-/

set_option autoImplicit false
set_option relaxedAutoImplicit false

namespace OrbitChain.Platform

open Foundations Campaign

/-- What one deployed campaign contract has of its own. -/
structure Instance where
  storage : Storage
  events : List Event
  wasmHash : BitVec 256

/-- Every campaign contract's own state and the balances they share. -/
structure State where
  instances : Address → Instance
  ledger : Ledger Address Address

namespace State

/-- The state as one campaign contract sees it. -/
def world (s : State) (contract : Address) : World where
  storage := (s.instances contract).storage
  ledger := s.ledger
  events := (s.instances contract).events
  wasmHash := (s.instances contract).wasmHash

/-- Put back what one campaign contract has left. -/
def setWorld (s : State) (contract : Address) (w : World) : State where
  instances := Function.update s.instances contract ⟨w.storage, w.events, w.wasmHash⟩
  ledger := w.ledger

/-- All campaigns freshly deployed. -/
def deployed (ledger : Ledger Address Address) (wasmHash : Address → BitVec 256) : State where
  instances contract := ⟨.empty, [], wasmHash contract⟩
  ledger := ledger

@[simp] theorem world_setWorld (s : State) (contract : Address) (w : World) :
    (s.setWorld contract w).world contract = w := by
  simp [world, setWorld]

/-- What one campaign leaves, the others see on the ledger alone. -/
theorem world_setWorld_of_ne (s : State) {contract other : Address} (hne : other ≠ contract)
    (w : World) :
    (s.setWorld contract w).world other = { s.world other with ledger := w.ledger } := by
  simp [world, setWorld, hne]

@[simp] theorem ledger_setWorld (s : State) (contract : Address) (w : World) :
    (s.setWorld contract w).ledger = w.ledger :=
  rfl

@[simp] theorem ledger_world (s : State) (contract : Address) :
    (s.world contract).ledger = s.ledger :=
  rfl

@[simp] theorem world_deployed (ledger : Ledger Address Address) (wasmHash : Address → BitVec 256)
    (contract : Address) :
    (deployed ledger wasmHash).world contract = .deployed ledger (wasmHash contract) :=
  rfl

end State

/-- The contracts that are deployed and how they are built. -/
structure Deployment where
  campaigns : Finset Address
  batchDonor : Address
  batchDonor_notMem : batchDonor ∉ campaigns
  overflowChecks : Bool
  settled : Bool

/-- A call of the batch donor: when it runs, who authorised it and what it is called with. -/
structure BatchCall where
  timestamp : ℕ
  sequence : ℕ
  authorisers : List Address
  operator : Address
  targets : List BatchDonor.DonateTarget
  continueOnError : Bool
  deriving DecidableEq

/-- A transaction on the platform. -/
inductive Transaction
  | invoke (contract : Address) (inv : Invocation)
  | batch (call : BatchCall)
  | transfer (token source target : Address) (amount : ℤ)
  deriving DecidableEq

/-- Why a transaction failed. -/
abbrev Failure := BatchDonor.Failure Campaign.Failure

namespace Deployment

variable (d : Deployment)

/-- The chain that a campaign runs on, seen from the campaign. -/
def system (contract : Address) : System Action World Campaign.Failure :=
  if d.settled then settledChain (standardHost contract d.overflowChecks)
  else chain (standardHost contract d.overflowChecks)

/-- Invoke a campaign. There is nothing to call at any other address. -/
def invoke (contract : Address) (inv : Invocation) (s : State) : Except Campaign.Failure State :=
  do
    failIf (contract ∉ d.campaigns) .malformed
    let w ← (d.system contract).exec (.invoke inv) (s.world contract)
    pure (s.setWorld contract w)

/-- The invocation that the batch donor makes for a target. -/
def donation (call : BatchCall) (target : BatchDonor.DonateTarget) : Invocation where
  timestamp := call.timestamp
  sequence := call.sequence
  authorisers := d.batchDonor :: call.authorisers
  call := .donate target.donor target.amount target.asset.toCampaign

/-- The donations that the batch donor calls. -/
def donations (call : BatchCall) : System BatchDonor.DonateTarget State Campaign.Failure where
  exec target s := d.invoke target.campaign (d.donation call target) s

/-- A call of the batch donor in one of its modes. -/
def batch (call : BatchCall) (s : State) :
    Except Failure (List BatchDonor.BatchDonateResult × State) :=
  if call.continueOnError then
    BatchDonor.batchDonateContinueOnError (d.donations call) call.authorisers call.operator
      call.targets s
  else
    BatchDonor.batchDonate (d.donations call) call.authorisers call.operator call.targets s

/-- Nobody signs for the contracts. -/
def Signed (authorisers : List Address) : Prop :=
  ∀ address ∈ authorisers, address ∉ d.campaigns ∧ address ≠ d.batchDonor

instance (authorisers : List Address) : Decidable (d.Signed authorisers) :=
  List.decidableBAll (fun address ↦ address ∉ d.campaigns ∧ address ≠ d.batchDonor) authorisers

/-- The platform: transactions, rolled back when they fail. -/
def platform : System Transaction State Failure where
  exec
    | .invoke contract inv, s => do
      failIf (¬ d.Signed inv.authorisers) .auth
      (d.invoke contract inv s).mapError .invocation
    | .batch call, s => do
      failIf (¬ d.Signed call.authorisers) .auth
      let (_, s) ← d.batch call s
      pure s
    | .transfer token source target amount, s => do
      failIf (source ∈ d.campaigns) .auth
      let ledger ← orFail (s.ledger.transfer token source target amount) (.invocation .token)
      pure { s with ledger := ledger }

/-! ### Successful transactions -/

variable {d}

theorem invoke_eq_ok_iff {contract : Address} {inv : Invocation} {s next : State} :
    d.invoke contract inv s = .ok next ↔ contract ∈ d.campaigns ∧
      ∃ w, (d.system contract).exec (.invoke inv) (s.world contract) = .ok w ∧
        s.setWorld contract w = next := by
  simp only [invoke, bind_eq_ok_iff, failIf_eq_ok_iff, not_not, pure_eq_ok_iff, exists_and_left,
    exists_const]

theorem exec_invoke_eq_ok_iff {contract : Address} {inv : Invocation} {s next : State} :
    d.platform.exec (.invoke contract inv) s = .ok next ↔
      d.Signed inv.authorisers ∧ d.invoke contract inv s = .ok next := by
  simp only [platform, bind_eq_ok_iff, failIf_eq_ok_iff, not_not, mapError_eq_ok_iff,
    exists_and_left, exists_const]

theorem exec_batch_eq_ok_iff {call : BatchCall} {s next : State} :
    d.platform.exec (.batch call) s = .ok next ↔
      d.Signed call.authorisers ∧ ∃ results, d.batch call s = .ok (results, next) := by
  simp only [platform, bind_eq_ok_iff, failIf_eq_ok_iff, not_not, pure_eq_ok_iff,
    exists_and_left, exists_const, Prod.exists, exists_eq_right]

theorem exec_transfer_eq_ok_iff {token source target : Address} {amount : ℤ} {s next : State} :
    d.platform.exec (.transfer token source target amount) s = .ok next ↔
      source ∉ d.campaigns ∧ ∃ ledger, s.ledger.transfer token source target amount = some ledger ∧
        { s with ledger := ledger } = next := by
  simp only [platform, bind_eq_ok_iff, failIf_eq_ok_iff, orFail_eq_ok_iff, pure_eq_ok_iff,
    exists_and_left, exists_const]

end Deployment

/-! ### A sample platform -/

namespace Sample

open Campaign.Sample (contract creator donor secondDonor token milestone)

def secondContract : Address := .contract 1

def batchDonor : Address := .contract 2

/-- Two campaigns and the batch donor, every donation settled. -/
def deployment : Deployment where
  campaigns := {contract, secondContract}
  batchDonor := batchDonor
  batchDonor_notMem := by decide
  overflowChecks := true
  settled := true

/-- Everyone but the three contracts starts with a million of every token. -/
def ledger : Ledger Address Address :=
  { Campaign.Sample.ledger with
    balance := fun _ account ↦
      if account ∈ [contract, secondContract, batchDonor] then 0 else 1000000
    balance_nonneg := by
      intro _ account
      split_ifs <;> decide }

/-- A call of a campaign signed by one account. -/
def calling (contract signer : Address) (call : Call) : Transaction :=
  .invoke contract ⟨20, 2, [signer], call⟩

/-- The creator opens a campaign for one token with one milestone. -/
def opening (contract : Address) (goalAmount : ℤ) : Transaction :=
  calling contract creator (.initializeCampaign creator goalAmount 1000 [⟨"XLM", some token⟩]
    [milestone goalAmount] 0)

/-- One of two donors gives to both campaigns in a batch, the other to the second; a target with
nothing to give fails; the first campaign is cancelled and refunds its donor. -/
def twoCampaigns : List Transaction :=
  [opening contract 1000, opening secondContract 2000,
    .batch ⟨20, 2, [donor, secondDonor], donor,
      [⟨contract, donor, 100, .stellar token⟩, ⟨secondContract, donor, 0, .stellar token⟩,
        ⟨secondContract, secondDonor, 40, .stellar token⟩], true⟩,
    calling secondContract donor (.donate donor 30 (.stellar token)),
    calling contract creator .cancelCampaign,
    calling contract donor (.claimRefund donor)]

def start : State := .deployed ledger fun _ ↦ 0

def history (transactions : List Transaction) : List (Receipt Transaction State) :=
  (deployment.platform.replay transactions start).1

def reached (transactions : List Transaction) : State :=
  (deployment.platform.replay transactions start).2

theorem run (transactions : List Transaction) :
    Run deployment.platform start (history transactions) (reached transactions) :=
  System.run_replay _ transactions start

end Sample

end OrbitChain.Platform
