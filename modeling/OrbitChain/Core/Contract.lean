import OrbitChain.Core.Types
import OrbitChain.Foundations.TransitionRuns
import Mathlib.Logic.Function.Basic

/-!
# The core contract

Storage, entrypoints and views of the contract, and the system its runs are taken in (`chain`).
Campaigns are numbered by one counter, which `initialize` sets back to zero whoever calls it. A
donation writes seven differently keyed entries; a withdrawal is requested by the campaign's
creator, approved and then marked as submitted by the stored admin, and the campaign's raised
amount is lowered at the approval. Sums and counters use plain operators: they trap in a build with
overflow checks and wrap in one without.
-/

set_option autoImplicit false
set_option relaxedAutoImplicit false

namespace OrbitChain.Core

open Foundations
open OrbitChain.Campaign (Address)

/-- The storage of the contract, one field for each key. -/
structure Storage where
  admin : Option Address
  count : Option ℕ
  campaign : ℕ → Option Campaign
  pendingWithdrawal : ℕ → Option WithdrawalRequest
  assetRaised : ℕ → String → Option ℤ
  history : ℕ → Option (List DonationRecord)
  donors : ℕ → Option (List Address)
  donation : ℕ → Address → Option DonationMetadata
  totalTx : Option ℕ
  totalDonations : Option ℕ
  totalWithdrawals : Option ℕ

/-- The storage of a contract that has just been deployed. -/
def Storage.empty : Storage where
  admin := none
  count := none
  campaign := fun _ ↦ none
  pendingWithdrawal := fun _ ↦ none
  assetRaised := fun _ _ ↦ none
  history := fun _ ↦ none
  donors := fun _ ↦ none
  donation := fun _ _ ↦ none
  totalTx := none
  totalDonations := none
  totalWithdrawals := none

/-- Everything an invocation can change. Events are in the order of publication. -/
structure World where
  storage : Storage
  events : List Event

/-- A freshly deployed contract. -/
def World.deployed : World := ⟨.empty, []⟩

/-- Replace the storage and publish an event. -/
def World.commit (w : World) (storage : Storage) (event : Event) : World :=
  ⟨storage, w.events ++ [event]⟩

/-- The environment of one invocation. -/
structure Env where
  overflowChecks : Bool
  timestamp : ℕ
  authorisers : List Address

/-- The address signed for the invocation. -/
def Env.requireAuth (env : Env) (address : Address) : Except Failure Unit :=
  failIf (address ∉ env.authorisers) .auth

@[simp] theorem Env.requireAuth_eq_ok_iff {env : Env} {address : Address} {u : Unit} :
    env.requireAuth address = .ok u ↔ address ∈ env.authorisers := by
  simp [requireAuth]

/-! ### Views -/

namespace Storage

variable (s : Storage)

def getCampaign (campaignId : ℕ) : Option Campaign := s.campaign campaignId

def getAssetRaised (campaignId : ℕ) (asset : String) : ℤ :=
  (s.assetRaised campaignId asset).getD 0

/-- The donation history, oldest first; the `get_donation_history` view is a page of it. -/
def getHistory (campaignId : ℕ) : List DonationRecord := (s.history campaignId).getD []

def getDonors (campaignId : ℕ) : List Address := (s.donors campaignId).getD []

def getDonorCount (campaignId : ℕ) : ℕ := (s.getDonors campaignId).length

def getWithdrawalRequest (campaignId : ℕ) : Option WithdrawalRequest :=
  s.pendingWithdrawal campaignId

def getTotalTxCount : ℕ := s.totalTx.getD 0

def getCampaignCount : ℕ := s.count.getD 0

def getTotalDonations : ℕ := s.totalDonations.getD 0

def getTotalWithdrawals : ℕ := s.totalWithdrawals.getD 0

end Storage

/-! ### Entrypoints -/

namespace OrbitChainContract

/-- The `initialize` entrypoint: any address that signs becomes the admin, at any time. -/
def initializeContract (env : Env) (admin : Address) (w : World) : Except Failure World := do
  env.requireAuth admin
  pure { w with storage := { w.storage with admin := some admin, count := some 0 } }

/-- Create a campaign and return its identifier. -/
def createCampaign (env : Env) (creator : Address) (title : String) (goal : ℤ) (deadline : ℕ)
    (w : World) : Except Failure (ℕ × World) := do
  env.requireAuth creator
  let count ← uncheckedU64 env.overflowChecks .trap (w.storage.getCampaignCount + 1)
  let campaign : Campaign :=
    { id := count
      creator := creator
      title := title
      goal := goal
      raised := 0
      deadline := deadline
      active := true }
  pure (count, w.commit
    { w.storage with
      campaign := Function.update w.storage.campaign count (some campaign)
      count := some count }
    (.campaignCreated creator count))

/-- The donor lists with a donor on the list of a campaign, which is only written when the donor is
new. -/
def registerDonor (donors : ℕ → Option (List Address)) (campaignId : ℕ) (donor : Address) :
    ℕ → Option (List Address) :=
  let listed := (donors campaignId).getD []
  if donor ∈ listed then donors
  else Function.update donors campaignId (some (listed ++ [donor]))

/-- Record a donation. No token is moved, and the campaign's deadline is not looked at. -/
def donate (env : Env) (donor : Address) (campaignId : ℕ) (amount : ℤ) (asset memo : String)
    (w : World) : Except Failure World := do
  env.requireAuth donor
  failIf (asset = "") (.contract .assetNotSpecified)
  failIf (amount ≤ baseFee) (.contract .insufficientAmount)
  let campaign ← orFail (w.storage.campaign campaignId) (.contract .campaignNotFound)
  failIf (campaign.active = false) (.contract .campaignNotActive)
  let net ← uncheckedI128 env.overflowChecks .trap (amount - baseFee)
  let raised ← uncheckedI128 env.overflowChecks .trap (campaign.raised + net)
  let s := { w.storage with
    campaign := Function.update w.storage.campaign campaignId (some (campaign.withRaised raised)) }
  let assetRaised ← uncheckedI128 env.overflowChecks .trap (s.getAssetRaised campaignId asset + net)
  let s := { s with
    assetRaised := Function.update s.assetRaised campaignId
      (Function.update (s.assetRaised campaignId) asset (some assetRaised)) }
  let record : DonationRecord :=
    { donor := donor
      amount := net
      fee := baseFee
      asset := asset
      timestamp := env.timestamp }
  let s := { s with
    history := Function.update s.history campaignId (some (s.getHistory campaignId ++ [record])) }
  let metadata : DonationMetadata :=
    { campaignId := campaignId
      donor := donor
      amount := amount
      memo := memo
      timestamp := env.timestamp }
  let s := { s with
    donation := Function.update s.donation campaignId
      (Function.update (s.donation campaignId) donor (some metadata)) }
  let s := { s with donors := registerDonor s.donors campaignId donor }
  let txCount ← uncheckedU64 env.overflowChecks .trap (s.getTotalTxCount + 1)
  let donationCount ← uncheckedU64 env.overflowChecks .trap (s.getTotalDonations + 1)
  pure (w.commit { s with totalTx := some txCount, totalDonations := some donationCount }
    (.donationReceived donor campaignId amount asset memo))

/-- Request a withdrawal from a campaign. A request that was submitted is replaced. -/
def withdraw (env : Env) (creator : Address) (campaignId : ℕ) (recipient : Address) (amount : ℤ)
    (w : World) : Except Failure World := do
  env.requireAuth creator
  failIf (amount ≤ 0) (.contract .invalidWithdrawalAmount)
  let campaign ← orFail (w.storage.campaign campaignId) (.contract .campaignNotFound)
  failIf (campaign.creator ≠ creator) (.contract .unauthorized)
  failIf (campaign.raised < amount) (.contract .insufficientFunds)
  failIf ((w.storage.pendingWithdrawal campaignId).any (fun existing ↦
    existing.status ≠ .submitted) = true) (.contract .withdrawalAlreadyPending)
  let request : WithdrawalRequest :=
    { campaignId := campaignId
      recipient := recipient
      amount := amount
      status := .pending }
  let txCount ← uncheckedU64 env.overflowChecks .trap (w.storage.getTotalTxCount + 1)
  let withdrawalCount ← uncheckedU64 env.overflowChecks .trap (w.storage.getTotalWithdrawals + 1)
  pure (w.commit
    { w.storage with
      pendingWithdrawal := Function.update w.storage.pendingWithdrawal campaignId (some request)
      totalTx := some txCount
      totalWithdrawals := some withdrawalCount }
    (.withdrawalRequested creator campaignId recipient amount))

/-- The signer is the stored admin. -/
def requireAdmin (env : Env) (admin : Address) (s : Storage) : Except Failure Unit := do
  env.requireAuth admin
  let storedAdmin ← orFail s.admin (.contract .notInitialized)
  failIf (admin ≠ storedAdmin) (.contract .unauthorized)

/-- Approve a pending withdrawal: its amount leaves the campaign's raised amount. -/
def approveWithdrawal (env : Env) (admin : Address) (campaignId : ℕ) (w : World) :
    Except Failure (WithdrawalRequest × World) := do
  requireAdmin env admin w.storage
  let request ← orFail (w.storage.pendingWithdrawal campaignId) (.contract .noPendingWithdrawal)
  failIf (request.status ≠ .pending) (.contract .withdrawalNotPending)
  let campaign ← orFail (w.storage.campaign campaignId) (.contract .campaignNotFound)
  failIf (campaign.raised < request.amount) (.contract .insufficientFunds)
  let raised ← uncheckedI128 env.overflowChecks .trap (campaign.raised - request.amount)
  let request := request.withStatus .approved
  pure (request, w.commit
    { w.storage with
      campaign := Function.update w.storage.campaign campaignId
        (some (campaign.withRaised raised))
      pendingWithdrawal := Function.update w.storage.pendingWithdrawal campaignId (some request) }
    (.withdrawalApproved admin campaignId request.amount))

/-- Record that an approved withdrawal was submitted to the network. -/
def submitTransaction (env : Env) (admin : Address) (campaignId : ℕ) (w : World) :
    Except Failure (WithdrawalRequest × World) := do
  requireAdmin env admin w.storage
  let request ← orFail (w.storage.pendingWithdrawal campaignId) (.contract .noPendingWithdrawal)
  failIf (request.status ≠ .approved) (.contract .withdrawalNotApproved)
  let request := request.withStatus .submitted
  pure (request, w.commit
    { w.storage with
      pendingWithdrawal := Function.update w.storage.pendingWithdrawal campaignId (some request) }
    (.transactionSubmitted admin campaignId request.amount))

end OrbitChainContract

/-! ### Invocations -/

/-- The entrypoints that can change the contract, with their arguments. -/
inductive Call
  | initializeContract (admin : Address)
  | createCampaign (creator : Address) (title : String) (goal : ℤ) (deadline : ℕ)
  | donate (donor : Address) (campaignId : ℕ) (amount : ℤ) (asset memo : String)
  | withdraw (creator : Address) (campaignId : ℕ) (recipient : Address) (amount : ℤ)
  | approveWithdrawal (admin : Address) (campaignId : ℕ)
  | submitTransaction (admin : Address) (campaignId : ℕ)
  deriving DecidableEq

/-- The arguments are values of their wire types. -/
def Call.WellTyped : Call → Prop
  | .initializeContract _ => True
  | .createCampaign _ _ goal deadline => InI128 goal ∧ deadline ≤ u64Max
  | .donate _ campaignId amount _ _ => campaignId ≤ u64Max ∧ InI128 amount
  | .withdraw _ campaignId _ amount => campaignId ≤ u64Max ∧ InI128 amount
  | .approveWithdrawal _ campaignId => campaignId ≤ u64Max
  | .submitTransaction _ campaignId => campaignId ≤ u64Max

instance : DecidablePred Call.WellTyped
  | .initializeContract _ => inferInstanceAs (Decidable True)
  | .createCampaign _ _ _ _ => inferInstanceAs (Decidable (_ ∧ _))
  | .donate _ _ _ _ _ => inferInstanceAs (Decidable (_ ∧ _))
  | .withdraw _ _ _ _ => inferInstanceAs (Decidable (_ ∧ _))
  | .approveWithdrawal _ campaignId => inferInstanceAs (Decidable (campaignId ≤ u64Max))
  | .submitTransaction _ campaignId => inferInstanceAs (Decidable (campaignId ≤ u64Max))

/-- What an entrypoint returns. -/
inductive Reply
  | unit
  | campaign (id : ℕ)
  | request (request : WithdrawalRequest)
  deriving DecidableEq

open OrbitChainContract in
/-- Run an entrypoint. -/
def invoke (env : Env) (call : Call) (w : World) : Except Failure (Reply × World) :=
  match call with
  | .initializeContract admin => do
    let w ← initializeContract env admin w
    pure (.unit, w)
  | .createCampaign creator title goal deadline => do
    let (id, w) ← createCampaign env creator title goal deadline w
    pure (.campaign id, w)
  | .donate donor campaignId amount asset memo => do
    let w ← donate env donor campaignId amount asset memo w
    pure (.unit, w)
  | .withdraw creator campaignId recipient amount => do
    let w ← withdraw env creator campaignId recipient amount w
    pure (.unit, w)
  | .approveWithdrawal admin campaignId => do
    let (request, w) ← approveWithdrawal env admin campaignId w
    pure (.request request, w)
  | .submitTransaction admin campaignId => do
    let (request, w) ← submitTransaction env admin campaignId w
    pure (.request request, w)

/-- An invocation: the ledger time, who signed, and the call. -/
structure Invocation where
  timestamp : ℕ
  authorisers : List Address
  call : Call
  deriving DecidableEq

/-- The environment an invocation runs in. -/
def Invocation.env (inv : Invocation) (overflowChecks : Bool) : Env :=
  ⟨overflowChecks, inv.timestamp, inv.authorisers⟩

/-- An invocation of the contract with what it returns. -/
def Invocation.run (inv : Invocation) (overflowChecks : Bool) (w : World) :
    Except Failure (Reply × World) := do
  failIf (¬ inv.call.WellTyped) .malformed
  invoke (inv.env overflowChecks) inv.call w

/-- The contract on its chain: anyone invokes it at any ledger time with any authorizations, and
failed invocations are rolled back. -/
def chain (overflowChecks : Bool) : System Invocation World Failure where
  exec inv w := do
    let (_, next) ← inv.run overflowChecks w
    pure next

end OrbitChain.Core
