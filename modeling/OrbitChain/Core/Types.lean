import OrbitChain.Campaign.Types

/-!
# Data model of the core contract

The records, error codes and events of the legacy contract that keeps many campaigns in one
instance, as `crates/contracts/core` declares them. Symbols and strings are strings; amounts are
signed 128-bit values represented by integers, identifiers, times and counters unsigned values
represented by natural numbers.
-/

set_option autoImplicit false
set_option relaxedAutoImplicit false

namespace OrbitChain.Core

open Foundations
open OrbitChain.Campaign (Address)

/-- The fee of a donation in stroops. -/
def baseFee : ℤ := 100

/-- The error codes of the contract, in the order of their discriminants, which start at 1. -/
inductive CoreError
  | campaignNotFound
  | campaignNotActive
  | insufficientAmount
  | insufficientFunds
  | unauthorized
  | assetNotSpecified
  | notInitialized
  | noPendingWithdrawal
  | withdrawalAlreadyPending
  | withdrawalNotPending
  | withdrawalNotApproved
  | invalidWithdrawalAmount
  deriving DecidableEq

/-- Why an invocation failed: an error of the contract, a missing authorization, a trap of a plain
operator, or arguments the host rejects. -/
inductive Failure
  | contract (error : CoreError)
  | auth
  | trap
  | malformed
  deriving DecidableEq

/-- Withdrawal status. -/
inductive WithdrawalStatus
  | pending
  | approved
  | submitted
  deriving DecidableEq

structure WithdrawalRequest where
  campaignId : ℕ
  recipient : Address
  amount : ℤ
  status : WithdrawalStatus
  deriving DecidableEq

/-- A request in another status. -/
def WithdrawalRequest.withStatus (request : WithdrawalRequest) (status : WithdrawalStatus) :
    WithdrawalRequest :=
  { request with status := status }

structure Campaign where
  id : ℕ
  creator : Address
  title : String
  goal : ℤ
  raised : ℤ
  deadline : ℕ
  active : Bool
  deriving DecidableEq

/-- A campaign with another raised amount. -/
def Campaign.withRaised (campaign : Campaign) (raised : ℤ) : Campaign :=
  { campaign with raised := raised }

/-- One entry of a donation history. The amount is what is left after the fee. -/
structure DonationRecord where
  donor : Address
  amount : ℤ
  fee : ℤ
  asset : String
  timestamp : ℕ
  deriving DecidableEq

/-- The last donation of a donor to a campaign. The amount includes the fee. -/
structure DonationMetadata where
  campaignId : ℕ
  donor : Address
  amount : ℤ
  memo : String
  timestamp : ℕ
  deriving DecidableEq

/-- The events of the contract with their data. -/
inductive Event
  | campaignCreated (creator : Address) (count : ℕ)
  | donationReceived (donor : Address) (campaignId : ℕ) (amount : ℤ) (asset memo : String)
  | withdrawalRequested (creator : Address) (campaignId : ℕ) (recipient : Address) (amount : ℤ)
  | withdrawalApproved (admin : Address) (campaignId : ℕ) (amount : ℤ)
  | transactionSubmitted (admin : Address) (campaignId : ℕ) (amount : ℤ)
  deriving DecidableEq

end OrbitChain.Core
