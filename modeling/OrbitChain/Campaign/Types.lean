import OrbitChain.Foundations.ExceptSteps
import OrbitChain.Foundations.MachineIntegers
import OrbitChain.Foundations.TokenLedger
import Mathlib.Data.Fintype.EquivFin
import Mathlib.Data.Fintype.Sum

/-!
# Data model of the campaign contract

The records, enumerations and error codes of the campaign contract, as `types.rs` declares them.
An address is an account key or a contract hash. Amounts are signed 128-bit values represented by
integers, times and counters are unsigned values represented by natural numbers; `WellTyped`
says that a record read from the wire has its numbers in range.

Fields that no modelled function reads or writes beyond carrying them (`released_at_ledger`,
`release_tx`) are kept, so that a stored record is the source's record.
-/

set_option autoImplicit false
set_option relaxedAutoImplicit false

namespace OrbitChain.Campaign

open Foundations

/-! ### Addresses and assets -/

/-- An account or a contract. -/
inductive Address
  | account (key : BitVec 256)
  | contract (hash : BitVec 256)
  deriving DecidableEq

namespace Address

/-- Addresses are two copies of the 256-bit words. -/
def equivWords : Fin (2 ^ 256) ⊕ Fin (2 ^ 256) ≃ Address where
  toFun
    | .inl i => .account (.ofFin i)
    | .inr i => .contract (.ofFin i)
  invFun
    | .account key => .inl key.toFin
    | .contract hash => .inr hash.toFin
  left_inv := by rintro (i | i) <;> rfl
  right_inv := by rintro (key | hash) <;> rfl

instance : Fintype Address := Fintype.ofEquiv _ equivWords

end Address

/-- A Stellar asset descriptor: its code and its token contract, if it has one. -/
structure StellarAsset where
  assetCode : String
  issuer : Option Address
  deriving DecidableEq

/-- The asset selector a donor passes. -/
inductive AssetInfo
  | native
  | stellar (address : Address)
  deriving DecidableEq

/-! ### Life cycles -/

/-- Campaign status. -/
inductive CampaignStatus
  | active
  | goalReached
  | ended
  | cancelled
  deriving DecidableEq

namespace CampaignStatus

/-- The campaign has concluded. -/
def isTerminal : CampaignStatus → Bool
  | ended | cancelled => true
  | active | goalReached => false

/-- Donations are accepted. -/
def acceptsDonations : CampaignStatus → Bool
  | active | goalReached => true
  | ended | cancelled => false

/-- The documented status transitions. -/
def canTransitionTo : CampaignStatus → CampaignStatus → Bool
  | active, goalReached | active, ended | active, cancelled => true
  | goalReached, ended | goalReached, cancelled => true
  | _, _ => false

theorem acceptsDonations_eq_not_isTerminal (status : CampaignStatus) :
    status.acceptsDonations = !status.isTerminal := by
  cases status <;> rfl

end CampaignStatus

/-- Milestone status. -/
inductive MilestoneStatus
  | locked
  | unlocked
  | released
  deriving DecidableEq

/-- The documented milestone transitions. -/
def MilestoneStatus.canTransitionTo : MilestoneStatus → MilestoneStatus → Bool
  | .locked, .unlocked | .unlocked, .released => true
  | _, _ => false

/-! ### Stored records -/

/-- The singleton campaign record. -/
structure CampaignData where
  creator : Address
  goalAmount : ℤ
  raisedAmount : ℤ
  endTime : ℕ
  status : CampaignStatus
  acceptedAssets : List StellarAsset
  milestoneCount : ℕ
  minDonationAmount : ℤ
  createdAtLedger : ℕ
  createdAtTime : ℕ
  concludedAtLedger : Option ℕ
  deriving DecidableEq

/-- The amount missing to the goal, clamped to zero. -/
def CampaignData.remaining (campaign : CampaignData) : ℤ :=
  max ((checkedI128 (campaign.goalAmount - campaign.raisedAmount)).getD 0) 0

/-- The token contracts of the accepted assets, one for each entry that has one. -/
def CampaignData.issuers (campaign : CampaignData) : List Address :=
  campaign.acceptedAssets.filterMap StellarAsset.issuer

/-- Most milestones a campaign may have. -/
def maxMilestones : ℕ := 5

/-- A funding target with its release record. -/
structure MilestoneData where
  index : ℕ
  targetAmount : ℤ
  releasedAmount : ℤ
  descriptionHash : BitVec 256
  status : MilestoneStatus
  releasedAt : Option ℕ
  releasedAtLedger : Option ℕ
  releaseTx : Option (BitVec 256)
  releasedTo : Option Address
  deriving DecidableEq

/-- The numbers of a milestone record are in the range of their wire types. -/
def MilestoneData.WellTyped (milestone : MilestoneData) : Prop :=
  milestone.index ≤ u32Max ∧ InI128 milestone.targetAmount ∧ InI128 milestone.releasedAmount ∧
    (∀ time ∈ milestone.releasedAt, time ≤ u64Max) ∧
    ∀ sequence ∈ milestone.releasedAtLedger, sequence ≤ u32Max

instance (milestone : MilestoneData) : Decidable milestone.WellTyped :=
  inferInstanceAs (Decidable (_ ∧ _ ∧ _ ∧ _ ∧ _))

/-- The aggregate record of one donor. -/
structure DonorRecord where
  donor : Address
  totalDonated : ℤ
  asset : AssetInfo
  lastDonationTime : ℕ
  lastDonationLedger : ℕ
  donationCount : ℕ
  refundClaimed : Bool
  deriving DecidableEq

/-- The dashboard report. -/
structure CampaignReport where
  creator : Address
  goalAmount : ℤ
  raisedAmount : ℤ
  remainingAmount : ℤ
  progressBps : ℕ
  endTime : ℕ
  status : CampaignStatus
  milestoneCount : ℕ
  donorCount : ℕ
  donationCount : ℕ
  releaseCount : ℕ
  deriving DecidableEq

/-! ### Errors -/

/-- The typed error codes of the contract. -/
inductive Error
  | alreadyInitialized | notInitialized | unauthorized | campaignEnded | campaignNotActive
  | assetNotAccepted | donationTooSmall | milestoneNotFound | milestoneNotUnlocked
  | previousMilestoneNotReleased | cannotCancelWithFunds | refundWindowClosed
  | invalidGoalAmount | invalidEndTime | invalidMilestones | insufficientContractBalance
  | overflow | invalidAssets | invalidAssetCode | milestoneMismatch | invalidMilestoneCount
  | invalidCampaignTransition | invalidMilestoneTransition | goalNotReached
  | invalidStorageValue | storageWriteError | invalidRecipient | missingIssuerAddress
  | zeroReleaseAmount | nothingToRelease | milestoneReleasedExceedsTarget
  | milestoneAlreadyReleased | unreleasedMilestonesExist | refundNotPermitted | noDonorRecord
  | refundAlreadyClaimed | reentrantCall | invalidAmount | contractFrozen | assetBlocked
  deriving DecidableEq

/-- Why an invocation was rolled back. -/
inductive Failure
  | contract (error : Error)
  | auth
  | trap
  | token
  | malformed
  deriving DecidableEq

namespace DonorRecord

/-- The zeroed record of a first-time donor. -/
def newFor (donor : Address) (asset : AssetInfo) : DonorRecord where
  donor := donor
  totalDonated := 0
  asset := asset
  lastDonationTime := 0
  lastDonationLedger := 0
  donationCount := 0
  refundClaimed := false

/-- Add a donation to the record. -/
def applyDonation (record : DonorRecord) (amount : ℤ) (time ledger : ℕ) (asset : AssetInfo) :
    Except Failure DonorRecord := do
  let totalDonated ← orFail (checkedI128 (record.totalDonated + amount)) (.contract .overflow)
  let donationCount ← orFail (checkedCounter u32Max (record.donationCount + 1))
    (.contract .overflow)
  pure
    { record with
      totalDonated := totalDonated
      lastDonationTime := time
      lastDonationLedger := ledger
      donationCount := donationCount
      asset := asset }

/-- A donation is added to a record when its total and its count have room. -/
theorem applyDonation_eq_ok_iff {record next : DonorRecord} {amount : ℤ} {time ledger : ℕ}
    {asset : AssetInfo} : record.applyDonation amount time ledger asset = .ok next ↔
      InI128 (record.totalDonated + amount) ∧ record.donationCount + 1 ≤ u32Max ∧
        { record with
          totalDonated := record.totalDonated + amount
          lastDonationTime := time
          lastDonationLedger := ledger
          donationCount := record.donationCount + 1
          asset := asset } = next := by
  simp only [applyDonation, bind_eq_ok_iff, orFail_eq_ok_iff, checkedI128_eq_some_iff,
    checkedCounter_eq_some_iff, pure_eq_ok_iff]
  constructor
  · rintro ⟨_, ⟨htotal, rfl⟩, _, ⟨hcount, rfl⟩, hnext⟩
    exact ⟨htotal, hcount, hnext⟩
  · rintro ⟨htotal, hcount, hnext⟩
    exact ⟨_, ⟨htotal, rfl⟩, _, ⟨hcount, rfl⟩, hnext⟩

/-- What a donation does to a record: it never touches the refund flag. -/
theorem applyDonation_ok {record next : DonorRecord} {amount : ℤ} {time ledger : ℕ}
    {asset : AssetInfo} (h : record.applyDonation amount time ledger asset = .ok next) :
    next.totalDonated = record.totalDonated + amount ∧
      next.donationCount = record.donationCount + 1 ∧
      next.refundClaimed = record.refundClaimed ∧ next.donor = record.donor := by
  obtain ⟨-, -, rfl⟩ := applyDonation_eq_ok_iff.mp h
  exact ⟨rfl, rfl, rfl, rfl⟩

end DonorRecord

end OrbitChain.Campaign
