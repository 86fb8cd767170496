import OrbitChain.Campaign.Types
import Mathlib.Logic.Function.Basic

/-!
# Contract storage

The entries of the contract's storage, one field for each storage key, and the accessors of
`storage.rs`. A missing entry is `none`; loading a missing counter or flag gives its default. The
re-entrancy lock is a temporary entry whose presence is what matters. Entries have no lifetimes
(TTLs) here, they stay until they are overwritten; `HostStorage` has entries that expire.

Milestones have two layouts. The current one keeps them all in one vector; contracts written
before it kept one entry for each index, and reads fall back to those (`getMilestonesVec`,
`getMilestone`). The first write through `setMilestone` moves the set to the vector.
-/

set_option autoImplicit false
set_option relaxedAutoImplicit false

namespace OrbitChain.Campaign

open Foundations

/-- The storage of one contract instance. -/
@[ext]
structure Storage where
  campaignData : Option CampaignData
  milestoneData : ℕ → Option MilestoneData
  milestonesVec : Option (List MilestoneData)
  donorData : Address → Option DonorRecord
  totalRaised : Option ℤ
  assetRaised : Address → Option ℤ
  donorAssetDonation : Address → Address → Option ℤ
  donationCount : Option ℕ
  uniqueDonorCount : Option ℕ
  releaseCount : Option ℕ
  frozen : Option Bool
  blockedAsset : Address → Option Bool
  cachedReport : Option CampaignReport
  reentrancyLock : Bool

namespace Storage

/-- The storage of a contract that has just been deployed. -/
def empty : Storage where
  campaignData := none
  milestoneData := fun _ ↦ none
  milestonesVec := none
  donorData := fun _ ↦ none
  totalRaised := none
  assetRaised := fun _ ↦ none
  donorAssetDonation := fun _ _ ↦ none
  donationCount := none
  uniqueDonorCount := none
  releaseCount := none
  frozen := none
  blockedAsset := fun _ ↦ none
  cachedReport := none
  reentrancyLock := false

/-! ### Campaign record -/

def setCampaign (s : Storage) (data : CampaignData) : Storage :=
  { s with campaignData := some data }

def getCampaign (s : Storage) : Option CampaignData := s.campaignData

/-! ### Milestones -/

/-- Milestone indices are 32-bit. -/
def indexSpace : ℕ := 2 ^ 32

/-- The entries of the per-index layout from an index on, up to the first missing one. -/
def gatherMilestones (entries : ℕ → Option MilestoneData) : ℕ → ℕ → List MilestoneData
  | 0, _ => []
  | fuel + 1, i =>
    match entries i with
    | some m => m :: gatherMilestones entries fuel (i + 1)
    | none => []

/-- The milestone vector, gathered from the per-index layout when there is none. -/
def getMilestonesVec (s : Storage) : List MilestoneData :=
  match s.milestonesVec with
  | some v => v
  | none => gatherMilestones s.milestoneData indexSpace 0

def setMilestonesVec (s : Storage) (v : List MilestoneData) : Storage :=
  { s with milestonesVec := some v }

/-- Write a milestone. An index past the end of the vector goes to its own entry. -/
def setMilestone (s : Storage) (index : ℕ) (data : MilestoneData) : Storage :=
  let v := s.getMilestonesVec
  if index < v.length then s.setMilestonesVec (v.set index data)
  else if index = v.length then s.setMilestonesVec (v ++ [data])
  else { s with milestoneData := Function.update s.milestoneData index (some data) }

def getMilestone (s : Storage) (index : ℕ) : Option MilestoneData :=
  let v := s.getMilestonesVec
  if index < v.length then v[index]? else s.milestoneData index

/-- Flip every `Locked` milestone up to the first target above the raised amount, and list the
indices and targets of the flipped ones. -/
def unlockScan (raised : ℤ) : ℕ → List MilestoneData → List MilestoneData × List (ℕ × ℤ)
  | _, [] => ([], [])
  | i, m :: rest =>
    if raised < m.targetAmount then (m :: rest, [])
    else if m.status = .locked then
      ({ m with status := .unlocked } :: (unlockScan raised (i + 1) rest).1,
        (i, m.targetAmount) :: (unlockScan raised (i + 1) rest).2)
    else (m :: (unlockScan raised (i + 1) rest).1, (unlockScan raised (i + 1) rest).2)

/-- The unlock burst of a donation. Nothing is written when nothing was flipped. -/
def unlockMilestonesBatch (s : Storage) (raised : ℤ) : Storage × List (ℕ × ℤ) :=
  let scan := unlockScan raised 0 s.getMilestonesVec
  if scan.2.isEmpty then (s, []) else (s.setMilestonesVec scan.1, scan.2)

/-! ### Donors -/

def setDonor (s : Storage) (donor : Address) (record : DonorRecord) : Storage :=
  { s with donorData := Function.update s.donorData donor (some record) }

def getDonor (s : Storage) (donor : Address) : Option DonorRecord := s.donorData donor

def getDonorAssetDonation (s : Storage) (donor asset : Address) : ℤ :=
  (s.donorAssetDonation donor asset).getD 0

/-- Add to what a donor gave in one token. -/
def incrementDonorAssetDonation (s : Storage) (donor asset : Address) (amount : ℤ) :
    Except Failure Storage := do
  let newAmount ← orFail (checkedI128 (s.getDonorAssetDonation donor asset + amount))
    (.contract .overflow)
  pure
    { s with
      donorAssetDonation := Function.update s.donorAssetDonation donor
        (Function.update (s.donorAssetDonation donor) asset (some newAmount)) }

/-! ### Totals and counters -/

def getTotalRaised (s : Storage) : ℤ := s.totalRaised.getD 0

/-- Write the total of all tokens, which must not be negative. -/
def setTotalRaised (s : Storage) (amount : ℤ) : Except Failure Storage := do
  failIf (amount < 0) (.contract .invalidAmount)
  pure { s with totalRaised := some amount }

def getAssetRaised (s : Storage) (token : Address) : ℤ := (s.assetRaised token).getD 0

/-- Write the total of one token, which must not be negative. -/
def setAssetRaised (s : Storage) (token : Address) (amount : ℤ) : Except Failure Storage := do
  failIf (amount < 0) (.contract .invalidAmount)
  pure { s with assetRaised := Function.update s.assetRaised token (some amount) }

/-- Add a positive amount to the total of one token. -/
def incrementAssetRaised (s : Storage) (token : Address) (delta : ℤ) :
    Except Failure Storage := do
  failIf (delta ≤ 0) (.contract .invalidAmount)
  let newTotal ← orFail (checkedI128 (s.getAssetRaised token + delta)) (.contract .overflow)
  s.setAssetRaised token newTotal

def getDonationCount (s : Storage) : ℕ := s.donationCount.getD 0

def incrementDonationCount (s : Storage) : Except Failure Storage := do
  let next ← orFail (checkedCounter u64Max (s.getDonationCount + 1)) (.contract .overflow)
  pure { s with donationCount := some next }

def getUniqueDonorCount (s : Storage) : ℕ := s.uniqueDonorCount.getD 0

def incrementUniqueDonorCount (s : Storage) : Except Failure Storage := do
  let next ← orFail (checkedCounter u32Max (s.getUniqueDonorCount + 1)) (.contract .overflow)
  pure { s with uniqueDonorCount := some next }

def getReleaseCount (s : Storage) : ℕ := s.releaseCount.getD 0

def incrementReleaseCount (s : Storage) : Except Failure Storage := do
  let next ← orFail (checkedCounter u64Max (s.getReleaseCount + 1)) (.contract .overflow)
  pure { s with releaseCount := some next }

/-! ### Lock and flags -/

/-- Take the re-entrancy lock, unless it is taken. -/
def acquireLock (s : Storage) : Except Failure Storage := do
  failIf (s.reentrancyLock = true) (.contract .reentrantCall)
  pure { s with reentrancyLock := true }

def releaseLock (s : Storage) : Storage := { s with reentrancyLock := false }

def isFrozen (s : Storage) : Bool := s.frozen.getD false

def setFrozen (s : Storage) (frozen : Bool) : Storage := { s with frozen := some frozen }

def isAssetBlocked (s : Storage) (asset : Address) : Bool := (s.blockedAsset asset).getD false

def blockAsset (s : Storage) (asset : Address) : Storage :=
  { s with blockedAsset := Function.update s.blockedAsset asset (some true) }

def unblockAsset (s : Storage) (asset : Address) : Storage :=
  { s with blockedAsset := Function.update s.blockedAsset asset (some false) }

def setCachedReport (s : Storage) (report : CampaignReport) : Storage :=
  { s with cachedReport := some report }

/-! ### What successful writes did -/

section Writes

variable {s next : Storage}

@[simp] theorem acquireLock_eq_ok_iff : s.acquireLock = .ok next ↔
    s.reentrancyLock = false ∧ { s with reentrancyLock := true } = next := by
  simp [acquireLock]

@[simp] theorem setTotalRaised_eq_ok_iff {amount : ℤ} : s.setTotalRaised amount = .ok next ↔
    0 ≤ amount ∧ { s with totalRaised := some amount } = next := by
  simp [setTotalRaised]

@[simp] theorem setAssetRaised_eq_ok_iff {token : Address} {amount : ℤ} :
    s.setAssetRaised token amount = .ok next ↔
      0 ≤ amount ∧
        { s with assetRaised := Function.update s.assetRaised token (some amount) } = next := by
  simp [setAssetRaised]

@[simp] theorem incrementAssetRaised_eq_ok_iff {token : Address} {delta : ℤ} :
    s.incrementAssetRaised token delta = .ok next ↔
      0 < delta ∧ InI128 (s.getAssetRaised token + delta) ∧ 0 ≤ s.getAssetRaised token + delta ∧
        { s with
          assetRaised := Function.update s.assetRaised token
            (some (s.getAssetRaised token + delta)) } = next := by
  simp only [incrementAssetRaised, bind_eq_ok_iff, failIf_eq_ok_iff, not_le, orFail_eq_ok_iff,
    checkedI128_eq_some_iff, setAssetRaised_eq_ok_iff]
  constructor
  · rintro ⟨_, hdelta, _, ⟨hrange, rfl⟩, hnonneg, hnext⟩
    exact ⟨hdelta, hrange, hnonneg, hnext⟩
  · rintro ⟨hdelta, hrange, hnonneg, hnext⟩
    exact ⟨(), hdelta, _, ⟨hrange, rfl⟩, hnonneg, hnext⟩

@[simp] theorem incrementDonorAssetDonation_eq_ok_iff {donor asset : Address} {amount : ℤ} :
    s.incrementDonorAssetDonation donor asset amount = .ok next ↔
      InI128 (s.getDonorAssetDonation donor asset + amount) ∧
        { s with
          donorAssetDonation := Function.update s.donorAssetDonation donor
            (Function.update (s.donorAssetDonation donor) asset
              (some (s.getDonorAssetDonation donor asset + amount))) } = next := by
  simp only [incrementDonorAssetDonation, bind_eq_ok_iff, orFail_eq_ok_iff,
    checkedI128_eq_some_iff, pure_eq_ok_iff]
  constructor
  · rintro ⟨_, ⟨hrange, rfl⟩, hnext⟩
    exact ⟨hrange, hnext⟩
  · rintro ⟨hrange, hnext⟩
    exact ⟨_, ⟨hrange, rfl⟩, hnext⟩

@[simp] theorem incrementDonationCount_eq_ok_iff : s.incrementDonationCount = .ok next ↔
    s.getDonationCount + 1 ≤ u64Max ∧
      { s with donationCount := some (s.getDonationCount + 1) } = next := by
  simp [incrementDonationCount, and_assoc]

@[simp] theorem incrementUniqueDonorCount_eq_ok_iff : s.incrementUniqueDonorCount = .ok next ↔
    s.getUniqueDonorCount + 1 ≤ u32Max ∧
      { s with uniqueDonorCount := some (s.getUniqueDonorCount + 1) } = next := by
  simp [incrementUniqueDonorCount, and_assoc]

@[simp] theorem incrementReleaseCount_eq_ok_iff : s.incrementReleaseCount = .ok next ↔
    s.getReleaseCount + 1 ≤ u64Max ∧
      { s with releaseCount := some (s.getReleaseCount + 1) } = next := by
  simp [incrementReleaseCount, and_assoc]

end Writes

/-! ### The unlock burst -/

/-- A scan that flips nothing leaves the set as it was. -/
theorem unlockScan_unchanged {raised : ℤ} {i : ℕ} {v : List MilestoneData}
    (h : (unlockScan raised i v).2 = []) : (unlockScan raised i v).1 = v := by
  induction v generalizing i with
  | nil => rfl
  | cons m rest ih =>
    unfold unlockScan at h ⊢
    split_ifs at h ⊢ with htarget hlocked
    · rfl
    · rw [ih h]

/-- The milestone vector a burst leaves. -/
def unlockedVec (s : Storage) (raised : ℤ) : Option (List MilestoneData) :=
  if (unlockScan raised 0 s.getMilestonesVec).2.isEmpty then s.milestonesVec
  else some (unlockScan raised 0 s.getMilestonesVec).1

/-- A burst writes the milestone vector and nothing else. -/
theorem unlockMilestonesBatch_fst (s : Storage) (raised : ℤ) :
    (s.unlockMilestonesBatch raised).1 = { s with milestonesVec := s.unlockedVec raised } := by
  unfold unlockMilestonesBatch unlockedVec
  dsimp only
  split_ifs <;> rfl

/-- Whether or not anything was flipped, the burst leaves the scanned set in the vector. -/
theorem unlockedVec_of_vec {s : Storage} {v : List MilestoneData}
    (hv : s.milestonesVec = some v) (raised : ℤ) :
    s.unlockedVec raised = some (unlockScan raised 0 v).1 := by
  have hget : s.getMilestonesVec = v := by rw [getMilestonesVec, hv]
  rw [unlockedVec, hget]
  split_ifs with h
  · rw [unlockScan_unchanged (List.isEmpty_iff.mp h), hv]
  · rfl

/-! ### Writes of one milestone -/

/-- The milestone vector a write of one milestone leaves. -/
def vecAfterSet (s : Storage) (index : ℕ) (data : MilestoneData) : Option (List MilestoneData) :=
  if index < s.getMilestonesVec.length then some (s.getMilestonesVec.set index data)
  else if index = s.getMilestonesVec.length then some (s.getMilestonesVec ++ [data])
  else s.milestonesVec

/-- The per-index entries a write of one milestone leaves. -/
def entriesAfterSet (s : Storage) (index : ℕ) (data : MilestoneData) :
    ℕ → Option MilestoneData :=
  if index ≤ s.getMilestonesVec.length then s.milestoneData
  else Function.update s.milestoneData index (some data)

/-- A write of one milestone touches the two milestone layouts and nothing else. -/
theorem setMilestone_eq (s : Storage) (index : ℕ) (data : MilestoneData) :
    s.setMilestone index data =
      { s with
        milestonesVec := s.vecAfterSet index data
        milestoneData := s.entriesAfterSet index data } := by
  unfold setMilestone vecAfterSet entriesAfterSet setMilestonesVec
  rcases lt_trichotomy index s.getMilestonesVec.length with h | h | h
  · simp only [if_pos h, if_pos h.le]
  · simp only [h, lt_irrefl, if_false, if_true, le_refl]
  · simp only [if_neg h.not_gt, if_neg h.ne', if_neg h.not_ge]

/-! ### What the accessors of the milestone vector do once it exists -/

/-- A fresh contract has no milestones. -/
theorem getMilestone_empty (index : ℕ) : empty.getMilestone index = none := by
  simp [getMilestone, getMilestonesVec, empty, indexSpace, gatherMilestones]

section MilestonesVec

variable {s : Storage} {v : List MilestoneData} (hv : s.milestonesVec = some v)
include hv

theorem getMilestonesVec_of_vec : s.getMilestonesVec = v := by
  simp [getMilestonesVec, hv]

/-- With the vector in place and nothing outside it, reading a milestone reads the vector. -/
theorem getMilestone_of_vec (hsparse : ∀ i, s.milestoneData i = none) (index : ℕ) :
    s.getMilestone index = v[index]? := by
  rw [getMilestone, getMilestonesVec_of_vec hv]
  split_ifs with h
  · rfl
  · rw [hsparse, List.getElem?_eq_none (not_lt.mp h)]

theorem vecAfterSet_of_vec {index : ℕ} (hindex : index < v.length) (data : MilestoneData) :
    s.vecAfterSet index data = some (v.set index data) := by
  rw [vecAfterSet, getMilestonesVec_of_vec hv, if_pos hindex]

theorem entriesAfterSet_of_vec {index : ℕ} (hindex : index < v.length) (data : MilestoneData) :
    s.entriesAfterSet index data = s.milestoneData := by
  rw [entriesAfterSet, getMilestonesVec_of_vec hv, if_pos hindex.le]

theorem setMilestone_push (data : MilestoneData) :
    s.setMilestone v.length data = { s with milestonesVec := some (v ++ [data]) } := by
  simp [setMilestone, getMilestonesVec_of_vec hv, setMilestonesVec]

end MilestonesVec

end Storage

end OrbitChain.Campaign
