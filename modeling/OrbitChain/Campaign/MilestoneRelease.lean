import OrbitChain.Campaign.Reports

/-!
# Single-asset milestone release

The `release_milestone` entrypoint. It requires the milestone to be unlocked and its predecessor
to be released, pays the milestone's pending amount in the first accepted asset, and marks the
milestone as released. When that asset has no token contract, or the contract holds none of it,
nothing is paid and the milestone is released all the same. The campaign's status and the
recorded totals are neither read nor written.
-/

set_option autoImplicit false
set_option relaxedAutoImplicit false

namespace OrbitChain.Campaign

open Foundations

namespace ReleaseMilestone

/-- A milestone can be released after its predecessor. -/
def checkPredecessor (s : Storage) : ℕ → Except Failure Unit
  | 0 => pure ()
  | i + 1 => do
    let prev ← orFail (s.getMilestone i) (.contract .milestoneNotFound)
    failIf (prev.status ≠ .released) (.contract .previousMilestoneNotReleased)

/-- Pay the pending amount in the primary asset, if the contract holds any of it. -/
def payPrimary (env : Env) (milestoneIndex : ℕ) (recipient : Address) (releaseAmount : ℤ)
    (asset : StellarAsset) (w : World) : Except Failure World :=
  match asset.issuer with
  | none => pure w
  | some issuer => do
    let (assetBalance, w) ← env.host.token.balance issuer env.host.contract w
    if 0 < assetBalance ∧ 0 < releaseAmount then do
      failIf (assetBalance < releaseAmount) (.contract .insufficientContractBalance)
      let transferAmount := min releaseAmount assetBalance
      let w ← env.host.token.transfer issuer env.host.contract recipient transferAmount w
      pure (w.publish (.milestoneReleased milestoneIndex transferAmount asset.assetCode recipient
        env.timestamp))
    else pure w

/-- The record of a milestone released to a recipient. -/
def releasedRecord (env : Env) (recipient : Address) (milestone : MilestoneData) :
    MilestoneData :=
  { milestone with
    releasedAmount := milestone.targetAmount
    status := .released
    releasedAt := some env.timestamp
    releasedTo := some recipient }

/-- Release a milestone in the primary asset. -/
def releaseMilestone (env : Env) (milestoneIndex : ℕ) (recipient : Address) (w : World) :
    Except Failure World := do
  let s ← w.storage.acquireLock
  let campaign ← orFail s.getCampaign (.contract .notInitialized)
  failIf (s.isFrozen = true) (.contract .contractFrozen)
  let milestone ← orFail (s.getMilestone milestoneIndex) (.contract .milestoneNotFound)
  failIf (milestone.status = .released) (.contract .milestoneAlreadyReleased)
  failIf (milestone.status ≠ .unlocked) (.contract .invalidMilestoneTransition)
  checkPredecessor s milestoneIndex
  let releaseAmount ← orFail (checkedI128 (milestone.targetAmount - milestone.releasedAmount))
    (.contract .overflow)
  let asset ← orFail campaign.acceptedAssets.head? (.contract .notInitialized)
  let w ← payPrimary env milestoneIndex recipient releaseAmount asset { w with storage := s }
  let s := w.storage.setMilestone milestoneIndex (releasedRecord env recipient milestone)
  let s ← s.incrementReleaseCount
  pure { w with storage := s.releaseLock }

end ReleaseMilestone

namespace CampaignContract

/-- The `release_milestone` entrypoint: the creator's authorization, the release, the report. -/
def releaseMilestone (env : Env) (milestoneIndex : ℕ) (recipient : Address) (w : World) :
    Except Failure World := do
  let campaign ← orFail w.storage.getCampaign (.contract .notInitialized)
  env.requireAuth campaign.creator
  let w ← ReleaseMilestone.releaseMilestone env milestoneIndex recipient w
  let s ← refreshReportCache w.storage
  pure { w with storage := s }

end CampaignContract

namespace ReleaseMilestone

/-! ### The payment -/

/-- What a release pays of a pending amount: all of it, unless there is no token contract or the
contract holds nothing of the token. -/
def primaryPayment (ledger : Ledger Address Address) (contract : Address) (pending : ℤ)
    (asset : StellarAsset) : List (Address × ℤ) :=
  match asset.issuer with
  | none => []
  | some issuer =>
    if 0 < ledger.balance issuer contract ∧ 0 < pending then [(issuer, pending)] else []

theorem primaryPayment_of_issuer {asset : StellarAsset} {issuer : Address}
    (hissuer : asset.issuer = some issuer) (ledger : Ledger Address Address) (contract : Address)
    (pending : ℤ) : primaryPayment ledger contract pending asset =
      if 0 < ledger.balance issuer contract ∧ 0 < pending then [(issuer, pending)] else [] := by
  rw [primaryPayment, hissuer]

/-- The payment can be made exactly when the contract holds the pending amount or nothing. -/
theorem transferAll_primaryPayment_iff {asset : StellarAsset} {issuer : Address}
    (hissuer : asset.issuer = some issuer) {ledger : Ledger Address Address}
    {contract : Address} (recipient : Address) {pending : ℤ} :
    (∃ next, Ledger.transferAll contract recipient (primaryPayment ledger contract pending asset)
      ledger = some next) ↔
      (0 < ledger.balance issuer contract ∧ 0 < pending →
        pending ≤ ledger.balance issuer contract) := by
  rw [primaryPayment_of_issuer hissuer]
  exact Ledger.exists_transferAll_ite_iff fun hpays ↦ hpays.2.le

theorem primaryPayment_nonneg {ledger : Ledger Address Address} {contract : Address}
    {pending : ℤ} {asset : StellarAsset} :
    ∀ x ∈ primaryPayment ledger contract pending asset, 0 ≤ x.2 := by
  unfold primaryPayment
  cases asset.issuer with
  | none => simp
  | some issuer =>
    dsimp only
    split_ifs with h
    · simpa using h.2.le
    · simp

theorem paidIn_primaryPayment_le (ledger : Ledger Address Address) (contract : Address)
    (pending : ℤ) (asset : StellarAsset) (token : Address) :
    paidIn token (primaryPayment ledger contract pending asset) ≤ max pending 0 := by
  unfold primaryPayment
  cases asset.issuer with
  | none => exact le_max_right _ _
  | some issuer =>
    dsimp only
    split_ifs with hpays
    · rw [paidIn_cons, paidIn_nil, add_zero]
      split_ifs
      · exact le_max_left _ _
      · exact le_max_right _ _
    · exact le_max_right _ _

/-- A release pays in the primary token only. -/
theorem paidIn_primaryPayment_of_ne {ledger : Ledger Address Address} {contract : Address}
    {pending : ℤ} {asset : StellarAsset} {token : Address} (h : asset.issuer ≠ some token) :
    paidIn token (primaryPayment ledger contract pending asset) = 0 := by
  unfold primaryPayment
  cases hissuer : asset.issuer with
  | none => rfl
  | some issuer =>
    dsimp only
    split_ifs
    · refine paidIn_eq_zero fun x hx ↦ ?_
      rw [List.mem_singleton.mp hx]
      rintro rfl
      exact h hissuer
    · rfl

/-- Some ledger makes the payment. -/
theorem exists_primaryPayment (contract recipient : Address) (pending : ℤ)
    (asset : StellarAsset) : ∃ ledger next : Ledger Address Address,
      Ledger.transferAll contract recipient (primaryPayment ledger contract pending asset) ledger =
        some next := by
  refine ⟨.uniform pending.toNat, ?_⟩
  cases hissuer : asset.issuer with
  | none => exact ⟨_, by rw [primaryPayment, hissuer]; rfl⟩
  | some issuer =>
    exact (transferAll_primaryPayment_iff hissuer recipient).mpr fun _ ↦ Int.self_le_toNat pending

/-- The events of a list of payments of a release. -/
def releaseEvents (env : Env) (milestoneIndex : ℕ) (recipient : Address) (asset : StellarAsset)
    (payments : List (Address × ℤ)) : List Event :=
  payments.map fun x ↦
    .milestoneReleased milestoneIndex x.2 asset.assetCode recipient env.timestamp

/-- With standard tokens, the payment step succeeds when the ledger makes the payment. -/
theorem payPrimary_eq_ok_iff {env : Env} (htoken : env.host.token = sep41) {milestoneIndex : ℕ}
    {recipient : Address} {pending : ℤ} {asset : StellarAsset} {w next : World} :
    payPrimary env milestoneIndex recipient pending asset w = .ok next ↔
      ∃ ledger, Ledger.transferAll env.host.contract recipient
          (primaryPayment w.ledger env.host.contract pending asset) w.ledger = some ledger ∧
        next = w.settle ledger (releaseEvents env milestoneIndex recipient asset
          (primaryPayment w.ledger env.host.contract pending asset)) := by
  unfold payPrimary primaryPayment
  cases hissuer : asset.issuer with
  | none => exact World.pure_eq_ok_iff_settle_nil
  | some issuer =>
    simp only [htoken, sep41, ok_bind]
    split_ifs with hpays
    · simp only [bind_eq_ok_iff, failIf_eq_ok_iff, not_lt, orFail_eq_ok_iff, pure_eq_ok_iff,
        Ledger.transferAll_singleton]
      constructor
      · rintro ⟨_, hbalance, _, ⟨ledger, hledger, rfl⟩, rfl⟩
        rw [min_eq_left hbalance] at hledger ⊢
        exact ⟨ledger, hledger, rfl⟩
      · rintro ⟨ledger, hledger, rfl⟩
        have hbalance := (Ledger.transfer_bounds hledger).2
        rw [min_eq_left hbalance]
        exact ⟨(), hbalance, _, ⟨ledger, hledger, rfl⟩, rfl⟩
    · exact World.pure_eq_ok_iff_settle_nil

/-! ### What a successful release checked and wrote -/

/-- The predecessor rule: the first milestone, or a milestone after a released one. -/
def PredecessorReleased (s : Storage) (index : ℕ) : Prop :=
  ∀ i, index = i + 1 → ∃ prev, s.getMilestone i = some prev ∧ prev.status = .released

theorem checkPredecessor_eq_ok_iff {s : Storage} {index : ℕ} {u : Unit} :
    checkPredecessor s index = .ok u ↔ PredecessorReleased s index := by
  unfold PredecessorReleased
  cases index with
  | zero => simp [checkPredecessor]
  | succ i => simp [checkPredecessor]

/-- The checks of a release in the primary asset. -/
structure Releasable (env : Env) (index : ℕ) (w : World) (campaign : CampaignData)
    (milestone : MilestoneData) (primary : StellarAsset) : Prop where
  lock_free : w.storage.reentrancyLock = false
  found : w.storage.campaignData = some campaign
  authorised : env.Authorised campaign.creator
  not_frozen : w.storage.isFrozen = false
  milestone_found : w.storage.getMilestone index = some milestone
  unlocked : milestone.status = .unlocked
  predecessor : PredecessorReleased w.storage index
  pending_range : InI128 (milestone.targetAmount - milestone.releasedAmount)
  primary_found : campaign.acceptedAssets.head? = some primary
  count_range : w.storage.getReleaseCount + 1 ≤ u64Max

/-- A successful release of a milestone in the primary asset: the checks it passed, the payments
it made and the storage it left. -/
structure Released (env : Env) (index : ℕ) (recipient : Address) (w next : World)
    (campaign : CampaignData) (milestone : MilestoneData) (primary : StellarAsset) : Prop
    extends Releasable env index w campaign milestone primary where
  ledger : Ledger.transferAll env.host.contract recipient
    (primaryPayment w.ledger env.host.contract
      (milestone.targetAmount - milestone.releasedAmount) primary) w.ledger = some next.ledger
  storage : ∃ report, buildCampaignReport next.storage campaign = .ok report ∧
    next.storage =
      { w.storage with
        milestonesVec := w.storage.vecAfterSet index (releasedRecord env recipient milestone)
        milestoneData := w.storage.entriesAfterSet index (releasedRecord env recipient milestone)
        releaseCount := some (w.storage.getReleaseCount + 1)
        cachedReport := some report
        reentrancyLock := false }
  events : next.events = w.events ++
    releaseEvents env index recipient primary (primaryPayment w.ledger env.host.contract
      (milestone.targetAmount - milestone.releasedAmount) primary)
  wasmHash : next.wasmHash = w.wasmHash

/-- A release that passes the checks and whose payment the ledger makes succeeds. -/
theorem Releasable.exists_released {env : Env} {index : ℕ} {recipient : Address} {w : World}
    {campaign : CampaignData} {milestone : MilestoneData} {primary : StellarAsset}
    (h : Releasable env index w campaign milestone primary) (hreport : campaign.Reportable)
    {ledger : Ledger Address Address}
    (hledger : Ledger.transferAll env.host.contract recipient
      (primaryPayment w.ledger env.host.contract
        (milestone.targetAmount - milestone.releasedAmount) primary) w.ledger = some ledger) :
    ∃ next, Released env index recipient w next campaign milestone primary := by
  obtain ⟨report, hbuilt, -⟩ := buildCampaignReport_ok (s := { w.storage with
    releaseCount := some (w.storage.getReleaseCount + 1) }) hreport
  exact ⟨
    { storage := { w.storage with
        milestonesVec := w.storage.vecAfterSet index (releasedRecord env recipient milestone)
        milestoneData := w.storage.entriesAfterSet index (releasedRecord env recipient milestone)
        releaseCount := some (w.storage.getReleaseCount + 1)
        cachedReport := some report
        reentrancyLock := false }
      ledger := ledger
      events := _
      wasmHash := w.wasmHash },
    { toReleasable := h
      ledger := hledger
      storage := ⟨report, hbuilt, rfl⟩
      events := rfl
      wasmHash := rfl }⟩

end ReleaseMilestone

open ReleaseMilestone in
/-- With standard tokens, a release in the primary asset succeeds with exactly these outcomes. -/
theorem CampaignContract.releaseMilestone_eq_ok_iff {env : Env} (htoken : env.host.token = sep41)
    {index : ℕ} {recipient : Address} {w next : World} :
    CampaignContract.releaseMilestone env index recipient w = .ok next ↔
      ∃ campaign milestone primary,
        Released env index recipient w next campaign milestone primary := by
  simp only [CampaignContract.releaseMilestone, ReleaseMilestone.releaseMilestone,
    bind_eq_ok_iff, Storage.acquireLock_eq_ok_iff, orFail_eq_ok_iff, failIf_eq_ok_iff, not_not,
    Env.requireAuth_eq_ok_iff, checkedI128_eq_some_iff, payPrimary_eq_ok_iff htoken,
    checkPredecessor_eq_ok_iff, Storage.setMilestone_eq,
    Storage.incrementReleaseCount_eq_ok_iff, pure_eq_ok_iff]
  constructor
  · rintro ⟨campaign, hcampaign, _, hauth, _, ⟨_, ⟨hlock, rfl⟩, _, hsame, _, hfrozen, milestone,
      hmilestone, _, -, _, hunlocked, _, hpredecessor, _, ⟨hrange, rfl⟩, primary, hprimary, _,
      ⟨ledger, hledger, rfl⟩, _, ⟨hcount, rfl⟩, rfl⟩, s, hreport, rfl⟩
    obtain rfl : campaign = _ := Option.some.inj (hcampaign.symm.trans hsame)
    obtain ⟨report, hbuilt, rfl⟩ :=
      (refreshReportCache_eq_ok_iff campaign (by exact hcampaign)).mp hreport
    exact ⟨campaign, milestone, primary,
      { lock_free := hlock
        found := hcampaign
        authorised := hauth
        not_frozen := eq_false_of_ne_true hfrozen
        milestone_found := hmilestone
        unlocked := hunlocked
        predecessor := hpredecessor
        pending_range := hrange
        primary_found := hprimary
        count_range := hcount
        ledger := hledger
        storage := ⟨report, hbuilt, rfl⟩
        events := rfl
        wasmHash := rfl }⟩
  · rintro ⟨campaign, milestone, primary, h⟩
    obtain ⟨report, hreport, hstorage⟩ := h.storage
    rw [hstorage] at hreport
    refine ⟨campaign, h.found, (), h.authorised, _, ⟨_, ⟨h.lock_free, rfl⟩, campaign, h.found, (),
      ne_true_of_eq_false h.not_frozen, milestone, h.milestone_found, (), ?_, (), h.unlocked, (),
      h.predecessor, _, ⟨h.pending_range, rfl⟩, primary, h.primary_found, _,
      ⟨next.ledger, h.ledger, rfl⟩, _, ⟨h.count_range, rfl⟩, rfl⟩, _,
      (refreshReportCache_eq_ok_iff campaign (by exact h.found)).mpr
        ⟨report, hreport, rfl⟩, ?_⟩
    · rw [h.unlocked]
      exact MilestoneStatus.noConfusion
    · have hevents := h.events
      have hwasm := h.wasmHash
      obtain ⟨s, ledger, events, hash⟩ := next
      simp only at hstorage hevents hwasm
      subst hstorage hevents hwasm
      rfl

end OrbitChain.Campaign
