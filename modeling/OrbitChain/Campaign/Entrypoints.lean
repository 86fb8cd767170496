import OrbitChain.Campaign.Contract
import OrbitChain.Campaign.LedgerDonation

/-!
# The entrypoints access by access

Every entrypoint that writes, as a program that requests accesses to the storage one after the
other, and between them looks at token balances, moves tokens and publishes events. What is read
once in the model and twice in the source, or in a loop, is requested twice or in a loop here. The
token contracts are the standard ones.

On the storage without lifetimes each program is its entrypoint in the model of the contract
(`onWorld_entrypoint`).
-/

set_option autoImplicit false
set_option relaxedAutoImplicit false

namespace OrbitChain.Campaign

open Foundations

/-- What an invocation can change beside the storage. -/
structure Outside where
  ledger : Ledger Address Address
  events : List Event
  wasmHash : BitVec 256

def Outside.world (o : Outside) (s : Storage) : World := ⟨s, o.ledger, o.events, o.wasmHash⟩

def World.outside (w : World) : Outside := ⟨w.ledger, w.events, w.wasmHash⟩

/-- A program of the contract. -/
abbrev Entrypoint := StateT Outside Client

namespace Entrypoint

variable {α β : Type}

/-- Run a program of the storage. -/
def requests (client : Client α) : Entrypoint α := StateT.lift client

def access (r : Request α) : Entrypoint α := requests (.ask r)

/-- Go on with a value, or panic. -/
def check (x : Except Failure α) : Entrypoint α := requests (.lift x)

def publish (events : List Event) : Entrypoint Unit :=
  modify fun o ↦ { o with events := o.events ++ events }

def updateWasm (wasmHash : BitVec 256) : Entrypoint Unit :=
  modify fun o ↦ { o with wasmHash := wasmHash }

def balance (token account : Address) : Entrypoint ℤ := do
  pure ((← get).ledger.balance token account)

def transfer (token source target : Address) (amount : ℤ) : Entrypoint Unit := do
  let ledger ← check (orFail ((← get).ledger.transfer token source target amount) .token)
  modify fun o ↦ { o with ledger := ledger }

/-- A program run on the storage without lifetimes. -/
def onWorld (m : Entrypoint α) (w : World) : Except Failure (α × World) := do
  let x ← (StateT.run m w.outside).onStorage w.storage
  pure (x.1.1, x.1.2.world x.2)

/-! ### Parts of programs -/

section Parts

variable (w : World)

@[simp] theorem onWorld_pure (a : α) : onWorld (pure a) w = .ok (a, w) := rfl

@[simp] theorem onWorld_bind (m : Entrypoint α) (f : α → Entrypoint β) :
    onWorld (m >>= f) w = onWorld m w >>= fun x ↦ onWorld (f x.1) x.2 := by
  unfold onWorld
  rw [StateT.run_bind, Client.onStorage_bind, bind_assoc, bind_assoc]
  rfl

theorem onWorld_requests (client : Client α) : onWorld (requests client) w =
    client.onStorage w.storage >>= fun x ↦ pure (x.1, { w with storage := x.2 }) := by
  unfold onWorld requests
  rw [StateT.run_lift, Client.onStorage_bind, bind_assoc]
  rfl

theorem onWorld_access (r : Request α) : onWorld (access r) w =
    r.onStorage w.storage >>= fun x ↦ pure (x.1, { w with storage := x.2 }) := by
  rw [access, onWorld_requests, Client.onStorage_ask]

@[simp] theorem onWorld_check (x : Except Failure α) :
    onWorld (check x) w = x >>= fun a ↦ pure (a, w) := by
  rw [check, onWorld_requests, Client.onStorage_lift, bind_assoc]
  rfl

@[simp] theorem onWorld_publish (events : List Event) :
    onWorld (publish events) w = .ok ((), { w with events := w.events ++ events }) := rfl

@[simp] theorem onWorld_updateWasm (wasmHash : BitVec 256) :
    onWorld (updateWasm wasmHash) w = .ok ((), { w with wasmHash := wasmHash }) := rfl

@[simp] theorem onWorld_balance (token account : Address) :
    onWorld (balance token account) w = .ok (w.ledger.balance token account, w) := rfl

@[simp] theorem onWorld_transfer (token source target : Address) (amount : ℤ) :
    onWorld (transfer token source target amount) w =
      orFail (w.ledger.transfer token source target amount) .token >>= fun ledger ↦
        pure ((), { w with ledger := ledger }) := by
  have hget : onWorld (get : Entrypoint Outside) w = .ok (w.outside, w) := rfl
  have hset (ledger : Ledger Address Address) : onWorld
      (modify fun o ↦ { o with ledger := ledger } : Entrypoint Unit) w =
        .ok ((), { w with ledger := ledger }) := rfl
  simp only [transfer, onWorld_bind, hget, ok_bind, onWorld_check, bind_assoc, pure_bind, hset]
  rfl

end Parts

/-! ### The entrypoints -/

section Programs

variable (env : Env)

def refreshReport : Entrypoint Unit := requests CampaignContract.refreshReportClient

/-- The stored campaign. -/
def loadCampaign : Entrypoint CampaignData := do
  check (orFail (← access .getCampaign) (.contract .notInitialized))

/-- Store milestones at consecutive indices. -/
def storeMilestones : ℕ → List MilestoneData → Entrypoint Unit
  | _, [] => pure ()
  | i, m :: rest => do
    access (.setMilestone i m)
    storeMilestones (i + 1) rest

def initializeCampaign (creator : Address) (goalAmount : ℤ) (endTime : ℕ)
    (acceptedAssets : List StellarAsset) (milestones : List MilestoneData)
    (minDonationAmount : ℤ) : Entrypoint Unit := do
  check (env.requireAuth creator)
  check (failIf ((← access .getCampaign).isSome = true) (.contract .alreadyInitialized))
  check (failIf (goalAmount ≤ 0) (.contract .invalidGoalAmount))
  check (failIf (endTime ≤ env.timestamp) (.contract .invalidEndTime))
  check (failIf (acceptedAssets = []) (.contract .invalidAssets))
  check (validateAssets acceptedAssets)
  check (failIf (milestones.length = 0 ∨ maxMilestones < milestones.length)
    (.contract .invalidMilestoneCount))
  check (validateMilestones milestones goalAmount)
  access (.setCampaign (CampaignContract.initialCampaign env creator goalAmount endTime
    acceptedAssets milestones minDonationAmount))
  storeMilestones 0 milestones
  publish [.initialized creator goalAmount endTime acceptedAssets.length milestones.length
    env.sequence]
  refreshReport

def donate (donor : Address) (amount : ℤ) (asset : AssetInfo) : Entrypoint Unit := do
  let events ← requests (CampaignContract.donateClient env donor amount asset)
  publish events

/-- Some milestone below a count has been released. The walk ends at the first. -/
def anyMilestoneReleased : ℕ → Entrypoint Bool
  | 0 => pure false
  | i + 1 => do
    if ← anyMilestoneReleased i then pure true
    else do
      let milestone ← access (.getMilestone i)
      pure (milestone.any fun m ↦ m.status = .released)

def checkRefundStatus (campaign : CampaignData) : Entrypoint Unit := do
  check (failIf (campaign.status.isTerminal = false) (.contract .refundNotPermitted))
  match campaign.status with
  | .cancelled => pure ()
  | .ended => do
    let released ← anyMilestoneReleased campaign.milestoneCount
    check (failIf (released = true) (.contract .refundNotPermitted))
  | _ => check (.error (.contract .refundNotPermitted))

def checkRefundEligibility (campaign : CampaignData) (donorRecord : DonorRecord) :
    Entrypoint Unit := do
  checkRefundStatus campaign
  let closing ← check (uncheckedU64 env.host.overflowChecks .trap
    (campaign.endTime + refundWindow))
  check (failIf (closing < env.timestamp) (.contract .refundWindowClosed))
  check (failIf (donorRecord.refundClaimed = true) (.contract .refundAlreadyClaimed))

/-- The running sum of the released amounts of the milestones below a count. -/
def sumReleased : ℕ → Entrypoint ℤ
  | 0 => pure 0
  | i + 1 => do
    let totalReleased ← sumReleased i
    match ← access (.getMilestone i) with
    | some milestone =>
      check (uncheckedI128 env.host.overflowChecks .trap
        (totalReleased + milestone.releasedAmount))
    | none => pure totalReleased

/-- Pay a refund that is not zero, after looking at the balance. -/
def payRefund (donor token : Address) (refund : ℤ) : Entrypoint Unit :=
  if 0 < refund then do
    let contractBalance ← balance token env.host.contract
    check (failIf (contractBalance < refund) (.contract .insufficientContractBalance))
    transfer token env.host.contract donor refund
    publish [.assetRefund donor token refund]
  else pure ()

/-- Refund one entry of the accepted list. -/
def refundAsset (donor : Address) (numerator denominator : ℤ) (asset : StellarAsset) :
    Entrypoint Unit :=
  match asset.issuer with
  | none => pure ()
  | some token => do
    let donated ← access (.getDonorAssetDonation donor token)
    if 0 < donated then do
      let refund ← check (calculateRefundAmount donated numerator denominator)
      payRefund env donor token refund
    else pure ()

def refundAssets (donor : Address) (numerator denominator : ℤ) :
    List StellarAsset → Entrypoint Unit
  | [] => pure ()
  | asset :: rest => do
    refundAsset env donor numerator denominator asset
    refundAssets donor numerator denominator rest

def claimRefund (donor : Address) : Entrypoint Unit := do
  access .acquireLock
  check (env.requireAuth donor)
  check (failIf ((← access .isFrozen) = true) (.contract .contractFrozen))
  let campaign ← loadCampaign
  let record ← check (orFail (← access (.getDonor donor)) (.contract .noDonorRecord))
  checkRefundEligibility env campaign record
  let totalReleased ← sumReleased env campaign.milestoneCount
  let numerator ← check (uncheckedI128 env.host.overflowChecks .trap
    (campaign.raisedAmount - totalReleased))
  access (.setDonor donor { record with refundClaimed := true })
  refundAssets env donor numerator campaign.raisedAmount campaign.acceptedAssets
  publish [.refundClaimed donor record.totalDonated]
  refreshReport
  access .releaseLock

/-- Move the campaign to a terminal status. -/
def conclude (status : CampaignStatus) (event : Address → Event) : Entrypoint Unit := do
  let campaign ← loadCampaign
  check (env.requireAuth campaign.creator)
  check (failIf ((← access .isFrozen) = true) (.contract .contractFrozen))
  check (validateCampaignTransition campaign.status status)
  access (.setCampaign
    { campaign with status := status, concludedAtLedger := some env.sequence })
  publish [event campaign.creator]
  refreshReport

def endCampaign : Entrypoint Unit := conclude env .ended fun _ ↦ .campaignEnded

def cancelCampaign : Entrypoint Unit :=
  conclude env .cancelled fun creator ↦ .campaignCancelled creator

def extendDeadline (newEndTime : ℕ) : Entrypoint Unit := do
  let campaign ← loadCampaign
  check (env.requireAuth campaign.creator)
  check (failIf ((← access .isFrozen) = true) (.contract .contractFrozen))
  check (failIf (campaign.status.acceptsDonations = false)
    (.contract .invalidCampaignTransition))
  check (failIf (newEndTime ≤ env.timestamp ∨
    min (env.timestamp + maxDeadlineGapSeconds) u64Max < newEndTime) (.contract .invalidEndTime))
  access (.setCampaign { campaign with endTime := newEndTime })
  publish [.deadlineExtended campaign.creator campaign.endTime newEndTime]
  refreshReport

/-- A milestone can be released after its predecessor. -/
def checkPredecessor : ℕ → Entrypoint Unit
  | 0 => pure ()
  | i + 1 => do
    let prev ← check (orFail (← access (.getMilestone i)) (.contract .milestoneNotFound))
    check (failIf (prev.status ≠ .released) (.contract .previousMilestoneNotReleased))

/-- Pay the pending amount in the primary asset, if the contract holds any of it. -/
def payPrimary (milestoneIndex : ℕ) (recipient : Address) (releaseAmount : ℤ)
    (asset : StellarAsset) : Entrypoint Unit :=
  match asset.issuer with
  | none => pure ()
  | some issuer => do
    let assetBalance ← balance issuer env.host.contract
    if 0 < assetBalance ∧ 0 < releaseAmount then do
      check (failIf (assetBalance < releaseAmount) (.contract .insufficientContractBalance))
      transfer issuer env.host.contract recipient (min releaseAmount assetBalance)
      publish [.milestoneReleased milestoneIndex (min releaseAmount assetBalance)
        asset.assetCode recipient env.timestamp]
    else pure ()

/-- The creator's authorization, which both releases begin with. -/
def requireCreator : Entrypoint Unit := do
  let campaign ← loadCampaign
  check (env.requireAuth campaign.creator)

def releaseMilestone (milestoneIndex : ℕ) (recipient : Address) : Entrypoint Unit := do
  requireCreator env
  access .acquireLock
  let campaign ← loadCampaign
  check (failIf ((← access .isFrozen) = true) (.contract .contractFrozen))
  let milestone ← check (orFail (← access (.getMilestone milestoneIndex))
    (.contract .milestoneNotFound))
  check (failIf (milestone.status = .released) (.contract .milestoneAlreadyReleased))
  check (failIf (milestone.status ≠ .unlocked) (.contract .invalidMilestoneTransition))
  checkPredecessor milestoneIndex
  let releaseAmount ← check (orFail (checkedI128 (milestone.targetAmount -
    milestone.releasedAmount)) (.contract .overflow))
  let asset ← check (orFail campaign.acceptedAssets.head? (.contract .notInitialized))
  payPrimary env milestoneIndex recipient releaseAmount asset
  access (.setMilestone milestoneIndex
    (ReleaseMilestone.releasedRecord env recipient milestone))
  let _ ← access .incrementReleaseCount
  access .releaseLock
  refreshReport

/-- Pay one entry's share and lower the recorded amount of its token. -/
def payShare (milestoneIndex : ℕ) (recipient token : Address) (assetCode : String)
    (contractBalance assetRaised assetRelease totalReleased : ℤ) : Entrypoint ℤ := do
  check (failIf (contractBalance < assetRelease) (.contract .insufficientContractBalance))
  let clampedRelease := min assetRelease contractBalance
  if clampedRelease < MultiAssetRelease.minTransferAmount then pure totalReleased
  else do
    transfer token env.host.contract recipient clampedRelease
    publish [.milestoneReleased milestoneIndex clampedRelease assetCode recipient env.timestamp]
    let newAssetRaised ← check (orFail (checkedI128 (assetRaised - clampedRelease))
      (.contract .overflow))
    check (failIf (newAssetRaised < 0) (.contract .overflow))
    access (.setAssetRaised token newAssetRaised)
    check (orFail (checkedI128 (totalReleased + clampedRelease)) (.contract .overflow))

/-- Release one entry of the accepted list. -/
def releaseAsset (milestoneIndex : ℕ) (recipient : Address) (milestoneRelease totalRaised : ℤ)
    (asset : StellarAsset) (totalReleased : ℤ) : Entrypoint ℤ :=
  match asset.issuer with
  | none => do
    publish [.milestoneSkipped milestoneIndex asset.assetCode]
    pure totalReleased
  | some token => do
    let contractBalance ← balance token env.host.contract
    let assetRaised ← access (.getAssetRaised token)
    match MultiAssetRelease.computeAssetRelease assetRaised milestoneRelease totalRaised with
    | none => pure totalReleased
    | some assetRelease =>
      payShare env milestoneIndex recipient token asset.assetCode contractBalance assetRaised
        assetRelease totalReleased

def releaseAssets (milestoneIndex : ℕ) (recipient : Address)
    (milestoneRelease totalRaised : ℤ) : List StellarAsset → ℤ → Entrypoint ℤ
  | [], totalReleased => pure totalReleased
  | asset :: rest, totalReleased => do
    let totalReleased ← releaseAsset env milestoneIndex recipient milestoneRelease totalRaised
      asset totalReleased
    releaseAssets milestoneIndex recipient milestoneRelease totalRaised rest totalReleased

def releaseMilestoneMultiAsset (milestoneIndex : ℕ) (recipient : Address) :
    Entrypoint Unit := do
  requireCreator env
  access .acquireLock
  let campaign ← loadCampaign
  check (failIf (recipient = env.host.contract) (.contract .invalidRecipient))
  let milestone ← check (orFail (← access (.getMilestone milestoneIndex))
    (.contract .milestoneNotFound))
  check (failIf (milestone.status ≠ .unlocked) (.contract .invalidMilestoneTransition))
  let totalRaised ← access .getTotalRaised
  check (failIf (totalRaised = 0) (.contract .nothingToRelease))
  let milestoneRelease ← check (orFail
    (checkedI128 (milestone.targetAmount - milestone.releasedAmount))
    (.contract .milestoneReleasedExceedsTarget))
  check (failIf (milestoneRelease = 0) (.contract .nothingToRelease))
  let releasedAmount ← check (orFail (checkedI128 (milestone.releasedAmount + milestoneRelease))
    (.contract .overflow))
  access (.setMilestone milestoneIndex
    (MultiAssetRelease.releasedRecord milestone releasedAmount))
  let totalReleased ← releaseAssets env milestoneIndex recipient milestoneRelease totalRaised
    campaign.acceptedAssets 0
  let newTotalRaised ← check (orFail (checkedI128 (totalRaised - totalReleased))
    (.contract .overflow))
  check (failIf (newTotalRaised < 0) (.contract .overflow))
  access (.setTotalRaised (max ((checkedI128 (totalRaised - totalReleased)).getD 0) 0))
  let _ ← access .incrementReleaseCount
  access .releaseLock
  refreshReport

def upgrade (newWasmHash : BitVec 256) : Entrypoint Unit := do
  let campaign ← loadCampaign
  check (env.requireAuth campaign.creator)
  check (failIf ((← access .isFrozen) = true) (.contract .contractFrozen))
  updateWasm newWasmHash
  publish [.contractUpgraded campaign.creator newWasmHash env.timestamp]

/-- A write the creator may make at any time. -/
def administer (write : Request Unit) (event : Address → Event) : Entrypoint Unit := do
  let campaign ← loadCampaign
  check (env.requireAuth campaign.creator)
  access write
  publish [event campaign.creator]

end Programs

/-- The program of a call. -/
def entrypoint (env : Env) : Call → Entrypoint Unit
  | .initializeCampaign creator goalAmount endTime acceptedAssets milestones minDonationAmount =>
    initializeCampaign env creator goalAmount endTime acceptedAssets milestones minDonationAmount
  | .donate donor amount asset => donate env donor amount asset
  | .claimRefund donor => claimRefund env donor
  | .endCampaign => endCampaign env
  | .cancelCampaign => cancelCampaign env
  | .extendDeadline newEndTime => extendDeadline env newEndTime
  | .releaseMilestone index recipient => releaseMilestone env index recipient
  | .releaseMilestoneMultiAsset index recipient => releaseMilestoneMultiAsset env index recipient
  | .upgrade newWasmHash => upgrade env newWasmHash
  | .freeze => administer env (.setFrozen true) fun admin ↦ .contractFrozen admin env.timestamp
  | .unfreeze =>
    administer env (.setFrozen false) fun admin ↦ .contractUnfrozen admin env.timestamp
  | .blockAsset asset =>
    administer env (.blockAsset asset) fun admin ↦ .assetBlocked admin asset env.timestamp
  | .unblockAsset asset =>
    administer env (.unblockAsset asset) fun admin ↦ .assetUnblocked admin asset env.timestamp
  | .bumpStorage => requests bumpStorage

/-! ### What the programs do on the storage without lifetimes -/

section Model

variable {env : Env} (w : World)

@[simp] theorem onWorld_getCampaign :
    onWorld (access .getCampaign) w = .ok (w.storage.getCampaign, w) := rfl

@[simp] theorem onWorld_isFrozen :
    onWorld (access .isFrozen) w = .ok (w.storage.isFrozen, w) := rfl

@[simp] theorem onWorld_getMilestone (i : ℕ) :
    onWorld (access (.getMilestone i)) w = .ok (w.storage.getMilestone i, w) := rfl

@[simp] theorem onWorld_getDonor (donor : Address) :
    onWorld (access (.getDonor donor)) w = .ok (w.storage.getDonor donor, w) := rfl

@[simp] theorem onWorld_getDonorAssetDonation (donor token : Address) :
    onWorld (access (.getDonorAssetDonation donor token)) w =
      .ok (w.storage.getDonorAssetDonation donor token, w) := rfl

@[simp] theorem onWorld_getTotalRaised :
    onWorld (access .getTotalRaised) w = .ok (w.storage.getTotalRaised, w) := rfl

@[simp] theorem onWorld_getAssetRaised (token : Address) :
    onWorld (access (.getAssetRaised token)) w = .ok (w.storage.getAssetRaised token, w) := rfl

@[simp] theorem onWorld_setCampaign (campaign : CampaignData) :
    onWorld (access (.setCampaign campaign)) w =
      .ok ((), { w with storage := w.storage.setCampaign campaign }) := rfl

@[simp] theorem onWorld_setMilestone (i : ℕ) (m : MilestoneData) :
    onWorld (access (.setMilestone i m)) w =
      .ok ((), { w with storage := w.storage.setMilestone i m }) := rfl

@[simp] theorem onWorld_setDonor (donor : Address) (record : DonorRecord) :
    onWorld (access (.setDonor donor record)) w =
      .ok ((), { w with storage := w.storage.setDonor donor record }) := rfl

@[simp] theorem onWorld_releaseLock :
    onWorld (access .releaseLock) w = .ok ((), { w with storage := w.storage.releaseLock }) := rfl

@[simp] theorem onWorld_acquireLock : onWorld (access .acquireLock) w =
    w.storage.acquireLock >>= fun s ↦ pure ((), { w with storage := s }) := by
  simp only [onWorld_access, Request.onStorage, bind_assoc, pure_bind]

@[simp] theorem onWorld_loadCampaign : onWorld loadCampaign w =
    orFail w.storage.getCampaign (.contract .notInitialized) >>= fun c ↦ pure (c, w) := by
  simp only [loadCampaign, onWorld_bind, onWorld_getCampaign, ok_bind, onWorld_check]

@[simp] theorem onWorld_refreshReport : onWorld refreshReport w =
    refreshReportCache w.storage >>= fun s ↦ pure ((), { w with storage := s }) := by
  simp only [refreshReport, onWorld_requests, CampaignContract.onStorage_refreshReportClient,
    bind_assoc, pure_bind]

@[simp] theorem onWorld_storeMilestones (i : ℕ) (milestones : List MilestoneData) :
    onWorld (storeMilestones i milestones) w =
      .ok ((), { w with storage := w.storage.storeMilestones i milestones }) := by
  induction milestones generalizing i w with
  | nil => rfl
  | cons m rest ih =>
    rw [storeMilestones, onWorld_bind, onWorld_setMilestone, ok_bind, ih]
    rfl

theorem onWorld_initializeCampaign (creator : Address) (goalAmount : ℤ) (endTime : ℕ)
    (acceptedAssets : List StellarAsset) (milestones : List MilestoneData)
    (minDonationAmount : ℤ) :
    onWorld (initializeCampaign env creator goalAmount endTime acceptedAssets milestones
        minDonationAmount) w =
      CampaignContract.initializeCampaign env creator goalAmount endTime acceptedAssets milestones
        minDonationAmount w >>= fun next ↦ pure ((), next) := by
  unfold initializeCampaign CampaignContract.initializeCampaign
  simp only [onWorld_bind, onWorld_check, onWorld_getCampaign, onWorld_setCampaign,
    onWorld_storeMilestones, onWorld_publish, onWorld_refreshReport, ok_bind, bind_assoc,
    pure_bind]
  rfl

theorem onWorld_donate (donor : Address) (amount : ℤ) (asset : AssetInfo) :
    onWorld (donate env donor amount asset) w =
      CampaignContract.donate env donor amount asset w >>= fun next ↦ pure ((), next) := by
  rw [← CampaignContract.onStorage_donateClient]
  simp only [donate, onWorld_bind, onWorld_requests, onWorld_publish, bind_assoc, pure_bind]
  rfl

/-! ### Refunds -/

theorem onWorld_anyMilestoneReleased (count : ℕ) :
    onWorld (anyMilestoneReleased count) w =
      .ok (Campaign.anyMilestoneReleased w.storage count, w) := by
  induction count with
  | zero => rfl
  | succ i ih =>
    have hsplit : Campaign.anyMilestoneReleased w.storage (i + 1) =
        (Campaign.anyMilestoneReleased w.storage i ||
          (w.storage.getMilestone i).any fun m ↦ m.status = .released) := by
      simp [Campaign.anyMilestoneReleased, List.range_succ]
    rw [anyMilestoneReleased, onWorld_bind, ih, ok_bind, hsplit]
    cases Campaign.anyMilestoneReleased w.storage i <;> rfl

theorem onWorld_checkRefundStatus (campaign : CampaignData) :
    onWorld (checkRefundStatus campaign) w =
      Campaign.checkRefundStatus w.storage campaign >>= fun u ↦ pure (u, w) := by
  unfold checkRefundStatus Campaign.checkRefundStatus
  rw [onWorld_bind, onWorld_check]
  cases campaign.status <;>
    simp only [onWorld_bind, onWorld_check, onWorld_pure, onWorld_anyMilestoneReleased, ok_bind,
      bind_assoc, pure_bind]
  all_goals rfl

theorem onWorld_checkRefundEligibility (campaign : CampaignData) (record : DonorRecord) :
    onWorld (checkRefundEligibility env campaign record) w =
      Campaign.checkRefundEligibility env w.storage campaign record >>= fun u ↦ pure (u, w) := by
  unfold checkRefundEligibility Campaign.checkRefundEligibility
  simp only [onWorld_bind, onWorld_check, onWorld_checkRefundStatus, bind_assoc, pure_bind]

theorem onWorld_sumReleased (count : ℕ) :
    onWorld (sumReleased env count) w =
      CampaignContract.sumReleased env.host.overflowChecks w.storage.getMilestone count >>=
        fun total ↦ pure (total, w) := by
  induction count with
  | zero => rfl
  | succ i ih =>
    rw [sumReleased, CampaignContract.sumReleased, onWorld_bind, ih]
    simp only [onWorld_bind, onWorld_getMilestone, ok_bind, bind_assoc, pure_bind]
    cases w.storage.getMilestone i with
    | none => rfl
    | some m => simp only [onWorld_check]

section Tokens

variable (htoken : env.host.token = sep41)

include htoken

theorem onWorld_payRefund (donor token : Address) (refund : ℤ) :
    onWorld (payRefund env donor token refund) w =
      CampaignContract.payRefund env donor token refund w >>= fun next ↦ pure ((), next) := by
  unfold payRefund CampaignContract.payRefund
  split_ifs
  · simp only [onWorld_bind, onWorld_balance, onWorld_check, onWorld_transfer, onWorld_publish,
      htoken, sep41, ok_bind, bind_assoc, pure_bind]
    rfl
  · rfl

theorem onWorld_refundAsset (donor : Address) (numerator denominator : ℤ)
    (asset : StellarAsset) :
    onWorld (refundAsset env donor numerator denominator asset) w =
      CampaignContract.refundAsset env donor numerator denominator asset w >>=
        fun next ↦ pure ((), next) := by
  unfold refundAsset CampaignContract.refundAsset
  cases asset.issuer with
  | none => rfl
  | some token =>
    simp only [onWorld_bind, onWorld_getDonorAssetDonation, ok_bind]
    split_ifs
    · simp only [onWorld_bind, onWorld_check, onWorld_payRefund w htoken, bind_assoc, pure_bind]
    · rfl

theorem onWorld_refundAssets (donor : Address) (numerator denominator : ℤ)
    (assets : List StellarAsset) :
    onWorld (refundAssets env donor numerator denominator assets) w =
      CampaignContract.refundAssets env donor numerator denominator assets w >>=
        fun next ↦ pure ((), next) := by
  induction assets generalizing w with
  | nil => rfl
  | cons asset rest ih =>
    rw [refundAssets, CampaignContract.refundAssets, onWorld_bind, onWorld_refundAsset w htoken]
    simp only [ih, bind_assoc, pure_bind]

theorem onWorld_claimRefund (donor : Address) :
    onWorld (claimRefund env donor) w =
      CampaignContract.claimRefund env donor w >>= fun next ↦ pure ((), next) := by
  unfold claimRefund CampaignContract.claimRefund
  simp only [onWorld_bind, onWorld_acquireLock, onWorld_check, onWorld_isFrozen,
    onWorld_loadCampaign, onWorld_getDonor, onWorld_checkRefundEligibility, onWorld_sumReleased,
    onWorld_setDonor, onWorld_refundAssets _ htoken, onWorld_publish, onWorld_refreshReport,
    onWorld_releaseLock, ok_bind, bind_assoc, pure_bind]
  rfl

end Tokens

/-! ### Life cycle and administration -/

theorem onWorld_conclude (status : CampaignStatus) (event : Address → Event) :
    onWorld (conclude env status event) w =
      CampaignContract.conclude env status event w >>= fun next ↦ pure ((), next) := by
  unfold conclude CampaignContract.conclude CampaignContract.withReport
  simp only [onWorld_bind, onWorld_loadCampaign, onWorld_check, onWorld_isFrozen,
    onWorld_setCampaign, onWorld_publish, onWorld_refreshReport, ok_bind, bind_assoc, pure_bind]
  rfl

theorem onWorld_extendDeadline (newEndTime : ℕ) :
    onWorld (extendDeadline env newEndTime) w =
      CampaignContract.extendDeadline env newEndTime w >>= fun next ↦ pure ((), next) := by
  unfold extendDeadline CampaignContract.extendDeadline CampaignContract.withReport
  simp only [onWorld_bind, onWorld_loadCampaign, onWorld_check, onWorld_isFrozen,
    onWorld_setCampaign, onWorld_publish, onWorld_refreshReport, ok_bind, bind_assoc, pure_bind]
  rfl

theorem onWorld_upgrade (newWasmHash : BitVec 256) :
    onWorld (upgrade env newWasmHash) w =
      CampaignContract.upgrade env newWasmHash w >>= fun next ↦ pure ((), next) := by
  unfold upgrade CampaignContract.upgrade
  simp only [onWorld_bind, onWorld_loadCampaign, onWorld_check, onWorld_isFrozen,
    onWorld_updateWasm, onWorld_publish, ok_bind, bind_assoc, pure_bind]
  rfl

theorem onWorld_administer (request : Request Unit) (write : Storage → Storage)
    (hwrite : ∀ s, request.onStorage s = .ok ((), write s)) (event : Address → Event) :
    onWorld (administer env request event) w =
      CampaignContract.administer env write event w >>= fun next ↦ pure ((), next) := by
  unfold administer CampaignContract.administer
  simp only [onWorld_bind, onWorld_loadCampaign, onWorld_check, onWorld_access, hwrite,
    onWorld_publish, ok_bind, bind_assoc, pure_bind]
  rfl

theorem onWorld_bumpStorage : onWorld (requests bumpStorage) w =
    CampaignContract.bumpStorage w >>= fun next ↦ pure ((), next) := by
  rw [onWorld_requests, bumpStorage_onStorage, CampaignContract.bumpStorage, Storage.getCampaign]
  cases w.storage.campaignData <;> rfl

/-! ### Releases -/

theorem onWorld_checkPredecessor (i : ℕ) : onWorld (checkPredecessor i) w =
    ReleaseMilestone.checkPredecessor w.storage i >>= fun u ↦ pure (u, w) := by
  cases i with
  | zero => rfl
  | succ i =>
    simp only [checkPredecessor, ReleaseMilestone.checkPredecessor, onWorld_bind,
      onWorld_getMilestone, onWorld_check, ok_bind, bind_assoc, pure_bind]

@[simp] theorem onWorld_incrementReleaseCount : onWorld (access .incrementReleaseCount) w =
    w.storage.incrementReleaseCount >>= fun s ↦
      pure (s.getReleaseCount, { w with storage := s }) := by
  simp only [onWorld_access, Request.onStorage, bind_assoc, pure_bind]

@[simp] theorem onWorld_setAssetRaised (token : Address) (amount : ℤ) :
    onWorld (access (.setAssetRaised token amount)) w =
      w.storage.setAssetRaised token amount >>= fun s ↦ pure ((), { w with storage := s }) := by
  simp only [onWorld_access, Request.onStorage, bind_assoc, pure_bind]

@[simp] theorem onWorld_setTotalRaised (amount : ℤ) :
    onWorld (access (.setTotalRaised amount)) w =
      w.storage.setTotalRaised amount >>= fun s ↦ pure ((), { w with storage := s }) := by
  simp only [onWorld_access, Request.onStorage, bind_assoc, pure_bind]

section Tokens

variable (htoken : env.host.token = sep41)

include htoken

theorem onWorld_payPrimary (milestoneIndex : ℕ) (recipient : Address) (releaseAmount : ℤ)
    (asset : StellarAsset) :
    onWorld (payPrimary env milestoneIndex recipient releaseAmount asset) w =
      ReleaseMilestone.payPrimary env milestoneIndex recipient releaseAmount asset w >>=
        fun next ↦ pure ((), next) := by
  unfold payPrimary ReleaseMilestone.payPrimary
  cases asset.issuer with
  | none => rfl
  | some issuer =>
    simp only [onWorld_bind, onWorld_balance, htoken, sep41, ok_bind]
    split_ifs
    · simp only [onWorld_bind, onWorld_check, onWorld_transfer, onWorld_publish, bind_assoc,
        pure_bind]
      rfl
    · rfl

theorem onWorld_releaseMilestone (milestoneIndex : ℕ) (recipient : Address) :
    onWorld (releaseMilestone env milestoneIndex recipient) w =
      CampaignContract.releaseMilestone env milestoneIndex recipient w >>=
        fun next ↦ pure ((), next) := by
  unfold releaseMilestone CampaignContract.releaseMilestone ReleaseMilestone.releaseMilestone
    requireCreator
  simp only [onWorld_bind, onWorld_loadCampaign, onWorld_check, onWorld_acquireLock,
    onWorld_isFrozen, onWorld_getMilestone, onWorld_checkPredecessor,
    onWorld_payPrimary _ htoken, onWorld_setMilestone, onWorld_incrementReleaseCount,
    onWorld_releaseLock, onWorld_refreshReport, ok_bind, bind_assoc, pure_bind]

theorem onWorld_payShare (milestoneIndex : ℕ) (recipient token : Address) (assetCode : String)
    (contractBalance assetRaised assetRelease totalReleased : ℤ) :
    onWorld (payShare env milestoneIndex recipient token assetCode contractBalance assetRaised
        assetRelease totalReleased) w =
      MultiAssetRelease.payShare env milestoneIndex recipient token assetCode contractBalance
        assetRaised assetRelease totalReleased w >>= fun x ↦ pure (x.2, x.1) := by
  unfold payShare MultiAssetRelease.payShare
  simp only [onWorld_bind, onWorld_check, bind_assoc, pure_bind]
  split_ifs
  · rfl
  · simp only [onWorld_bind, onWorld_check, onWorld_transfer, onWorld_publish,
      onWorld_setAssetRaised, htoken, sep41, ok_bind, bind_assoc, pure_bind]
    rfl

theorem onWorld_releaseAsset (milestoneIndex : ℕ) (recipient : Address)
    (milestoneRelease totalRaised : ℤ) (asset : StellarAsset) (totalReleased : ℤ) :
    onWorld (releaseAsset env milestoneIndex recipient milestoneRelease totalRaised asset
        totalReleased) w =
      MultiAssetRelease.releaseAsset env milestoneIndex recipient milestoneRelease totalRaised
        asset w totalReleased >>= fun x ↦ pure (x.2, x.1) := by
  unfold releaseAsset MultiAssetRelease.releaseAsset
  cases asset.issuer with
  | none => rfl
  | some token =>
    simp only [onWorld_bind, onWorld_balance, onWorld_getAssetRaised, htoken, sep41, ok_bind]
    cases MultiAssetRelease.computeAssetRelease (w.storage.getAssetRaised token) milestoneRelease
      totalRaised with
    | none => rfl
    | some assetRelease => exact onWorld_payShare w htoken ..

theorem onWorld_releaseAssets (milestoneIndex : ℕ) (recipient : Address)
    (milestoneRelease totalRaised : ℤ) (assets : List StellarAsset) (totalReleased : ℤ) :
    onWorld (releaseAssets env milestoneIndex recipient milestoneRelease totalRaised assets
        totalReleased) w =
      MultiAssetRelease.releaseAssets env milestoneIndex recipient milestoneRelease totalRaised
        assets w totalReleased >>= fun x ↦ pure (x.2, x.1) := by
  induction assets generalizing w totalReleased with
  | nil => rfl
  | cons asset rest ih =>
    rw [releaseAssets, MultiAssetRelease.releaseAssets, onWorld_bind,
      onWorld_releaseAsset w htoken]
    simp only [ih, bind_assoc, pure_bind]

theorem onWorld_releaseMilestoneMultiAsset (milestoneIndex : ℕ) (recipient : Address) :
    onWorld (releaseMilestoneMultiAsset env milestoneIndex recipient) w =
      CampaignContract.releaseMilestoneMultiAsset env milestoneIndex recipient w >>=
        fun next ↦ pure ((), next) := by
  unfold releaseMilestoneMultiAsset CampaignContract.releaseMilestoneMultiAsset
    MultiAssetRelease.releaseMilestoneMultiAsset requireCreator
  simp only [onWorld_bind, onWorld_loadCampaign, onWorld_check, onWorld_acquireLock,
    onWorld_getMilestone, onWorld_getTotalRaised, onWorld_releaseAssets _ htoken,
    onWorld_setMilestone, onWorld_setTotalRaised, onWorld_incrementReleaseCount,
    onWorld_releaseLock, onWorld_refreshReport, ok_bind, bind_assoc, pure_bind]

/-- On the storage without lifetimes, the program of a call is its entrypoint of the model. -/
theorem onWorld_entrypoint (call : Call) : onWorld (entrypoint env call) w =
    invoke env call w >>= fun next ↦ pure ((), next) := by
  cases call with
  | initializeCampaign => exact onWorld_initializeCampaign w ..
  | donate => exact onWorld_donate w ..
  | claimRefund => exact onWorld_claimRefund w htoken _
  | endCampaign => exact onWorld_conclude w .ended fun _ ↦ .campaignEnded
  | cancelCampaign => exact onWorld_conclude w .cancelled fun creator ↦ .campaignCancelled creator
  | extendDeadline => exact onWorld_extendDeadline w _
  | releaseMilestone => exact onWorld_releaseMilestone w htoken ..
  | releaseMilestoneMultiAsset => exact onWorld_releaseMilestoneMultiAsset w htoken ..
  | upgrade => exact onWorld_upgrade w _
  | freeze =>
    rw [entrypoint, invoke, CampaignContract.freeze]
    exact onWorld_administer w _ _ (fun _ ↦ rfl) _
  | unfreeze =>
    rw [entrypoint, invoke, CampaignContract.unfreeze]
    exact onWorld_administer w _ _ (fun _ ↦ rfl) _
  | blockAsset =>
    rw [entrypoint, invoke, CampaignContract.blockAsset]
    exact onWorld_administer w _ _ (fun _ ↦ rfl) _
  | unblockAsset =>
    rw [entrypoint, invoke, CampaignContract.unblockAsset]
    exact onWorld_administer w _ _ (fun _ ↦ rfl) _
  | bumpStorage => exact onWorld_bumpStorage w

end Tokens

end Model

end Entrypoint

end OrbitChain.Campaign
