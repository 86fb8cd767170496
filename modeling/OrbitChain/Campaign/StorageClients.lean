import OrbitChain.Campaign.HostStorage

/-!
# The accessors and their clients

The accessors of `storage.rs` on the ledger, written with the host functions as the source writes
them, and what each of them does on the storage without lifetimes (`Request`). An entrypoint is a
client: it requests accesses one after the other, each depending on what the ones before returned,
and returns or panics. Every accessor agrees with its program on the storage, and so does every
client (`Client.agrees`).
-/

set_option autoImplicit false
set_option relaxedAutoImplicit false

namespace OrbitChain.Campaign

open Foundations

namespace Accessor

variable (net : Network) (now : ℕ)

/-! ### Campaign record -/

def setCampaign (data : CampaignData) : Accessor Unit := store net now .campaignData data

def getCampaign : Accessor (Option CampaignData) := load net now .campaignData

/-! ### Milestones -/

/-- The entries of the per-index layout from an index on, up to the first missing one. Their
lifetimes stay as they are. -/
def gatherMilestones : ℕ → ℕ → Accessor (List MilestoneData)
  | 0, _ => pure []
  | fuel + 1, i => do
    match ← get net now (.milestoneData i) with
    | some m => do
      let rest ← gatherMilestones fuel (i + 1)
      pure (m :: rest)
    | none => pure []

def getMilestonesVec : Accessor (List MilestoneData) := do
  match ← get net now .milestonesVec with
  | some v => do
    bumpPersistent net now .milestonesVec
    pure v
  | none => gatherMilestones net now Storage.indexSpace 0

def setMilestonesVec (v : List MilestoneData) : Accessor Unit := store net now .milestonesVec v

def setMilestone (index : ℕ) (data : MilestoneData) : Accessor Unit := do
  let v ← getMilestonesVec net now
  if index < v.length then setMilestonesVec net now (v.set index data)
  else if index = v.length then setMilestonesVec net now (v ++ [data])
  else store net now (.milestoneData index) data

def getMilestone (index : ℕ) : Accessor (Option MilestoneData) := do
  let v ← getMilestonesVec net now
  if index < v.length then pure v[index]? else get net now (.milestoneData index)

def unlockMilestonesBatch (raised : ℤ) : Accessor (List (ℕ × ℤ)) := do
  let v ← getMilestonesVec net now
  let scan := Storage.unlockScan raised 0 v
  if scan.2.isEmpty then pure []
  else do
    setMilestonesVec net now scan.1
    pure scan.2

/-! ### Donors -/

def setDonor (donor : Address) (record : DonorRecord) : Accessor Unit :=
  store net now (.donorData donor) record

def getDonor (donor : Address) : Accessor (Option DonorRecord) := load net now (.donorData donor)

def getDonorAssetDonation (donor asset : Address) : Accessor ℤ :=
  loadOr net now (.donorAssetDonation donor asset) (0 : ℤ)

def incrementDonorAssetDonation (donor asset : Address) (amount : ℤ) : Accessor Unit := do
  let current : Option ℤ ← get net now (.donorAssetDonation donor asset)
  let newAmount ← orFail (checkedI128 (current.getD 0 + amount)) (.contract .overflow)
  store net now (.donorAssetDonation donor asset) newAmount

/-! ### Totals and counters -/

def getTotalRaised : Accessor ℤ := loadOr net now .totalRaised (0 : ℤ)

def setTotalRaised (amount : ℤ) : Accessor Unit :=
  if amount < 0 then fail (.contract .invalidAmount) else store net now .totalRaised amount

/-- Add one to a counter of a word size, and return the new count. -/
def incrementCounter (read : Accessor ℕ) (write : ℕ → Accessor Unit) (bound : ℕ) :
    Accessor ℕ := do
  let current ← read
  let next ← orFail (checkedCounter bound (current + 1)) (.contract .overflow)
  write next
  pure next

def getDonationCount : Accessor ℕ := loadOr net now .donationCount (0 : ℕ)

def incrementDonationCount : Accessor ℕ :=
  incrementCounter (getDonationCount net now) (store net now .donationCount) u64Max

def getUniqueDonorCount : Accessor ℕ := loadOr net now .uniqueDonorCount (0 : ℕ)

def incrementUniqueDonorCount : Accessor ℕ :=
  incrementCounter (getUniqueDonorCount net now) (store net now .uniqueDonorCount) u32Max

def getReleaseCount : Accessor ℕ := loadOr net now .releaseCount (0 : ℕ)

def incrementReleaseCount : Accessor ℕ :=
  incrementCounter (getReleaseCount net now) (store net now .releaseCount) u64Max

def getAssetRaised (token : Address) : Accessor ℤ := loadOr net now (.assetRaised token) (0 : ℤ)

def setAssetRaised (token : Address) (amount : ℤ) : Accessor Unit :=
  if amount < 0 then fail (.contract .invalidAmount) else store net now (.assetRaised token) amount

def incrementAssetRaised (token : Address) (delta : ℤ) : Accessor ℤ :=
  if delta ≤ 0 then fail (.contract .invalidAmount)
  else do
    let current ← getAssetRaised net now token
    let newTotal ← orFail (checkedI128 (current + delta)) (.contract .overflow)
    setAssetRaised net now token newTotal
    pure newTotal

/-! ### Lock and flags -/

/-- Take the lock, a temporary entry. -/
def acquireLock : Accessor Unit := fun h ↦ do
  let held ←
    (ExpiringStore.has net.toStoreHost .temporary now h.temporary .reentrancyLock).mapError .store
  failIf (held = true) (.contract (.contract .reentrantCall))
  let taken ← (ExpiringStore.set net.toStoreHost .temporary now h.temporary .reentrancyLock
    true).mapError .store
  let kept ← (ExpiringStore.extendTtl net.toStoreHost .temporary now taken .reentrancyLock 0
    temporaryTtl).mapError .store
  pure ((), { h with temporary := kept })

def releaseLock : Accessor Unit := fun h ↦
  .ok ((), { h with temporary := ExpiringStore.remove h.temporary .reentrancyLock })

def isFrozen : Accessor Bool := loadOr net now .frozen false

def setFrozen (frozen : Bool) : Accessor Unit := store net now .frozen frozen

def isAssetBlocked (asset : Address) : Accessor Bool := loadOr net now (.blockedAsset asset) false

def blockAsset (asset : Address) : Accessor Unit := store net now (.blockedAsset asset) true

def unblockAsset (asset : Address) : Accessor Unit := store net now (.blockedAsset asset) false

def getCachedReport : Accessor (Option CampaignReport) := load net now .cachedReport

def setCachedReport (report : CampaignReport) : Accessor Unit := store net now .cachedReport report

/-! ### Bulk refresh -/

/-- The core entries beside the milestones. -/
def coreKeys : List DataKey :=
  [.campaignData, .totalRaised, .donationCount, .uniqueDonorCount, .releaseCount]

/-- Bump an entry that is there. -/
def bumpStored (key : DataKey) : Accessor Unit := do
  if ← has net now key then bumpPersistent net now key

/-- Extend the lifetimes of all core entries, the per-index milestones up to a count among them. -/
def bumpAllPersistent (milestoneCount : ℕ) : Accessor Unit := do
  coreKeys.forM (bumpStored net now)
  bumpStored net now .milestonesVec
  bumpStored net now .cachedReport
  (List.range milestoneCount).forM fun i ↦ bumpStored net now (.milestoneData i)

end Accessor

/-! ### Requests -/

/-- An access that an entrypoint asks for, by what it returns. -/
inductive Request : Type → Type
  | setCampaign (data : CampaignData) : Request Unit
  | getCampaign : Request (Option CampaignData)
  | getMilestonesVec : Request (List MilestoneData)
  | setMilestonesVec (v : List MilestoneData) : Request Unit
  | setMilestone (index : ℕ) (data : MilestoneData) : Request Unit
  | getMilestone (index : ℕ) : Request (Option MilestoneData)
  | unlockMilestonesBatch (raised : ℤ) : Request (List (ℕ × ℤ))
  | setDonor (donor : Address) (record : DonorRecord) : Request Unit
  | getDonor (donor : Address) : Request (Option DonorRecord)
  | getDonorAssetDonation (donor asset : Address) : Request ℤ
  | incrementDonorAssetDonation (donor asset : Address) (amount : ℤ) : Request Unit
  | getTotalRaised : Request ℤ
  | setTotalRaised (amount : ℤ) : Request Unit
  | getDonationCount : Request ℕ
  | incrementDonationCount : Request ℕ
  | getUniqueDonorCount : Request ℕ
  | incrementUniqueDonorCount : Request ℕ
  | getReleaseCount : Request ℕ
  | incrementReleaseCount : Request ℕ
  | getAssetRaised (token : Address) : Request ℤ
  | setAssetRaised (token : Address) (amount : ℤ) : Request Unit
  | incrementAssetRaised (token : Address) (delta : ℤ) : Request ℤ
  | acquireLock : Request Unit
  | releaseLock : Request Unit
  | isFrozen : Request Bool
  | setFrozen (frozen : Bool) : Request Unit
  | isAssetBlocked (asset : Address) : Request Bool
  | blockAsset (asset : Address) : Request Unit
  | unblockAsset (asset : Address) : Request Unit
  | getCachedReport : Request (Option CampaignReport)
  | setCachedReport (report : CampaignReport) : Request Unit
  | bumpAllPersistent (milestoneCount : ℕ) : Request Unit

namespace Request

/-- The accessor that serves a request on the ledger. -/
def onHost (net : Network) (now : ℕ) {α : Type} : Request α → Accessor α
  | setCampaign data => Accessor.setCampaign net now data
  | getCampaign => Accessor.getCampaign net now
  | getMilestonesVec => Accessor.getMilestonesVec net now
  | setMilestonesVec v => Accessor.setMilestonesVec net now v
  | setMilestone index data => Accessor.setMilestone net now index data
  | getMilestone index => Accessor.getMilestone net now index
  | unlockMilestonesBatch raised => Accessor.unlockMilestonesBatch net now raised
  | setDonor donor record => Accessor.setDonor net now donor record
  | getDonor donor => Accessor.getDonor net now donor
  | getDonorAssetDonation donor asset => Accessor.getDonorAssetDonation net now donor asset
  | incrementDonorAssetDonation donor asset amount =>
    Accessor.incrementDonorAssetDonation net now donor asset amount
  | getTotalRaised => Accessor.getTotalRaised net now
  | setTotalRaised amount => Accessor.setTotalRaised net now amount
  | getDonationCount => Accessor.getDonationCount net now
  | incrementDonationCount => Accessor.incrementDonationCount net now
  | getUniqueDonorCount => Accessor.getUniqueDonorCount net now
  | incrementUniqueDonorCount => Accessor.incrementUniqueDonorCount net now
  | getReleaseCount => Accessor.getReleaseCount net now
  | incrementReleaseCount => Accessor.incrementReleaseCount net now
  | getAssetRaised token => Accessor.getAssetRaised net now token
  | setAssetRaised token amount => Accessor.setAssetRaised net now token amount
  | incrementAssetRaised token delta => Accessor.incrementAssetRaised net now token delta
  | acquireLock => Accessor.acquireLock net now
  | releaseLock => Accessor.releaseLock
  | isFrozen => Accessor.isFrozen net now
  | setFrozen frozen => Accessor.setFrozen net now frozen
  | isAssetBlocked asset => Accessor.isAssetBlocked net now asset
  | blockAsset asset => Accessor.blockAsset net now asset
  | unblockAsset asset => Accessor.unblockAsset net now asset
  | getCachedReport => Accessor.getCachedReport net now
  | setCachedReport report => Accessor.setCachedReport net now report
  | bumpAllPersistent milestoneCount => Accessor.bumpAllPersistent net now milestoneCount

/-- What a request does on the storage without lifetimes. -/
def onStorage {α : Type} : Request α → StorageProgram α
  | setCampaign data => fun s ↦ .ok ((), s.setCampaign data)
  | getCampaign => fun s ↦ .ok (s.getCampaign, s)
  | getMilestonesVec => fun s ↦ .ok (s.getMilestonesVec, s)
  | setMilestonesVec v => fun s ↦ .ok ((), s.setMilestonesVec v)
  | setMilestone index data => fun s ↦ .ok ((), s.setMilestone index data)
  | getMilestone index => fun s ↦ .ok (s.getMilestone index, s)
  | unlockMilestonesBatch raised => fun s ↦
    .ok ((s.unlockMilestonesBatch raised).2, (s.unlockMilestonesBatch raised).1)
  | setDonor donor record => fun s ↦ .ok ((), s.setDonor donor record)
  | getDonor donor => fun s ↦ .ok (s.getDonor donor, s)
  | getDonorAssetDonation donor asset => fun s ↦ .ok (s.getDonorAssetDonation donor asset, s)
  | incrementDonorAssetDonation donor asset amount => fun s ↦ do
    let next ← s.incrementDonorAssetDonation donor asset amount
    pure ((), next)
  | getTotalRaised => fun s ↦ .ok (s.getTotalRaised, s)
  | setTotalRaised amount => fun s ↦ do
    let next ← s.setTotalRaised amount
    pure ((), next)
  | getDonationCount => fun s ↦ .ok (s.getDonationCount, s)
  | incrementDonationCount => fun s ↦ do
    let next ← s.incrementDonationCount
    pure (next.getDonationCount, next)
  | getUniqueDonorCount => fun s ↦ .ok (s.getUniqueDonorCount, s)
  | incrementUniqueDonorCount => fun s ↦ do
    let next ← s.incrementUniqueDonorCount
    pure (next.getUniqueDonorCount, next)
  | getReleaseCount => fun s ↦ .ok (s.getReleaseCount, s)
  | incrementReleaseCount => fun s ↦ do
    let next ← s.incrementReleaseCount
    pure (next.getReleaseCount, next)
  | getAssetRaised token => fun s ↦ .ok (s.getAssetRaised token, s)
  | setAssetRaised token amount => fun s ↦ do
    let next ← s.setAssetRaised token amount
    pure ((), next)
  | incrementAssetRaised token delta => fun s ↦ do
    let next ← s.incrementAssetRaised token delta
    pure (next.getAssetRaised token, next)
  | acquireLock => fun s ↦ do
    let next ← s.acquireLock
    pure ((), next)
  | releaseLock => fun s ↦ .ok ((), s.releaseLock)
  | isFrozen => fun s ↦ .ok (s.isFrozen, s)
  | setFrozen frozen => fun s ↦ .ok ((), s.setFrozen frozen)
  | isAssetBlocked asset => fun s ↦ .ok (s.isAssetBlocked asset, s)
  | blockAsset asset => fun s ↦ .ok ((), s.blockAsset asset)
  | unblockAsset asset => fun s ↦ .ok ((), s.unblockAsset asset)
  | getCachedReport => fun s ↦ .ok (s.cachedReport, s)
  | setCachedReport report => fun s ↦ .ok ((), s.setCachedReport report)
  | bumpAllPersistent _ => fun s ↦ .ok ((), s)

end Request

/-! ### Agreement -/

section Agreement

variable {net : Network} {now : ℕ}

namespace Agrees

theorem gatherMilestones (fuel i : ℕ) : Agrees now (Accessor.gatherMilestones net now fuel i)
    fun s ↦ .ok (Storage.gatherMilestones s.milestoneData fuel i, s) := by
  induction fuel generalizing i with
  | zero => exact pure []
  | succ fuel ih =>
    refine (bind (get net (.milestoneData i) nofun) (g := fun value s ↦ .ok (value.elim []
      fun m ↦ m :: Storage.gatherMilestones s.milestoneData fuel (i + 1), s))
        fun value ↦ ?_).congr fun s ↦ ?_
    · cases value with
      | none => exact pure []
      | some m => exact (bind (ih (i + 1)) fun rest ↦ pure (m :: rest)).congr fun s ↦ rfl
    · change Except.ok ((s.milestoneData i).elim [] _, s) = _
      rw [Storage.gatherMilestones]
      cases s.milestoneData i <;> rfl

theorem getMilestonesVec :
    Agrees now (Accessor.getMilestonesVec net now) Request.getMilestonesVec.onStorage := by
  refine (bind (get net .milestonesVec nofun) (g := fun value s ↦ .ok (match value with
    | some v => v
    | none => Storage.gatherMilestones s.milestoneData Storage.indexSpace 0, s))
      fun value ↦ ?_).congr fun s ↦ rfl
  cases value with
  | none => exact gatherMilestones Storage.indexSpace 0
  | some v => exact (bind (bumpPersistent net .milestonesVec) fun _ ↦ pure v).congr fun s ↦ rfl

theorem setMilestonesVec (v : List MilestoneData) :
    Agrees now (Accessor.setMilestonesVec net now v) (Request.setMilestonesVec v).onStorage :=
  store net .milestonesVec nofun v

theorem setMilestone (index : ℕ) (data : MilestoneData) :
    Agrees now (Accessor.setMilestone net now index data)
      (Request.setMilestone index data).onStorage := by
  refine (bind getMilestonesVec (g := fun v s ↦ .ok ((),
    if index < v.length then s.setMilestonesVec (v.set index data)
    else if index = v.length then s.setMilestonesVec (v ++ [data])
    else { s with milestoneData := Function.update s.milestoneData index (some data) }))
      fun v ↦ ?_).congr fun s ↦ rfl
  split_ifs
  · exact setMilestonesVec _
  · exact setMilestonesVec _
  · exact store net (.milestoneData index) nofun data

theorem getMilestone (index : ℕ) :
    Agrees now (Accessor.getMilestone net now index) (Request.getMilestone index).onStorage := by
  refine (bind getMilestonesVec (g := fun v s ↦ .ok (
    if index < v.length then v[index]? else s.milestoneData index, s)) fun v ↦ ?_).congr
      fun s ↦ rfl
  by_cases hindex : index < v.length
  · simp only [if_pos hindex]
    exact pure v[index]?
  · simp only [if_neg hindex]
    exact get net (.milestoneData index) nofun

theorem unlockMilestonesBatch (raised : ℤ) :
    Agrees now (Accessor.unlockMilestonesBatch net now raised)
      (Request.unlockMilestonesBatch raised).onStorage := by
  refine (bind getMilestonesVec (g := fun v s ↦
    if (Storage.unlockScan raised 0 v).2.isEmpty then .ok ([], s)
    else .ok ((Storage.unlockScan raised 0 v).2,
      s.setMilestonesVec (Storage.unlockScan raised 0 v).1)) fun v ↦ ?_).congr fun s ↦ ?_
  · dsimp only
    split_ifs
    · exact pure []
    · exact bind (setMilestonesVec _) fun _ ↦ pure _
  · change (if (Storage.unlockScan raised 0 s.getMilestonesVec).2.isEmpty then _ else _) = _
    unfold Request.onStorage Storage.unlockMilestonesBatch
    dsimp only
    split_ifs <;> rfl

theorem incrementDonorAssetDonation (donor asset : Address) (amount : ℤ) :
    Agrees now (Accessor.incrementDonorAssetDonation net now donor asset amount)
      (Request.incrementDonorAssetDonation donor asset amount).onStorage := by
  refine (bind (get net (.donorAssetDonation donor asset) nofun) fun current ↦
    checked fun newAmount ↦ store net (.donorAssetDonation donor asset) nofun newAmount).congr
      fun s ↦ ?_
  change _ = (s.incrementDonorAssetDonation donor asset amount >>= fun next ↦ Pure.pure ((), next))
  rw [Storage.incrementDonorAssetDonation, bind_assoc]
  rfl

theorem setTotalRaised (amount : ℤ) : Agrees now (Accessor.setTotalRaised net now amount)
    (Request.setTotalRaised amount).onStorage := by
  refine (refused (store net .totalRaised nofun amount)).congr fun s ↦ ?_
  change _ = (s.setTotalRaised amount >>= fun next ↦ Pure.pure ((), next))
  rw [Storage.setTotalRaised, bind_assoc]
  rfl

theorem setAssetRaised (token : Address) (amount : ℤ) :
    Agrees now (Accessor.setAssetRaised net now token amount)
      (Request.setAssetRaised token amount).onStorage := by
  refine (refused (store net (.assetRaised token) nofun amount)).congr fun s ↦ ?_
  change _ = (s.setAssetRaised token amount >>= fun next ↦ Pure.pure ((), next))
  rw [Storage.setAssetRaised, bind_assoc]
  rfl

/-- What is written of a token is what is read of it. -/
theorem setAssetRaised_bind (s : Storage) (token : Address) (amount : ℤ) :
    (s.setAssetRaised token amount >>= fun next ↦
      Pure.pure (next.getAssetRaised token, next)) =
      s.setAssetRaised token amount >>= fun next ↦ Pure.pure (amount, next) := by
  refine bind_congr_of_ok fun next hset ↦ ?_
  obtain ⟨-, rfl⟩ := Storage.setAssetRaised_eq_ok_iff.mp hset
  simp [Storage.getAssetRaised]

theorem incrementAssetRaised (token : Address) (delta : ℤ) :
    Agrees now (Accessor.incrementAssetRaised net now token delta)
      (Request.incrementAssetRaised token delta).onStorage := by
  refine (refused (bind (loadOr net (.assetRaised token) nofun (0 : ℤ)) fun current ↦
    checked fun newTotal ↦ bind (setAssetRaised token newTotal) fun _ ↦ pure newTotal)).congr
      fun s ↦ ?_
  change _ = (s.incrementAssetRaised token delta >>= fun next ↦
    Pure.pure (next.getAssetRaised token, next))
  simp only [Storage.incrementAssetRaised, bind_assoc, setAssetRaised_bind]
  refine bind_congr_of_ok fun _ _ ↦ ?_
  change (orFail (checkedI128 (s.getAssetRaised token + delta)) _ >>= fun b ↦
    (s.setAssetRaised token b >>= fun next ↦ Pure.pure ((), next)) >>= fun x ↦
      Pure.pure (b, x.2)) = _
  simp only [bind_assoc, pure_bind]

/-- Counting reads a counter, and writes and returns the next count. -/
theorem incrementCounter {read : Accessor ℕ} {write : ℕ → Accessor Unit}
    {bound : ℕ} {count : Storage → ℕ} {put : Storage → ℕ → Storage}
    (hread : Agrees now read fun s ↦ .ok (count s, s))
    (hwrite : ∀ n, Agrees now (write n) fun s ↦ .ok ((), put s n)) :
    Agrees now (Accessor.incrementCounter read write bound) fun s ↦
      orFail (checkedCounter bound (count s + 1)) (.contract .overflow) >>= fun n ↦
        .ok (n, put s n) :=
  (bind hread fun _ ↦ checked fun next ↦ bind (hwrite next) fun _ ↦ pure next).congr fun _ ↦ rfl

theorem incrementDonationCount : Agrees now (Accessor.incrementDonationCount net now)
    Request.incrementDonationCount.onStorage := by
  refine (incrementCounter (loadOr net .donationCount nofun (0 : ℕ))
    (store net .donationCount nofun)).congr fun s ↦ ?_
  change _ = (s.incrementDonationCount >>= fun next ↦ Pure.pure (next.getDonationCount, next))
  rw [Storage.incrementDonationCount, bind_assoc]
  rfl

theorem incrementUniqueDonorCount : Agrees now (Accessor.incrementUniqueDonorCount net now)
    Request.incrementUniqueDonorCount.onStorage := by
  refine (incrementCounter (loadOr net .uniqueDonorCount nofun (0 : ℕ))
    (store net .uniqueDonorCount nofun)).congr fun s ↦ ?_
  change _ = (s.incrementUniqueDonorCount >>= fun next ↦
    Pure.pure (next.getUniqueDonorCount, next))
  rw [Storage.incrementUniqueDonorCount, bind_assoc]
  rfl

theorem incrementReleaseCount : Agrees now (Accessor.incrementReleaseCount net now)
    Request.incrementReleaseCount.onStorage := by
  refine (incrementCounter (loadOr net .releaseCount nofun (0 : ℕ))
    (store net .releaseCount nofun)).congr fun s ↦ ?_
  change _ = (s.incrementReleaseCount >>= fun next ↦ Pure.pure (next.getReleaseCount, next))
  rw [Storage.incrementReleaseCount, bind_assoc]
  rfl

/-- A bump of what is there changes nothing that is seen. -/
theorem bumpStored (key : DataKey) (hkey : key ≠ .reentrancyLock) :
    Agrees now (Accessor.bumpStored net now key) (Pure.pure ()) := by
  refine (bind (has net key hkey) fun stored ↦ ite (bumpPersistent net key) (pure ())).congr
    fun s ↦ ?_
  change (if (s.entry key).isSome = true then (Pure.pure () : StorageProgram Unit)
    else Pure.pure ()) s = _
  rw [ite_self]

/-- Extensions in sequence change nothing that is seen. -/
theorem forM_bumpStored {ι : Type} (l : List ι) (f : ι → DataKey)
    (hkeys : ∀ i ∈ l, f i ≠ .reentrancyLock) :
    Agrees now (l.forM fun i ↦ Accessor.bumpStored net now (f i)) (Pure.pure ()) := by
  induction l with
  | nil => exact pure ()
  | cons i rest ih =>
    exact (bind (bumpStored (f i) (hkeys i List.mem_cons_self)) fun _ ↦
      ih fun j hj ↦ hkeys j (List.mem_cons_of_mem i hj)).congr fun s ↦ rfl

theorem bumpAllPersistent (milestoneCount : ℕ) :
    Agrees now (Accessor.bumpAllPersistent net now milestoneCount)
      (Request.bumpAllPersistent milestoneCount).onStorage := by
  exact (bind (forM_bumpStored Accessor.coreKeys id (by decide)) fun _ ↦
    bind (bumpStored .milestonesVec nofun) fun _ ↦ bind (bumpStored .cachedReport nofun) fun _ ↦
      forM_bumpStored (List.range milestoneCount) .milestoneData fun _ _ ↦ nofun).congr
        fun s ↦ rfl

/-- A lock that is free is taken, and alive. -/
theorem acquireLock_of_free (net : Network) {h : HostStorage}
    (hfree : (h.temporary .reentrancyLock).filter (fun entry ↦ now ≤ entry.liveUntil) = none) :
    ∃ liveUntil, now ≤ liveUntil ∧ Accessor.acquireLock net now h = .ok ((), { h with
      temporary := Function.update h.temporary .reentrancyLock (some ⟨true, liveUntil⟩) }) := by
  have hlive := net.le_created .temporary now
  have hbounded : ¬ net.maximum ≤ temporaryTtl :=
    not_le.mpr ((show temporaryTtl < persistentBumpAmount by decide).trans net.amount_lt)
  refine ⟨net.extended now (net.created .temporary now) 0 temporaryTtl,
    hlive.trans (net.le_extended ..), ?_⟩
  simp [Accessor.acquireLock, ExpiringStore.has, ExpiringStore.set, ExpiringStore.extendTtl,
    ExpiringStore.find_temporary, hfree, hlive, hbounded, failIf, orFail, Bind.bind, Except.bind,
    Except.mapError, Pure.pure, Except.pure, Option.filter_some]

/-- The lock is a temporary entry. -/
theorem acquireLock : Agrees now (Accessor.acquireLock net now) Request.acquireLock.onStorage := by
  intro h
  cases hlock : (h.temporary .reentrancyLock).filter fun entry ↦ now ≤ entry.liveUntil with
  | some entry =>
    have hheld : (h.view now).reentrancyLock = true := by
      rw [HostStorage.view, ← Option.isSome_filter, hlock]
      rfl
    have hrun : Accessor.acquireLock net now h = .error (.contract (.contract .reentrantCall)) := by
      simp [Accessor.acquireLock, ExpiringStore.has, ExpiringStore.find_temporary, hlock, failIf,
        Bind.bind, Except.bind, Except.mapError, Pure.pure, Except.pure]
    rw [hrun]
    refine .failed ?_
    simp [Request.onStorage, Storage.acquireLock, hheld, failIf, Bind.bind, Except.bind]
  | none =>
    have hfree : (h.view now).reentrancyLock = false := by
      rw [HostStorage.view, ← Option.isSome_filter, hlock]
      rfl
    obtain ⟨liveUntil, hafter, hrun⟩ := acquireLock_of_free net hlock
    have htaken : HostStorage.view now { h with
        temporary := Function.update h.temporary .reentrancyLock (some ⟨true, liveUntil⟩) } =
        { h.view now with reentrancyLock := true } := by
      simp [HostStorage.view, hafter]
    rw [hrun]
    refine .ok ?_ (.refl _ _)
    rw [htaken]
    simp [Request.onStorage, Storage.acquireLock, hfree, failIf]

theorem releaseLock : Agrees now Accessor.releaseLock Request.releaseLock.onStorage := by
  intro h
  refine .ok ?_ (.refl _ _)
  change Except.ok ((), (h.view now).releaseLock) = _
  simp [HostStorage.view, Storage.releaseLock, ExpiringStore.remove]

end Agrees

/-- Every accessor does on the ledger what its request does on the storage. -/
theorem Request.agrees {α : Type} (r : Request α) : Agrees now (r.onHost net now) r.onStorage := by
  cases r with
  | setCampaign data => exact .store net .campaignData nofun data
  | getCampaign => exact .load net .campaignData nofun
  | getMilestonesVec => exact .getMilestonesVec
  | setMilestonesVec v => exact .setMilestonesVec v
  | setMilestone index data => exact .setMilestone index data
  | getMilestone index => exact .getMilestone index
  | unlockMilestonesBatch raised => exact .unlockMilestonesBatch raised
  | setDonor donor record => exact .store net (.donorData donor) nofun record
  | getDonor donor => exact .load net (.donorData donor) nofun
  | getDonorAssetDonation donor asset =>
    exact .loadOr net (.donorAssetDonation donor asset) nofun (0 : ℤ)
  | incrementDonorAssetDonation donor asset amount =>
    exact .incrementDonorAssetDonation donor asset amount
  | getTotalRaised => exact .loadOr net .totalRaised nofun (0 : ℤ)
  | setTotalRaised amount => exact .setTotalRaised amount
  | getDonationCount => exact .loadOr net .donationCount nofun (0 : ℕ)
  | incrementDonationCount => exact .incrementDonationCount
  | getUniqueDonorCount => exact .loadOr net .uniqueDonorCount nofun (0 : ℕ)
  | incrementUniqueDonorCount => exact .incrementUniqueDonorCount
  | getReleaseCount => exact .loadOr net .releaseCount nofun (0 : ℕ)
  | incrementReleaseCount => exact .incrementReleaseCount
  | getAssetRaised token => exact .loadOr net (.assetRaised token) nofun (0 : ℤ)
  | setAssetRaised token amount => exact .setAssetRaised token amount
  | incrementAssetRaised token delta => exact .incrementAssetRaised token delta
  | acquireLock => exact .acquireLock
  | releaseLock => exact .releaseLock
  | isFrozen => exact .loadOr net .frozen nofun false
  | setFrozen frozen => exact .store net .frozen nofun frozen
  | isAssetBlocked asset => exact .loadOr net (.blockedAsset asset) nofun false
  | blockAsset asset => exact .store net (.blockedAsset asset) nofun true
  | unblockAsset asset => exact .store net (.blockedAsset asset) nofun false
  | getCachedReport => exact .load net .cachedReport nofun
  | setCachedReport report => exact .store net .cachedReport nofun report
  | bumpAllPersistent milestoneCount => exact .bumpAllPersistent milestoneCount

end Agreement

/-! ### Clients -/

/-- A program that requests accesses, each depending on what the ones before returned. -/
inductive Client (α : Type) : Type 1
  | done (a : α)
  | panic (failure : Failure)
  | request {β : Type} (r : Request β) (rest : β → Client α)

namespace Client

variable {α β : Type}

/-- Go on with what a client returns. -/
def andThen : Client α → (α → Client β) → Client β
  | done a, f => f a
  | panic failure, _ => .panic failure
  | request r rest, f => .request r fun b ↦ (rest b).andThen f

instance : Monad Client where
  pure := done
  bind := andThen

/-- A client run on the ledger. -/
def onHost (net : Network) (now : ℕ) : Client α → Accessor α
  | done a => pure a
  | panic failure => Accessor.fail failure
  | request r rest => r.onHost net now >>= fun b ↦ (rest b).onHost net now

/-- A client run on the storage without lifetimes. -/
def onStorage : Client α → StorageProgram α
  | done a => pure a
  | panic failure => fun _ ↦ .error failure
  | request r rest => r.onStorage >>= fun b ↦ (rest b).onStorage

/-- Every client does on the ledger what it does on the storage, unless it meets an archived
entry. -/
theorem agrees {net : Network} {now : ℕ} (client : Client α) :
    Agrees now (client.onHost net now) client.onStorage := by
  induction client with
  | done a => exact .pure a
  | panic failure => exact .fail failure
  | request r rest ih => exact r.agrees.bind ih

end Client

end OrbitChain.Campaign
