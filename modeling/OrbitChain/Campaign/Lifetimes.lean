import OrbitChain.Campaign.StorageClients
import OrbitChain.Foundations.RunProjections

/-!
# Lifetimes over the runs of a ledger

The ledger closes and its sequence advances, transactions run clients of the contract's storage,
and anyone may restore an archived entry. Failed transactions are rolled back.

What there is to see of the entries is a run of the storage without lifetimes
(`lifetimes_transparent`): archival makes transactions fail and does nothing else to them. What a
transaction requested stays alive for the bump threshold (`alive_of_requested`), and one maintenance
call within every threshold keeps the core entries alive and meets no archived entry
(`keeper_sustains`).

Every result holds for every `Network`, so for every host that does what `Foundations.StoreHost`
assumes. Not modelled here: the entries of the contract's instance and code, which no entrypoint
extends and without which no transaction runs, and a host that restores archived entries by itself.
-/

set_option autoImplicit false
set_option relaxedAutoImplicit false

namespace OrbitChain.Campaign

open Foundations

/-! ### Requested keys -/

/-- The keys whose entries a request refreshes. -/
def Request.keys {α : Type} : Request α → List DataKey
  | setCampaign _ | getCampaign => [.campaignData]
  | getMilestonesVec | setMilestonesVec _ | setMilestone _ _ | getMilestone _
  | unlockMilestonesBatch _ => [.milestonesVec]
  | setDonor donor _ | getDonor donor => [.donorData donor]
  | getDonorAssetDonation donor asset | incrementDonorAssetDonation donor asset _ =>
    [.donorAssetDonation donor asset]
  | getTotalRaised | setTotalRaised _ => [.totalRaised]
  | getDonationCount | incrementDonationCount => [.donationCount]
  | getUniqueDonorCount | incrementUniqueDonorCount => [.uniqueDonorCount]
  | getReleaseCount | incrementReleaseCount => [.releaseCount]
  | getAssetRaised token | setAssetRaised token _ | incrementAssetRaised token _ =>
    [.assetRaised token]
  | acquireLock | releaseLock => []
  | isFrozen | setFrozen _ => [.frozen]
  | isAssetBlocked asset | blockAsset asset | unblockAsset asset => [.blockedAsset asset]
  | getCachedReport | setCachedReport _ => [.cachedReport]
  | bumpAllPersistent milestoneCount =>
    Accessor.coreKeys ++ .milestonesVec :: .cachedReport ::
      (List.range milestoneCount).map .milestoneData

/-- The keys that a client requests from a storage. -/
def Client.requested {α : Type} : Client α → Storage → List DataKey
  | done _, _ | panic _, _ => []
  | request r rest, s =>
    r.keys ++
      match r.onStorage s with
      | .ok x => (rest x.1).requested x.2
      | .error _ => []

/-- A key has no entry, or one that lives up to a ledger. -/
def AliveTo (ledger : ℕ) (key : DataKey) (h : HostStorage) : Prop :=
  ∀ entry, h.persistent key = some entry → ledger ≤ entry.liveUntil

theorem AliveTo.of_prolongs {ledger horizon : ℕ} {key : DataKey} {h next : HostStorage}
    (halive : AliveTo ledger key h) (hle : ledger ≤ horizon)
    (hprolongs : ExpiringStore.Prolongs horizon h.persistent next.persistent) :
    AliveTo ledger key next := by
  intro later hlater
  rcases hprolongs.created hlater with hnew | ⟨entry, hentry, hlonger⟩
  · exact hle.trans hnew
  · exact (halive entry hentry).trans hlonger

/-- An accessor leaves a key alive for the threshold. -/
def Refreshes {α : Type} (now : ℕ) (key : DataKey) (m : Accessor α) : Prop :=
  ∀ h a next, m h = .ok (a, next) → AliveTo (now + persistentBumpThreshold) key next

section Refreshing

variable {α β : Type} {net : Network} {now : ℕ} {key : DataKey}

/-- What agrees with a program prolongs lifetimes. -/
theorem Agrees.prolongs {m : Accessor α} {p : StorageProgram α} (hm : Agrees now m p)
    {h next : HostStorage} {a : α} (hrun : m h = .ok (a, next)) :
    p (h.view now) = .ok (a, next.view now) ∧
      ExpiringStore.Prolongs (now + persistentBumpThreshold) h.persistent next.persistent := by
  have hconforms := hm h
  rw [hrun] at hconforms
  cases hconforms with
  | ok hknown hprolongs => exact ⟨hknown, hprolongs⟩

/-- What is read is what is stored, and reading changes nothing. -/
theorem get_eq_ok {value : Option key.Value} {h next : HostStorage}
    (hget : Accessor.get net now key h = .ok (value, next)) :
    ExpiringStore.valueAt h.persistent key = value ∧ h = next := by
  unfold Accessor.get ExpiringStore.get at hget
  rcases ExpiringStore.find_persistent net.toStoreHost now h.persistent key with hfound |
    ⟨hfailed, -⟩
  · rw [hfound] at hget
    cases hget
    exact ⟨rfl, rfl⟩
  · rw [hfailed] at hget
    cases hget

theorem has_eq_ok {stored : Bool} {h next : HostStorage}
    (hhas : Accessor.has net now key h = .ok (stored, next)) :
    (h.persistent key).isSome = stored ∧ h = next := by
  unfold Accessor.has ExpiringStore.has at hhas
  rcases ExpiringStore.find_persistent net.toStoreHost now h.persistent key with hfound |
    ⟨hfailed, -⟩
  · rw [hfound] at hhas
    cases hhas
    exact ⟨rfl, rfl⟩
  · rw [hfailed] at hhas
    cases hhas

namespace Refreshes

/-- What was refreshed stays alive. -/
theorem bind_left {m : Accessor α} {f : α → Accessor β} {g : α → StorageProgram β}
    (hm : Refreshes now key m) (hf : ∀ a, Agrees now (f a) (g a)) :
    Refreshes now key (m >>= f) := by
  intro h b final hrun
  obtain ⟨⟨a, next⟩, hfirst, hrest⟩ := bind_eq_ok_iff.mp hrun
  exact (hm h a next hfirst).of_prolongs le_rfl ((hf a).prolongs hrest).2

theorem bind_right {m : Accessor α} {f : α → Accessor β} (hf : ∀ a, Refreshes now key (f a)) :
    Refreshes now key (m >>= f) := by
  intro h b final hrun
  obtain ⟨⟨a, next⟩, -, hrest⟩ := bind_eq_ok_iff.mp hrun
  exact hf a next b final hrest

theorem fail (failure : Failure) : Refreshes now key (Accessor.fail failure : Accessor α) := by
  intro h a next hrun
  cases hrun

theorem bumpPersistent : Refreshes now key (Accessor.bumpPersistent net now key) := by
  intro h a next hrun entry hentry
  rcases bumpPersistent_cases net now key h with ⟨hnone, hresult⟩ |
    ⟨old, hold, hlive, hresult⟩ | ⟨old, hold, hended, hresult⟩
  · rw [hresult] at hrun
    cases hrun
    rw [hnone] at hentry
    cases hentry
  · rw [hresult] at hrun
    cases hrun
    obtain rfl : bumped net now old = entry := by simpa using hentry
    exact add_le_bumped hlive
  · rw [hresult] at hrun
    cases hrun

theorem store (value : key.Value) : Refreshes now key (Accessor.store net now key value) :=
  bind_right fun _ ↦ bumpPersistent

theorem load : Refreshes now key (Accessor.load net now key) := by
  intro h a next hrun
  obtain ⟨⟨value, middle⟩, hget, hrest⟩ := bind_eq_ok_iff.mp hrun
  obtain ⟨rfl, rfl⟩ := get_eq_ok hget
  cases value : ExpiringStore.valueAt h.persistent key with
  | none =>
    rw [value] at hrest
    cases hrest
    intro entry hentry
    rw [ExpiringStore.valueAt, hentry] at value
    cases value
  | some v =>
    rw [value] at hrest
    exact (bumpPersistent.bind_left fun _ ↦ .pure (some v)) _ _ _ hrest

theorem loadOr (default : key.Value) : Refreshes now key (Accessor.loadOr net now key default) :=
  bind_right fun value ↦ bumpPersistent.bind_left fun _ ↦ .pure (value.getD default)

theorem getMilestonesVec : Refreshes now .milestonesVec (Accessor.getMilestonesVec net now) := by
  intro h a next hrun
  obtain ⟨⟨value, middle⟩, hget, hrest⟩ := bind_eq_ok_iff.mp hrun
  obtain ⟨rfl, rfl⟩ := get_eq_ok hget
  cases value : ExpiringStore.valueAt h.persistent .milestonesVec with
  | none =>
    rw [value] at hrest
    have hnone : AliveTo (now + persistentBumpThreshold) .milestonesVec h := by
      intro entry hentry
      rw [ExpiringStore.valueAt, hentry] at value
      cases value
    exact hnone.of_prolongs le_rfl ((Agrees.gatherMilestones _ _).prolongs hrest).2
  | some v =>
    rw [value] at hrest
    exact (bumpPersistent.bind_left fun _ ↦ .pure v) _ _ _ hrest

theorem ite {c : Prop} [Decidable c] {m m' : Accessor α} (hm : Refreshes now key m)
    (hm' : Refreshes now key m') : Refreshes now key (if c then m else m') := by
  split_ifs
  · exact hm
  · exact hm'

theorem incrementCounter {read : Accessor ℕ} {write : ℕ → Accessor Unit} {bound : ℕ}
    {put : Storage → ℕ → Storage} (hread : Refreshes now key read)
    (hwrite : ∀ n, Agrees now (write n) fun s ↦ .ok ((), put s n)) :
    Refreshes now key (Accessor.incrementCounter read write bound) :=
  hread.bind_left fun _ ↦ .checked fun n ↦ (hwrite n).bind fun _ ↦ .pure n

theorem bumpStored : Refreshes now key (Accessor.bumpStored net now key) := by
  intro h a next hrun
  obtain ⟨⟨stored, middle⟩, hhas, hrest⟩ := bind_eq_ok_iff.mp hrun
  obtain ⟨rfl, rfl⟩ := has_eq_ok hhas
  cases stored : (h.persistent key).isSome with
  | true =>
    rw [stored] at hrest
    exact bumpPersistent h a next hrest
  | false =>
    rw [stored] at hrest
    cases hrest
    intro entry hentry
    rw [hentry] at stored
    cases stored

/-- A series of bumps refreshes each of its keys. -/
theorem forM_bumpStored {ι : Type} {l : List ι} {f : ι → DataKey}
    (hkeys : ∀ i ∈ l, f i ≠ .reentrancyLock) {i : ι} (hi : i ∈ l) :
    Refreshes now (f i) (l.forM fun i ↦ Accessor.bumpStored net now (f i)) := by
  induction l with
  | nil => exact absurd hi List.not_mem_nil
  | cons j rest ih =>
    have hrest : ∀ i ∈ rest, f i ≠ .reentrancyLock := fun k hk ↦
      hkeys k (List.mem_cons_of_mem j hk)
    rcases List.mem_cons.mp hi with rfl | hi
    · exact bumpStored.bind_left fun _ ↦ .forM_bumpStored rest f hrest
    · exact bind_right fun _ ↦ ih hrest hi

theorem bumpAllPersistent {milestoneCount : ℕ}
    (hkey : key ∈ (Request.bumpAllPersistent milestoneCount).keys) :
    Refreshes now key (Accessor.bumpAllPersistent net now milestoneCount) := by
  have hmilestones : Agrees now ((List.range milestoneCount).forM fun i ↦
      Accessor.bumpStored net now (.milestoneData i)) (Pure.pure ()) :=
    .forM_bumpStored _ _ fun _ _ ↦ nofun
  have hstored (other : DataKey) (hother : other ≠ .reentrancyLock) :
      Agrees now (Accessor.bumpStored net now other) (Pure.pure ()) := .bumpStored other hother
  have hreport := (hstored .cachedReport nofun).bind fun _ ↦ hmilestones
  have hvec := (hstored .milestonesVec nofun).bind fun _ ↦ hreport
  rcases List.mem_append.mp hkey with hcore | hkey
  · exact (forM_bumpStored (f := id) (by decide) hcore).bind_left fun _ ↦ hvec
  · refine bind_right fun _ ↦ ?_
    rcases List.mem_cons.mp hkey with rfl | hkey
    · exact bumpStored.bind_left fun _ ↦ hreport
    · refine bind_right fun _ ↦ ?_
      rcases List.mem_cons.mp hkey with rfl | hkey
      · exact bumpStored.bind_left fun _ ↦ hmilestones
      · obtain ⟨i, hi, rfl⟩ := List.mem_map.mp hkey
        exact bind_right fun _ ↦ forM_bumpStored (f := .milestoneData) (fun _ _ ↦ nofun) hi

end Refreshes

/-- A request refreshes the entries of its keys. -/
theorem Request.refreshes (r : Request α) (hkey : key ∈ r.keys) :
    Refreshes now key (r.onHost net now) := by
  cases r with
  | acquireLock | releaseLock => exact absurd hkey List.not_mem_nil
  | bumpAllPersistent milestoneCount => exact .bumpAllPersistent hkey
  | setCampaign | setMilestonesVec | setDonor | setFrozen | blockAsset | unblockAsset
  | setCachedReport =>
    obtain rfl := List.mem_singleton.mp hkey
    exact .store _
  | getCampaign | getDonor | getCachedReport =>
    obtain rfl := List.mem_singleton.mp hkey
    exact .load
  | getDonorAssetDonation | getTotalRaised | getDonationCount | getUniqueDonorCount
  | getReleaseCount | getAssetRaised | isFrozen | isAssetBlocked =>
    obtain rfl := List.mem_singleton.mp hkey
    exact .loadOr _
  | getMilestonesVec =>
    obtain rfl := List.mem_singleton.mp hkey
    exact .getMilestonesVec
  | setMilestone index data =>
    obtain rfl := List.mem_singleton.mp hkey
    exact Refreshes.getMilestonesVec.bind_left fun v ↦ .ite (.setMilestonesVec _)
      (.ite (.setMilestonesVec _) (.store net (.milestoneData index) nofun data))
  | getMilestone index =>
    obtain rfl := List.mem_singleton.mp hkey
    exact Refreshes.getMilestonesVec.bind_left fun v ↦ .ite (.pure _)
      (.get net (.milestoneData index) nofun)
  | unlockMilestonesBatch raised =>
    obtain rfl := List.mem_singleton.mp hkey
    exact Refreshes.getMilestonesVec.bind_left fun v ↦ .ite (.pure _)
      ((Agrees.setMilestonesVec _).bind fun _ ↦ .pure _)
  | incrementDonorAssetDonation donor asset amount =>
    obtain rfl := List.mem_singleton.mp hkey
    exact .bind_right fun _ ↦ .bind_right fun newAmount ↦
      @Refreshes.store net now (.donorAssetDonation donor asset) newAmount
  | setTotalRaised | setAssetRaised =>
    obtain rfl := List.mem_singleton.mp hkey
    exact .ite (.fail _) (.store _)
  | incrementDonationCount =>
    obtain rfl := List.mem_singleton.mp hkey
    exact .incrementCounter (.loadOr _) (.store net .donationCount nofun)
  | incrementUniqueDonorCount =>
    obtain rfl := List.mem_singleton.mp hkey
    exact .incrementCounter (.loadOr _) (.store net .uniqueDonorCount nofun)
  | incrementReleaseCount =>
    obtain rfl := List.mem_singleton.mp hkey
    exact .incrementCounter (.loadOr _) (.store net .releaseCount nofun)
  | incrementAssetRaised token delta =>
    obtain rfl := List.mem_singleton.mp hkey
    exact .ite (.fail _) ((Refreshes.loadOr _).bind_left fun _ ↦ .checked fun n ↦
      (Agrees.setAssetRaised token n).bind fun _ ↦ .pure n)

/-- A client that succeeds refreshes the entries of all keys it requested. -/
theorem Client.refreshes (client : Client α) {h next : HostStorage} {a : α}
    (hrun : client.onHost net now h = .ok (a, next)) :
    ∀ key ∈ client.requested (h.view now), AliveTo (now + persistentBumpThreshold) key next := by
  induction client generalizing h with
  | done | panic => exact fun _ hkey ↦ absurd hkey List.not_mem_nil
  | request r rest ih =>
    intro key hkey
    obtain ⟨⟨b, middle⟩, hfirst, hrest⟩ := bind_eq_ok_iff.mp hrun
    unfold Client.requested at hkey
    rw [(r.agrees.prolongs hfirst).1] at hkey
    rcases List.mem_append.mp hkey with hkey | hkey
    · exact (r.refreshes hkey h b middle hfirst).of_prolongs le_rfl
        ((rest b).agrees.prolongs hrest).2
    · exact ih b hrest key hkey

end Refreshing

/-! ### Ledgers -/

/-- The sequence of the ledger and the entries of the contract. -/
structure LedgerState where
  now : ℕ
  storage : HostStorage

/-- What there is to see of the entries now. -/
def LedgerState.view (s : LedgerState) : Storage := s.storage.view s.now

/-- What happens on the ledger. -/
inductive LedgerLabel : Type 1
  | advance (ledgers : ℕ)
  | transact (client : Client Unit)
  | restore (key : DataKey)

/-- An archived entry is restored, with a lifetime from the host. -/
def restored (net : Network) (now : ℕ) (key : DataKey) (h : HostStorage) : HostStorage :=
  match h.persistent key with
  | none => h
  | some entry =>
    if now ≤ entry.liveUntil then h
    else
      { h with
        persistent := Function.update h.persistent key
          (some ⟨entry.value, net.restored now⟩) }

/-- The ledger: it advances, transacts and restores. -/
def ledgerSystem (net : Network) : System LedgerLabel LedgerState Fault where
  exec
    | .advance ledgers, s => .ok { s with now := s.now + ledgers }
    | .transact client, s => do
      let x ← client.onHost net s.now s.storage
      pure { s with storage := x.2 }
    | .restore key, s => .ok { s with storage := restored net s.now key s.storage }

/-- What happens to the storage without lifetimes: transactions, and the end of a lock's
lifetime. -/
inductive StorageLabel : Type 1
  | transact (client : Client Unit)
  | unlock

/-- The storage without lifetimes. -/
def storageSystem : System StorageLabel Storage Failure where
  exec
    | .transact client, s => do
      let x ← client.onStorage s
      pure x.2
    | .unlock, s => .ok s.releaseLock

/-- Extend the lifetimes of the core entries. Anyone may. -/
def bumpStorage : Client Unit :=
  .request .getCampaign fun
    | some campaign => .request (.bumpAllPersistent campaign.milestoneCount) .done
    | none => .panic (.contract .notInitialized)

/-- A run of the ledger from the deployment of the contract. -/
abbrev LedgerRun (net : Network) (start : ℕ) : List (Receipt LedgerLabel LedgerState) →
    LedgerState → Prop :=
  Run (ledgerSystem net) ⟨start, .empty⟩

section Ledgers

variable {net : Network} {start : ℕ} {s next : LedgerState}
  {history : List (Receipt LedgerLabel LedgerState)}

theorem exec_transact_eq_ok_iff {client : Client Unit} :
    (ledgerSystem net).exec (.transact client) s = .ok next ↔
      ∃ h, client.onHost net s.now s.storage = .ok ((), h) ∧ { s with storage := h } = next := by
  simp only [ledgerSystem, bind_eq_ok_iff, pure_eq_ok_iff, Prod.exists]
  constructor
  · rintro ⟨_, h, hrun⟩
    exact ⟨h, hrun⟩
  · rintro ⟨h, hrun⟩
    exact ⟨(), h, hrun⟩

/-- Restoring shows nothing new and prolongs. -/
theorem restored_view (net : Network) (now : ℕ) (key : DataKey) (h : HostStorage) :
    (restored net now key h).view now = h.view now ∧ ∀ horizon,
      ExpiringStore.Prolongs horizon h.persistent (restored net now key h).persistent := by
  unfold restored
  cases hentry : h.persistent key with
  | none => exact ⟨rfl, fun horizon ↦ .refl horizon _⟩
  | some entry =>
    dsimp only
    split_ifs with hlive
    · exact ⟨rfl, fun horizon ↦ .refl horizon _⟩
    · have hlonger : entry.liveUntil ≤ net.restored now :=
        (not_le.mp hlive).le.trans (net.le_restored now)
      exact ⟨HostStorage.view_congr (ExpiringStore.valueAt_update_self hentry _),
        .lengthened hentry hlonger⟩

/-- Every step of the ledger prolongs lifetimes. -/
theorem prolongs_of_exec {label : LedgerLabel}
    (hexec : (ledgerSystem net).exec label s = .ok next) :
    s.now ≤ next.now ∧ ExpiringStore.Prolongs (s.now + persistentBumpThreshold)
      s.storage.persistent next.storage.persistent := by
  cases label with
  | advance ledgers =>
    cases hexec
    exact ⟨Nat.le_add_right .., .refl _ _⟩
  | transact client =>
    obtain ⟨h, hrun, rfl⟩ := exec_transact_eq_ok_iff.mp hexec
    exact ⟨le_rfl, (client.agrees.prolongs hrun).2⟩
  | restore key =>
    cases hexec
    exact ⟨le_rfl, (restored_view net s.now key s.storage).2 _⟩

/-- Runs of the ledger prolong lifetimes. -/
theorem prolongs_of_run {middle : LedgerState} (run : Run (ledgerSystem net) middle history s) :
    middle.now ≤ s.now ∧ ExpiringStore.Prolongs (middle.now + persistentBumpThreshold)
      middle.storage.persistent s.storage.persistent := by
  refine run.state_invariant (I := fun s ↦ middle.now ≤ s.now ∧ ExpiringStore.Prolongs
    (middle.now + persistentBumpThreshold) middle.storage.persistent s.storage.persistent)
      ⟨le_rfl, .refl _ _⟩ ?_
  rintro label state after ⟨hnow, hprolongs⟩ hexec
  obtain ⟨hlater, hstep⟩ := prolongs_of_exec hexec
  exact ⟨hnow.trans hlater, hprolongs.trans (hstep.mono (Nat.add_le_add_right hnow _))⟩

/-- The entries that a transaction requested live for the threshold from then on. -/
theorem alive_of_requested {start : LedgerState} (run : Run (ledgerSystem net) start history s)
    {r : Receipt LedgerLabel LedgerState} (hr : r ∈ history) {client : Client Unit}
    (hlabel : r.label = .transact client) {key : DataKey}
    (hkey : key ∈ client.requested r.before.view) :
    AliveTo (r.before.now + persistentBumpThreshold) key s.storage := by
  obtain ⟨later, earlier, rfl⟩ := List.append_of_mem hr
  obtain ⟨-, hfired, hlater⟩ := run.split
  rw [hlabel] at hfired
  obtain ⟨h, hrun, hafter⟩ := exec_transact_eq_ok_iff.mp hfired
  have halive := client.refreshes hrun key hkey
  obtain ⟨hnow, hprolongs⟩ := prolongs_of_run hlater
  rw [← hafter] at hnow hprolongs
  exact halive.of_prolongs le_rfl hprolongs

/-! ### The storage without lifetimes -/

/-- Transactions are what there is to see. -/
def isTransaction (r : Receipt StorageLabel Storage) : Bool :=
  match r.label with
  | .transact _ => true
  | .unlock => false

/-- What a step of the ledger is to the storage. -/
def seenAs (r : Receipt LedgerLabel LedgerState) : List (Receipt StorageLabel Storage) :=
  match r.label with
  | .transact client => [⟨.transact client, r.before.view, r.after.view⟩]
  | _ => []

/-- With time nothing changes but that the lifetime of a lock may end. -/
theorem view_advance (h : HostStorage) (now ledgers : ℕ) :
    h.view (now + ledgers) = h.view now ∨ h.view (now + ledgers) = (h.view now).releaseLock := by
  cases hentry : h.temporary .reentrancyLock with
  | none =>
    left
    simp [HostStorage.view, hentry]
  | some entry =>
    by_cases hlive : now + ledgers ≤ entry.liveUntil
    · left
      simp [HostStorage.view, hentry, hlive, (Nat.le_add_right now ledgers).trans hlive]
    · right
      simp [HostStorage.view, Storage.releaseLock, hentry, hlive]

/-- A step of the ledger is a run of the storage. -/
theorem showing_of_exec {label : LedgerLabel} (hexec : (ledgerSystem net).exec label s = .ok next) :
    RunShowing storageSystem isTransaction (seenAs ⟨label, s, next⟩) s.view next.view := by
  cases label with
  | advance ledgers =>
    cases hexec
    rcases view_advance s.storage s.now ledgers with hsame | hunlocked
    · change RunShowing _ _ _ (s.storage.view s.now) (s.storage.view (s.now + ledgers))
      rw [hsame]
      exact .refl _
    · change RunShowing _ _ _ (s.storage.view s.now) (s.storage.view (s.now + ledgers))
      rw [hunlocked]
      have hunlock : storageSystem.exec .unlock (s.storage.view s.now) =
        .ok (s.storage.view s.now).releaseLock := rfl
      exact .hidden hunlock rfl
  | transact client =>
    obtain ⟨h, hrun, rfl⟩ := exec_transact_eq_ok_iff.mp hexec
    refine .shown ?_ rfl
    simp only [storageSystem, LedgerState.view, (client.agrees.prolongs hrun).1, ok_bind]
    rfl
  | restore key =>
    cases hexec
    change RunShowing _ _ _ (s.storage.view s.now) ((restored net s.now key s.storage).view s.now)
    rw [(restored_view net s.now key s.storage).1]
    exact .refl _

/-- What there is to see of a ledger is a run of the storage without lifetimes, in which the same
transactions succeeded and did the same; and a transaction that fails met an archived entry or fails
on the storage in the same way. -/
theorem lifetimes_transparent (run : LedgerRun net start history s) :
    (∃ seen, Run storageSystem .empty seen s.view ∧
      seen.filter isTransaction = history.flatMap seenAs) ∧
    ∀ client fault, (ledgerSystem net).exec (.transact client) s = .error fault →
      (fault = .store .archived ∧
        ∃ key entry, s.storage.persistent key = some entry ∧ entry.liveUntil < s.now) ∨
      ∃ failure, fault = .contract failure ∧
        storageSystem.exec (.transact client) s.view = .error failure := by
  refine ⟨(Run.project (fun _ ↦ True) LedgerState.view trivial (fun _ _ _ _ hexec ↦
    ⟨trivial, showing_of_exec hexec⟩) run).2, fun client fault hfault ↦ ?_⟩
  have hconforms : Conforms s.now s.storage (client.onStorage s.view)
      (client.onHost net s.now s.storage) := client.agrees s.storage
  have hclient : client.onHost net s.now s.storage = .error fault := by
    cases hrun : client.onHost net s.now s.storage with
    | ok x => simp [ledgerSystem, hrun, bind, Except.bind, pure, Except.pure] at hfault
    | error other => simpa [ledgerSystem, hrun, bind, Except.bind] using hfault
  rw [hclient] at hconforms
  cases hconforms with
  | failed hknown =>
    refine .inr ⟨_, rfl, ?_⟩
    change (client.onStorage s.view >>= fun x ↦ pure x.2) = _
    rw [hknown]
    rfl
  | archived hstored hended => exact .inl ⟨rfl, _, _, hstored, hended⟩

end Ledgers

namespace Sample

/-- A network that grants new entries little, and extends an entry when no more than the threshold
remains. -/
def network : Network where
  maximum := 10000000
  created _ now := now + 99
  restored now := now + 99
  extended now liveUntil threshold extendTo :=
    if liveUntil - now ≤ threshold then max liveUntil (now + min extendTo (10000000 - 1))
    else liveUntil
  ended
    | .persistent => .error .archived
    | .temporary => .ok ()
  le_created _ _ := Nat.le_add_right ..
  le_restored _ := Nat.le_add_right ..
  le_extended now liveUntil threshold extendTo := by
    split_ifs
    · exact le_max_left ..
    · exact le_rfl
  add_le_extended alive extend within := by
    split_ifs with hshort
    · exact (Nat.add_le_add_left (le_min extend (Nat.le_sub_one_of_lt within)) _).trans
        (le_max_right ..)
    · omega
  ended_persistent := rfl
  ended_temporary := rfl
  amount_lt := by decide

/-- A campaign of one milestone in no token. -/
def bareCampaign : CampaignData where
  creator := .account 1
  goalAmount := 1000
  raisedAmount := 0
  endTime := 1000
  status := .active
  acceptedAssets := []
  milestoneCount := 1
  minDonationAmount := 0
  createdAtLedger := 1000
  createdAtTime := 20
  concludedAtLedger := none

def ledgerStart : LedgerState := ⟨1000, .empty⟩

/-- Where labels lead from ledger 1000. -/
def ledgerState (labels : List LedgerLabel) : LedgerState :=
  ((ledgerSystem network).replay labels ledgerStart).2

theorem ledgerRun (labels : List LedgerLabel) : LedgerRun network 1000
    ((ledgerSystem network).replay labels ledgerStart).1 (ledgerState labels) :=
  System.run_replay _ labels ledgerStart

/-- A campaign is stored and left alone for 60 days and one ledger. -/
def abandoned : List LedgerLabel :=
  [.transact (.request (.setCampaign bareCampaign) .done), .advance 1036801]

/-- A campaign is stored and left alone for 30 days and one ledger. -/
def drifted : List LedgerLabel :=
  [.transact (.request (.setCampaign bareCampaign) .done), .advance 518401]

end Sample

/-- On a ledger that left its campaign alone for too long, a maintenance call meets an archived
entry. -/
theorem lifetimes_transparent_abandoned :
    ∃ key entry, (Sample.ledgerState Sample.abandoned).storage.persistent key = some entry ∧
      entry.liveUntil < (Sample.ledgerState Sample.abandoned).now := by
  have hfails : ((ledgerSystem Sample.network).exec (.transact bumpStorage)
      (Sample.ledgerState Sample.abandoned)).isOk = false := by decide +kernel
  have hknown : (storageSystem.exec (.transact bumpStorage)
      (Sample.ledgerState Sample.abandoned).view).isOk = true := by decide +kernel
  cases hexec : (ledgerSystem Sample.network).exec (.transact bumpStorage)
      (Sample.ledgerState Sample.abandoned) with
  | ok next =>
    rw [hexec] at hfails
    cases hfails
  | error fault =>
    rcases (lifetimes_transparent (Sample.ledgerRun Sample.abandoned)).2 bumpStorage fault hexec
      with ⟨-, harchived⟩ | ⟨failure, -, hfailed⟩
    · exact harchived
    · rw [hfailed] at hknown
      cases hknown

/-! ### Maintenance -/

section Maintenance

variable {net : Network} {now : ℕ} {key : DataKey} {h : HostStorage}

/-- What is alive is found as it is. -/
theorem find_of_alive (halive : AliveTo now key h) :
    ExpiringStore.find net.toStoreHost .persistent now h.persistent key =
      .ok (h.persistent key) := by
  cases hentry : h.persistent key with
  | none => exact ExpiringStore.find_of_none hentry
  | some entry =>
    rw [← hentry]
    exact ExpiringStore.find_of_live ⟨entry, hentry, halive entry hentry⟩

theorem bumpPersistent_of_alive (net : Network) (halive : AliveTo now key h) :
    ∃ next, Accessor.bumpPersistent net now key h = .ok ((), next) := by
  rcases bumpPersistent_cases net now key h with ⟨-, hrun⟩ | ⟨_, -, -, hrun⟩ |
    ⟨entry, hentry, hended, -⟩
  · exact ⟨_, hrun⟩
  · exact ⟨_, hrun⟩
  · exact absurd (halive entry hentry) (not_le.mpr hended)

/-- What is alive is loaded. -/
theorem load_of_alive (net : Network) (key : DataKey) (halive : AliveTo now key h)
    {value : key.Value}
    (hvalue : ExpiringStore.valueAt h.persistent key = some value) :
    ∃ next, Accessor.load net now key h = .ok (some value, next) := by
  have hget : Accessor.get net now key h = .ok (some value, h) := by
    rw [Accessor.get, ExpiringStore.get, find_of_alive halive, ← hvalue]
    rfl
  obtain ⟨next, hrun⟩ := bumpPersistent_of_alive net halive
  exact ⟨next, bind_eq_ok_iff.mpr ⟨(some value, h), hget, bind_eq_ok_iff.mpr
    ⟨((), next), hrun, rfl⟩⟩⟩

/-- The programs that bump what is alive and change nothing that is seen. -/
def Bumps (now : ℕ) (keys : List DataKey) (m : Accessor Unit) : Prop :=
  Agrees now m (pure ()) ∧
    ∀ h, (∀ key ∈ keys, AliveTo now key h) → ∃ next, m h = .ok ((), next)

namespace Bumps

theorem bumpStored (key : DataKey) (hkey : key ≠ .reentrancyLock) :
    Bumps now [key] (Accessor.bumpStored net now key) := by
  refine ⟨.bumpStored key hkey, fun h halive ↦ ?_⟩
  have halive := halive key (List.mem_singleton_self key)
  have hhas : Accessor.has net now key h = .ok ((h.persistent key).isSome, h) := by
    rw [Accessor.has, ExpiringStore.has, find_of_alive halive]
    rfl
  cases hstored : (h.persistent key).isSome with
  | true =>
    obtain ⟨next, hrun⟩ := bumpPersistent_of_alive net halive
    exact ⟨next, bind_eq_ok_iff.mpr ⟨(true, h), hstored ▸ hhas, hrun⟩⟩
  | false => exact ⟨h, bind_eq_ok_iff.mpr ⟨(false, h), hstored ▸ hhas, rfl⟩⟩

/-- Bumps in sequence. -/
theorem andThen {keys keys' : List DataKey} {m m' : Accessor Unit} (hm : Bumps now keys m)
    (hm' : Bumps now keys' m') : Bumps now (keys ++ keys') (m >>= fun _ ↦ m') := by
  refine ⟨(hm.1.bind fun _ ↦ hm'.1).congr fun _ ↦ rfl, fun h halive ↦ ?_⟩
  obtain ⟨middle, hfirst⟩ := hm.2 h fun key hkey ↦ halive key (List.mem_append_left _ hkey)
  have hprolongs := (hm.1.prolongs hfirst).2
  obtain ⟨next, hrest⟩ := hm'.2 middle fun key hkey ↦
    (halive key (List.mem_append_right _ hkey)).of_prolongs (Nat.le_add_right ..) hprolongs
  exact ⟨next, bind_eq_ok_iff.mpr ⟨((), middle), hfirst, hrest⟩⟩

theorem forM_bumpStored {ι : Type} (l : List ι) (f : ι → DataKey)
    (hkeys : ∀ i ∈ l, f i ≠ .reentrancyLock) :
    Bumps now (l.map f) (l.forM fun i ↦ Accessor.bumpStored net now (f i)) := by
  induction l with
  | nil => exact ⟨.pure (), fun h _ ↦ ⟨h, rfl⟩⟩
  | cons i rest ih =>
    exact (bumpStored (f i) (hkeys i List.mem_cons_self)).andThen
      (ih fun j hj ↦ hkeys j (List.mem_cons_of_mem i hj))

theorem bumpAllPersistent (milestoneCount : ℕ) :
    Bumps now (Request.bumpAllPersistent milestoneCount).keys
      (Accessor.bumpAllPersistent net now milestoneCount) :=
  (forM_bumpStored Accessor.coreKeys id (by decide)).andThen
    ((bumpStored .milestonesVec nofun).andThen ((bumpStored .cachedReport nofun).andThen
      (forM_bumpStored (List.range milestoneCount) .milestoneData fun _ _ ↦ nofun)))

end Bumps

/-- A maintenance call requests the core entries of the campaign it finds. -/
theorem mem_requested_bumpStorage {s : Storage} {campaign : CampaignData}
    (hfound : s.campaignData = some campaign)
    (hkey : key ∈ (Request.bumpAllPersistent campaign.milestoneCount).keys) :
    key ∈ bumpStorage.requested s := by
  have hget : Request.getCampaign.onStorage s = .ok (some campaign, s) := by
    rw [← hfound]
    rfl
  unfold bumpStorage Client.requested
  rw [hget]
  refine List.mem_append_right _ ?_
  exact List.mem_append_left _ hkey

/-- A maintenance call changes nothing that is seen, and fails before the initialization. -/
theorem bumpStorage_onStorage (s : Storage) : bumpStorage.onStorage s =
    if s.campaignData.isSome then .ok ((), s) else .error (.contract .notInitialized) := by
  have hget : Request.getCampaign.onStorage s = .ok (s.campaignData, s) := rfl
  change (Request.getCampaign.onStorage s >>= fun x ↦ Client.onStorage (match x.1 with
    | some campaign => .request (.bumpAllPersistent campaign.milestoneCount) .done
    | none => .panic (.contract .notInitialized)) x.2) = _
  rw [hget, ok_bind]
  cases s.campaignData <;> rfl

theorem found_of_bumpStorage {s : Storage} {x : Unit × Storage}
    (hrun : bumpStorage.onStorage s = .ok x) : ∃ campaign, s.campaignData = some campaign := by
  rw [bumpStorage_onStorage] at hrun
  split_ifs at hrun with hfound
  exact Option.isSome_iff_exists.mp hfound

theorem view_of_bumpStorage {s : Storage} {x : Unit × Storage}
    (hrun : bumpStorage.onStorage s = .ok x) : x.2 = s := by
  rw [bumpStorage_onStorage] at hrun
  split_ifs at hrun with hfound
  cases hrun
  rfl

/-- A maintenance call succeeds where a campaign is stored and its core entries are alive. -/
theorem bumpStorage_succeeds {campaign : CampaignData}
    (hfound : (h.view now).campaignData = some campaign)
    (halive : ∀ key ∈ (Request.bumpAllPersistent campaign.milestoneCount).keys,
      AliveTo now key h) : ∃ next, bumpStorage.onHost net now h = .ok ((), next) := by
  obtain ⟨middle, hload⟩ := load_of_alive net .campaignData
    (halive .campaignData (List.mem_append_left _ (by decide))) hfound
  have hprolongs := (Request.getCampaign.agrees.prolongs hload).2
  obtain ⟨next, hrun⟩ := (Bumps.bumpAllPersistent campaign.milestoneCount).2 middle fun key hkey ↦
    (halive key hkey).of_prolongs (Nat.le_add_right ..) hprolongs
  exact ⟨next, bind_eq_ok_iff.mpr ⟨(some campaign, middle), hload, bind_eq_ok_iff.mpr
    ⟨((), next), hrun, rfl⟩⟩⟩

/-- Where a maintenance call succeeded within the last threshold, every core entry of the campaign
it found is alive, and as long as the campaign keeps its number of milestones, another call succeeds
as far as the contract's storage goes. Maintenance calls change nothing that is seen, lose no entry
and shorten no lifetime. -/
theorem keeper_sustains {start : ℕ} {s : LedgerState}
    {history : List (Receipt LedgerLabel LedgerState)}
    (run : LedgerRun net start history s) {r : Receipt LedgerLabel LedgerState} (hr : r ∈ history)
    (hlabel : r.label = .transact bumpStorage)
    (hrecent : s.now ≤ r.before.now + persistentBumpThreshold) :
    (∃ campaign, r.before.view.campaignData = some campaign ∧
      (∀ key ∈ (Request.bumpAllPersistent campaign.milestoneCount).keys,
        AliveTo s.now key s.storage) ∧
      ∀ current, s.view.campaignData = some current →
        current.milestoneCount = campaign.milestoneCount →
          ∃ next, (ledgerSystem net).exec (.transact bumpStorage) s = .ok next) ∧
    ∀ next, (ledgerSystem net).exec (.transact bumpStorage) s = .ok next → next.view = s.view ∧
      ExpiringStore.Prolongs (s.now + persistentBumpThreshold) s.storage.persistent
        next.storage.persistent := by
  constructor
  · obtain ⟨hfired, -⟩ := run.fired hr
    rw [hlabel] at hfired
    obtain ⟨h, hrun, -⟩ := exec_transact_eq_ok_iff.mp hfired
    obtain ⟨campaign, hfound⟩ := found_of_bumpStorage (bumpStorage.agrees.prolongs hrun).1
    have halive : ∀ key ∈ (Request.bumpAllPersistent campaign.milestoneCount).keys,
        AliveTo s.now key s.storage := by
      intro key hkey entry hentry
      have hrequested := mem_requested_bumpStorage hfound hkey
      exact hrecent.trans (alive_of_requested run hr hlabel hrequested entry hentry)
    refine ⟨campaign, hfound, halive, fun current hcurrent hcount ↦ ?_⟩
    rw [← hcount] at halive
    obtain ⟨next, hnext⟩ := bumpStorage_succeeds hcurrent halive
    exact ⟨_, exec_transact_eq_ok_iff.mpr ⟨next, hnext, rfl⟩⟩
  · intro next hexec
    obtain ⟨h, hrun, rfl⟩ := exec_transact_eq_ok_iff.mp hexec
    obtain ⟨hknown, hprolongs⟩ := bumpStorage.agrees.prolongs hrun
    exact ⟨view_of_bumpStorage hknown, hprolongs⟩

end Maintenance

/-- A campaign that was maintained when 30 days and a ledger had passed is maintained again 30 days
later. -/
theorem keeper_sustains_drifted :
    ∃ s, (ledgerSystem Sample.network).exec (.transact bumpStorage)
        (Sample.ledgerState Sample.drifted) = .ok s ∧
      ∃ next, (ledgerSystem Sample.network).exec (.transact bumpStorage)
        { s with now := s.now + persistentBumpThreshold } = .ok next := by
  obtain ⟨s, hexec⟩ := isOk_iff.mp (show ((ledgerSystem Sample.network).exec (.transact bumpStorage)
    (Sample.ledgerState Sample.drifted)).isOk = true by decide +kernel)
  obtain ⟨h, hrun, hs⟩ := exec_transact_eq_ok_iff.mp hexec
  have hview := (bumpStorage.agrees.prolongs hrun).1
  have hseen : s.view = (Sample.ledgerState Sample.drifted).view := by
    rw [← hs]
    exact view_of_bumpStorage hview
  have hadvance : (ledgerSystem Sample.network).exec (.advance persistentBumpThreshold) s =
    .ok { s with now := s.now + persistentBumpThreshold } := rfl
  have hrun := ((Sample.ledgerRun Sample.drifted).accept hexec).accept hadvance
  have hrecent : s.now + persistentBumpThreshold ≤
      (Sample.ledgerState Sample.drifted).now + persistentBumpThreshold := by rw [← hs]
  obtain ⟨⟨campaign, hfound, -, hnext⟩, -⟩ :=
    keeper_sustains hrun (List.mem_cons_of_mem _ List.mem_cons_self) rfl hrecent
  refine ⟨s, hexec, hnext campaign ?_ rfl⟩
  exact (congrArg Storage.campaignData hseen).trans hfound

end OrbitChain.Campaign
