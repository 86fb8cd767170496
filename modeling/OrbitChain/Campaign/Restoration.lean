import OrbitChain.Campaign.ContractLedger

/-!
# Restoring archived entries

A contract has stored finitely many entries, so in every state that the ledger reaches, finitely
many restores leave none archived. They show nothing new, and every call then does exactly what it
does in the model (`archival_repaired`). So a run of the model whose invocations are in the order of
the ledger can be made there, and what can be made there is such a run (`traces_on_ledger`).

This is about the entries of the contract's storage, on a host that archives and restores them as
assumed in `Foundations.StoreHost`. The instance and the code of the contract, not modelled here,
can be archived as well and are restored in the same way.
-/

set_option autoImplicit false
set_option relaxedAutoImplicit false

namespace OrbitChain.Campaign

open Foundations

/-! ### Stored keys -/

namespace Storage

/-- The keys under which the storage has entries. -/
def storedKeys (s : Storage) : Set DataKey := {key | s.entry key ≠ none}

section Writes

variable {s : Storage} {key other : DataKey}

theorem entry_write_of_ne (hne : other ≠ key) (value : key.Value) :
    (s.write key value).entry other = s.entry other := by
  cases key with
  | milestoneData i | donorData i | assetRaised i | blockedAsset i =>
    cases other <;> try rfl
    exact Function.update_of_ne (ne_of_apply_ne _ hne) _ _
  | donorAssetDonation d t =>
    cases other <;> try rfl
    rename_i d' t'
    by_cases hd : d' = d
    · subst hd
      have ht : t' ≠ t := ne_of_apply_ne _ hne
      simp only [write, entry, Function.update_self, Function.update_of_ne ht]
    · exact congrFun (Function.update_of_ne hd _ _) t'
  | _ => cases other <;> first | rfl | exact absurd rfl hne

theorem storedKeys_finite_write (h : s.storedKeys.Finite) (key : DataKey) (value : key.Value) :
    (s.write key value).storedKeys.Finite := by
  refine (h.insert key).subset fun other hother ↦ ?_
  by_cases hsame : other = key
  · exact .inl hsame
  · refine .inr ?_
    rwa [storedKeys, Set.mem_ofPred_eq, entry_write_of_ne hsame] at hother

/-- The lock is no entry. -/
theorem storedKeys_lock (locked : Bool) :
    storedKeys { s with reentrancyLock := locked } = s.storedKeys := by
  ext key
  cases key <;> rfl

end Writes

end Storage

/-- A request that writes what a fallible write leaves. -/
theorem storedKeys_finite_of_bind {α : Type} {write : Except Failure Storage} {f : Storage → α}
    {x : α × Storage} (hrun : (write >>= fun next ↦ pure (f next, next)) = .ok x)
    (hwrite : ∀ next, write = .ok next → next.storedKeys.Finite) : x.2.storedKeys.Finite := by
  obtain ⟨next, hnext, hx⟩ := bind_eq_ok_iff.mp hrun
  cases hx
  exact hwrite next hnext

/-- A request stores finitely many entries. -/
theorem Request.storedKeys_finite {α : Type} (r : Request α) {s : Storage} {x : α × Storage}
    (h : s.storedKeys.Finite) (hrun : r.onStorage s = .ok x) : x.2.storedKeys.Finite := by
  cases r with
  | getCampaign | getMilestonesVec | getMilestone | getDonor | getDonorAssetDonation
  | getTotalRaised | getDonationCount | getUniqueDonorCount | getReleaseCount | getAssetRaised
  | isFrozen | isAssetBlocked | getCachedReport | bumpAllPersistent =>
    cases hrun
    exact h
  | setCampaign data =>
    cases hrun
    exact Storage.storedKeys_finite_write h .campaignData data
  | setMilestonesVec v =>
    cases hrun
    exact Storage.storedKeys_finite_write h .milestonesVec v
  | setMilestone index data =>
    cases hrun
    unfold Storage.setMilestone
    dsimp only
    split_ifs
    · exact Storage.storedKeys_finite_write h .milestonesVec _
    · exact Storage.storedKeys_finite_write h .milestonesVec _
    · exact Storage.storedKeys_finite_write h (.milestoneData index) data
  | unlockMilestonesBatch raised =>
    cases hrun
    unfold Storage.unlockMilestonesBatch
    dsimp only
    split_ifs
    · exact h
    · exact Storage.storedKeys_finite_write h .milestonesVec _
  | setDonor donor record =>
    cases hrun
    exact Storage.storedKeys_finite_write h (.donorData donor) record
  | setFrozen frozen =>
    cases hrun
    exact Storage.storedKeys_finite_write h .frozen frozen
  | blockAsset asset | unblockAsset asset =>
    cases hrun
    exact Storage.storedKeys_finite_write h (.blockedAsset asset) _
  | setCachedReport report =>
    cases hrun
    exact Storage.storedKeys_finite_write h .cachedReport report
  | incrementDonorAssetDonation donor asset amount =>
    refine storedKeys_finite_of_bind hrun fun next hnext ↦ ?_
    obtain ⟨-, rfl⟩ := Storage.incrementDonorAssetDonation_eq_ok_iff.mp hnext
    exact Storage.storedKeys_finite_write h (.donorAssetDonation donor asset) _
  | setTotalRaised amount =>
    refine storedKeys_finite_of_bind hrun fun next hnext ↦ ?_
    obtain ⟨-, rfl⟩ := Storage.setTotalRaised_eq_ok_iff.mp hnext
    exact Storage.storedKeys_finite_write h .totalRaised amount
  | incrementDonationCount =>
    refine storedKeys_finite_of_bind hrun fun next hnext ↦ ?_
    obtain ⟨-, rfl⟩ := Storage.incrementDonationCount_eq_ok_iff.mp hnext
    exact Storage.storedKeys_finite_write h .donationCount _
  | incrementUniqueDonorCount =>
    refine storedKeys_finite_of_bind hrun fun next hnext ↦ ?_
    obtain ⟨-, rfl⟩ := Storage.incrementUniqueDonorCount_eq_ok_iff.mp hnext
    exact Storage.storedKeys_finite_write h .uniqueDonorCount _
  | incrementReleaseCount =>
    refine storedKeys_finite_of_bind hrun fun next hnext ↦ ?_
    obtain ⟨-, rfl⟩ := Storage.incrementReleaseCount_eq_ok_iff.mp hnext
    exact Storage.storedKeys_finite_write h .releaseCount _
  | setAssetRaised token amount =>
    refine storedKeys_finite_of_bind hrun fun next hnext ↦ ?_
    obtain ⟨-, rfl⟩ := Storage.setAssetRaised_eq_ok_iff.mp hnext
    exact Storage.storedKeys_finite_write h (.assetRaised token) amount
  | incrementAssetRaised token delta =>
    refine storedKeys_finite_of_bind hrun fun next hnext ↦ ?_
    obtain ⟨-, -, -, rfl⟩ := Storage.incrementAssetRaised_eq_ok_iff.mp hnext
    exact Storage.storedKeys_finite_write h (.assetRaised token) _
  | acquireLock =>
    refine storedKeys_finite_of_bind hrun fun next hnext ↦ ?_
    obtain ⟨-, rfl⟩ := Storage.acquireLock_eq_ok_iff.mp hnext
    exact (Storage.storedKeys_lock true).symm ▸ h
  | releaseLock =>
    cases hrun
    exact (Storage.storedKeys_lock false).symm ▸ h

/-- A client stores finitely many entries. -/
theorem Client.storedKeys_finite {α : Type} (client : Client α) {s : Storage} {x : α × Storage}
    (h : s.storedKeys.Finite) (hrun : client.onStorage s = .ok x) : x.2.storedKeys.Finite := by
  induction client generalizing s with
  | done =>
    cases hrun
    exact h
  | panic => cases hrun
  | request r rest ih =>
    obtain ⟨y, hfirst, hrest⟩ := bind_eq_ok_iff.mp hrun
    exact ih y.1 (r.storedKeys_finite h hfirst) hrest

/-! ### Restores -/

/-- Entries restored one after the other. -/
def restoreAll (net : Network) (now : ℕ) (keys : List DataKey) (h : HostStorage) : HostStorage :=
  keys.foldl (fun h key ↦ restored net now key h) h

section Restores

variable {net : Network} {now : ℕ} {h : HostStorage} {key : DataKey} {keys : List DataKey}

theorem restoreAll_view (net : Network) (now : ℕ) (keys : List DataKey) (h : HostStorage) :
    (restoreAll net now keys h).view now = h.view now ∧ ∀ horizon,
      ExpiringStore.Prolongs horizon h.persistent (restoreAll net now keys h).persistent := by
  induction keys generalizing h with
  | nil => exact ⟨rfl, fun horizon ↦ .refl horizon _⟩
  | cons key rest ih =>
    obtain ⟨hview, hprolongs⟩ := restored_view net now key h
    obtain ⟨hview', hprolongs'⟩ := ih (restored net now key h)
    exact ⟨hview'.trans hview, fun horizon ↦ (hprolongs horizon).trans (hprolongs' horizon)⟩

theorem alive_restored : AliveTo now key (restored net now key h) := by
  intro entry hentry
  unfold restored at hentry
  cases hold : h.persistent key with
  | none =>
    rw [hold] at hentry
    cases hold.symm.trans hentry
  | some old =>
    rw [hold] at hentry
    dsimp only at hentry
    split_ifs at hentry with hlive
    · obtain rfl : old = entry := Option.some.inj (hold.symm.trans hentry)
      exact hlive
    · dsimp only at hentry
      rw [Function.update_self, Option.some.injEq] at hentry
      subst hentry
      exact net.le_restored now

theorem alive_restoreAll (hkey : key ∈ keys) : AliveTo now key (restoreAll net now keys h) := by
  induction keys generalizing h with
  | nil => exact absurd hkey List.not_mem_nil
  | cons first rest ih =>
    rcases List.mem_cons.mp hkey with rfl | hkey
    · exact alive_restored.of_prolongs le_rfl
        ((restoreAll_view net now rest (restored net now key h)).2 now)
    · exact ih hkey

/-- Of finitely many entries, all can be restored. -/
theorem exists_restoreAll_alive (net : Network) (hstored : (h.view now).storedKeys.Finite) :
    ∃ keys, ∀ key, AliveTo now key (restoreAll net now keys h) := by
  refine ⟨.reentrancyLock :: hstored.toFinset.toList, fun key ↦ ?_⟩
  by_cases hkey : key ∈ .reentrancyLock :: hstored.toFinset.toList
  · exact alive_restoreAll hkey
  · intro entry hentry
    simp only [List.mem_cons, Finset.mem_toList, Set.Finite.mem_toFinset, not_or] at hkey
    rcases ((restoreAll_view net now _ h).2 now).created hentry with hlive | ⟨old, hold, -⟩
    · exact hlive
    · -- what is restored was stored before
      refine absurd ?_ hkey.2
      rw [Storage.storedKeys, Set.mem_ofPred_eq, HostStorage.entry_view hkey.1,
        ExpiringStore.valueAt, hold]
      exact Option.some_ne_none _

end Restores

/-! ### Repair -/

section Repair

variable {net : Network} {contract : Address} {overflowChecks : Bool} {start : ℕ}
  {ledger : Ledger Address Address} {wasmHash : BitVec 256} {s : ContractState}
  {history : List (Receipt ContractEvent ContractState)}

theorem execAll_restore (keys : List DataKey) (s : ContractState) :
    (contractLedger net contract overflowChecks).execAll (keys.map .restore) s =
      .ok { s with storage := restoreAll net s.now keys s.storage } := by
  induction keys generalizing s with
  | nil => rfl
  | cons key rest ih => exact ih { s with storage := restored net s.now key s.storage }

/-- The contract has stored finitely many entries. -/
theorem ContractRun.storedKeys_finite
    (run : ContractRun net contract overflowChecks start ledger wasmHash history s) :
    s.world.storage.storedKeys.Finite := by
  obtain ⟨entries, hentries⟩ := ledgerRun_of_run run
  -- what there is to see of the entries is a run of the storage
  obtain ⟨-, seen, hseen, -⟩ := Run.project (fun _ ↦ True) LedgerState.view trivial
    (fun _ _ _ _ hexec ↦ ⟨trivial, showing_of_exec hexec⟩) hentries
  refine hseen.state_invariant (I := fun s ↦ s.storedKeys.Finite) ?_ ?_
  · exact Set.finite_empty.subset fun key hkey ↦ hkey (by cases key <;> rfl)
  · intro label before after hbefore hexec
    cases label with
    | transact client =>
      obtain ⟨x, hrun, hx⟩ := bind_eq_ok_iff.mp hexec
      cases hx
      exact client.storedKeys_finite hbefore hrun
    | unlock =>
      cases hexec
      exact (Storage.storedKeys_lock false).symm ▸ hbefore

/-- Where no entry is archived, an action does what it does in the model. -/
theorem exec_of_alive (hlock : s.world.storage.reentrancyLock = false)
    (halive : ∀ key, AliveTo s.now key s.storage) {event : ContractEvent} {action : Action}
    (haction : event.action s.now = some action) :
    ((contractLedger net contract overflowChecks).exec event s).map ContractState.world =
      ((chain (standardHost contract overflowChecks)).exec action s.world).mapError .contract := by
  cases hexec : (contractLedger net contract overflowChecks).exec event s with
  | ok next =>
    have hmodel := model_of_exec hlock hexec
    rw [haction] at hmodel
    dsimp only at hmodel
    rw [hmodel]
    rfl
  | error fault =>
    rcases failed_of_exec haction hexec with ⟨-, key, entry, hentry, hended⟩ |
      ⟨failure, rfl, hmodel⟩
    · exact absurd (halive key entry hentry) (not_le.mpr hended)
    · rw [hmodel]
      rfl

/-- Some restores leave no entry archived and show nothing new. -/
theorem ContractRun.exists_restoreAll
    (run : ContractRun net contract overflowChecks start ledger wasmHash history s) :
    ∃ keys, (∀ key, AliveTo s.now key (restoreAll net s.now keys s.storage)) ∧
      ContractState.world { s with storage := restoreAll net s.now keys s.storage } = s.world := by
  obtain ⟨keys, halive⟩ := exists_restoreAll_alive net run.storedKeys_finite
  exact ⟨keys, halive, congrArg s.outside.world (restoreAll_view net s.now keys s.storage).1⟩

/-- In every state that the ledger reaches there are restores of storage entries that show nothing
new, and after which every call and every transfer does what it does in the model. -/
theorem archival_repaired
    (run : ContractRun net contract overflowChecks start ledger wasmHash history s) :
    ∃ (keys : List DataKey) (repaired : ContractState),
      (contractLedger net contract overflowChecks).execAll (keys.map .restore) s =
        .ok repaired ∧
      repaired.now = s.now ∧ repaired.world = s.world ∧
      ∀ event action, event.action s.now = some action →
        ((contractLedger net contract overflowChecks).exec event repaired).map
            ContractState.world =
          ((chain (standardHost contract overflowChecks)).exec action s.world).mapError
            .contract := by
  obtain ⟨keys, halive, hworld⟩ := run.exists_restoreAll
  refine ⟨keys, { s with storage := restoreAll net s.now keys s.storage },
    execAll_restore keys s, rfl, hworld, fun event action haction ↦ ?_⟩
  rw [← hworld]
  refine exec_of_alive ?_ halive haction
  rw [hworld]
  exact run.campaignRun.sound.lock_free

end Repair

/-- Restores let a neglected campaign take the donation. -/
theorem archival_repaired_neglected : ∃ (keys : List DataKey) (repaired next : ContractState),
    (contractLedger Sample.network Sample.contract true).execAll (keys.map .restore)
        (Sample.contractState Sample.neglected) = .ok repaired ∧
      (contractLedger Sample.network Sample.contract true).exec Sample.given repaired =
        .ok next := by
  obtain ⟨w, hw⟩ := isOk_iff.mp Sample.givenLate_isOk
  obtain ⟨keys, repaired, hrepaired, -, -, hsame⟩ :=
    archival_repaired (Sample.contractRun Sample.neglected)
  have hserved := hsame Sample.given Sample.givenLate Sample.action_given
  rw [hw] at hserved
  obtain ⟨next, hnext, -⟩ := map_eq_ok_iff.mp hserved
  exact ⟨keys, repaired, next, hrepaired, hnext⟩

/-! ### Every run of the model -/

/-- The event that an action is. -/
def Action.event : Action → ContractEvent
  | .invoke inv => .invoke inv.timestamp inv.authorisers inv.call
  | .transfer token source target amount => .transfer token source target amount

/-- The sequences of the ledger that a history has invocations at, newest first. -/
def sequences (history : List (Receipt Action World)) : List ℕ :=
  history.filterMap fun r ↦
    match r.label with
    | .invoke inv => some inv.sequence
    | .transfer .. => none

/-- The sequences of a history never decrease from the start on. -/
def InSequence (start : ℕ) (history : List (Receipt Action World)) : Prop :=
  (sequences history ++ [start]).Pairwise fun later earlier ↦ earlier ≤ later

section Traces

variable {net : Network} {contract : Address} {overflowChecks : Bool} {start : ℕ}
  {ledger : Ledger Address Address} {wasmHash : BitVec 256} {s : ContractState}
  {history : List (Receipt ContractEvent ContractState)}

/-- The ledger goes through its invocations in order. -/
theorem ContractRun.inSequence
    (run : ContractRun net contract overflowChecks start ledger wasmHash history s) :
    InSequence start (history.flatMap modelReceipts) ∧
      ∀ n ∈ sequences (history.flatMap modelReceipts) ++ [start], n ≤ s.now := by
  induction run with
  | start => exact ⟨List.pairwise_singleton _ _, by simp [sequences, ContractState.deployed]⟩
  | reject _ _ ih => exact ih
  | @accept earlier before after event prior hexec ih =>
    obtain ⟨horder, hbound⟩ := ih
    cases event with
    | advance ledgers =>
      cases hexec
      exact ⟨horder, fun n hn ↦ (hbound n hn).trans (Nat.le_add_right ..)⟩
    | restore key =>
      cases hexec
      exact ⟨horder, hbound⟩
    | read reading =>
      obtain ⟨x, -, rfl⟩ := exec_read_eq_ok_iff.mp hexec
      exact ⟨horder, hbound⟩
    | transfer token source target amount =>
      simp only [contractLedger, bind_eq_ok_iff, pure_eq_ok_iff] at hexec
      obtain ⟨_, -, _, -, rfl⟩ := hexec
      exact ⟨horder, hbound⟩
    | invoke timestamp authorisers call =>
      obtain ⟨-, outside, storage, -, rfl⟩ := invokeOnHost_eq_ok_iff.mp hexec
      exact ⟨List.pairwise_cons.mpr ⟨hbound, horder⟩,
        List.forall_mem_cons.mpr ⟨le_rfl, hbound⟩⟩

/-- Restores are nothing to the model. -/
theorem exists_restore_run (keys : List DataKey) (s : ContractState) :
    ∃ receipts, Run (contractLedger net contract overflowChecks) s receipts
        { s with storage := restoreAll net s.now keys s.storage } ∧
      receipts.flatMap modelReceipts = [] := by
  induction keys generalizing s with
  | nil => exact ⟨[], .start, rfl⟩
  | cons key rest ih =>
    obtain ⟨receipts, hrun, hnothing⟩ := ih { s with storage := restored net s.now key s.storage }
    have hstep : (contractLedger net contract overflowChecks).exec (.restore key) s =
      .ok { s with storage := restored net s.now key s.storage } := rfl
    refine ⟨_, (Run.start.accept hstep).append hrun, ?_⟩
    rw [List.flatMap_append, hnothing]
    rfl

theorem now_of_exec {event : ContractEvent} {action : Action} {next : ContractState}
    (haction : event.action s.now = some action)
    (hexec : (contractLedger net contract overflowChecks).exec event s = .ok next) :
    next.now = s.now := by
  cases event with
  | advance | read | restore => cases haction
  | invoke timestamp authorisers call =>
    obtain ⟨-, outside, storage, -, rfl⟩ := invokeOnHost_eq_ok_iff.mp hexec
    rfl
  | transfer token source target amount =>
    simp only [contractLedger, bind_eq_ok_iff, pure_eq_ok_iff] at hexec
    obtain ⟨_, -, _, -, rfl⟩ := hexec
    rfl

/-- The ledger makes a step of the model at a later sequence: it advances, what is archived is
restored, and the event is served. -/
theorem ContractRun.exists_step {w next : World} {action : Action} {later : ℕ}
    (run : ContractRun net contract overflowChecks start ledger wasmHash history s)
    (hworld : s.world = w) (hlater : s.now ≤ later)
    (haction : action.event.action later = some action)
    (hstep : (chain (standardHost contract overflowChecks)).exec action w = .ok next) :
    ∃ receipts after, ContractRun net contract overflowChecks start ledger wasmHash receipts
        after ∧
      receipts.flatMap modelReceipts = ⟨action, w, next⟩ :: history.flatMap modelReceipts ∧
      after.world = next ∧ after.now = later := by
  have hadvance : (contractLedger net contract overflowChecks).exec (.advance (later - s.now)) s =
      .ok { s with now := later } := by
    change Except.ok { s with now := s.now + (later - s.now) } = _
    rw [Nat.add_sub_cancel' hlater]
  have hadvanced := Run.accept run hadvance
  have hseen : ContractState.world { s with now := later } = w :=
    (model_of_exec run.campaignRun.sound.lock_free hadvance).trans hworld
  obtain ⟨keys, halive, hshown⟩ := ContractRun.exists_restoreAll hadvanced
  obtain ⟨restores, hrestores, hnothing⟩ := exists_restore_run keys { s with now := later }
  have hrestored := Run.append hadvanced hrestores
  have hserved : ((contractLedger net contract overflowChecks).exec action.event _).map
      ContractState.world = _ :=
    exec_of_alive (ContractRun.campaignRun hrestored).sound.lock_free halive haction
  rw [hshown, hseen, hstep] at hserved
  obtain ⟨after, hexec, hafter⟩ := map_eq_ok_iff.mp hserved
  refine ⟨_, after, Run.accept hrestored hexec, ?_, hafter, now_of_exec haction hexec⟩
  rw [List.flatMap_cons, List.flatMap_append, hnothing, List.flatMap_cons, modelReceipts]
  dsimp only
  rw [haction, hshown, hseen, hafter]
  rfl

/-- The runs of the model whose invocations are in the order of the ledger are what there is to see
of runs on the ledger: archived entries delay calls and change nothing that succeeds. -/
theorem traces_on_ledger {seen : List (Receipt Action World)} {w : World} :
    CampaignRun contract overflowChecks ledger wasmHash seen w ∧ InSequence start seen ↔
      ∃ history s, ContractRun net contract overflowChecks start ledger wasmHash history s ∧
        history.flatMap modelReceipts = seen ∧ s.world = w := by
  constructor
  · rintro ⟨run, horder⟩
    -- the ledger is where the last invocation was
    suffices hsteps : ∃ history s, ContractRun net contract overflowChecks start ledger wasmHash
        history s ∧ history.flatMap modelReceipts = seen ∧ s.world = w ∧
          s.now ∈ sequences seen ++ [start] by
      obtain ⟨history, s, hrun, hseen, hworld, -⟩ := hsteps
      exact ⟨history, s, hrun, hseen, hworld⟩
    induction run with
    | start => exact ⟨[], .deployed start ledger wasmHash, .start, rfl, rfl, List.mem_cons_self⟩
    | reject _ _ ih => exact ih horder
    | @accept earlier before after action prior hstep ih =>
      cases action with
      | transfer token source target amount =>
        obtain ⟨history, s, hrun, hseen, hworld, hnow⟩ := ih horder
        obtain ⟨receipts, next, hnext, hreceipts, hafter, hsame⟩ :=
          hrun.exists_step hworld le_rfl rfl hstep
        exact ⟨receipts, next, hnext, hseen ▸ hreceipts, hafter, hsame ▸ hnow⟩
      | invoke inv =>
        obtain ⟨hbound, hrest⟩ := List.pairwise_cons.mp horder
        obtain ⟨history, s, hrun, hseen, hworld, hnow⟩ := ih hrest
        obtain ⟨receipts, next, hnext, hreceipts, hafter, hlater⟩ :=
          hrun.exists_step hworld (hbound _ hnow) rfl hstep
        exact ⟨receipts, next, hnext, hseen ▸ hreceipts, hafter,
          hlater ▸ List.mem_cons_self⟩
  · rintro ⟨history, s, run, rfl, rfl⟩
    exact ⟨run.campaignRun, run.inSequence.1⟩

end Traces

namespace Sample

/-- A campaign is opened, and gets a donation 60 days and a ledger later. -/
def belated : List Action :=
  [opening [⟨"USDC", some token⟩] [milestone 1000] 1000,
    .invoke ⟨30, 1036803, [donor], .donate donor 400 (.stellar token)⟩]

end Sample

/-- Some run on the ledger makes both calls, although the donation is too late for the entries. -/
theorem traces_on_ledger_belated : ∃ history s,
    ContractRun Sample.network Sample.contract true 2 Sample.ledger 0 history s ∧
      (history.flatMap modelReceipts).length = 2 := by
  obtain ⟨history, s, run, hseen, -⟩ := traces_on_ledger.mp
    ⟨Sample.run Sample.belated, show InSequence 2 (Sample.history Sample.belated) by
      unfold InSequence
      decide +kernel⟩
  refine ⟨history, s, run, ?_⟩
  rw [hseen]
  decide +kernel

end OrbitChain.Campaign
