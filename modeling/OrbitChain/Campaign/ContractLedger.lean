import OrbitChain.Campaign.Entrypoints
import OrbitChain.Campaign.Reentrancy

/-!
# The contract on the ledger

The whole contract over entries that expire. The ledger closes, anyone invokes an entrypoint at the
ledger's sequence, a view among them, token holders move their tokens, and anyone restores archived
entries.

What there is to see is a run of the contract's model (`contract_on_ledger`), call for call, so
whatever holds in every run of the model holds on the ledger; a call that the model would serve
fails only where it meets an archived entry. Every successful call keeps the campaign record alive
for the bump threshold (`campaign_alive`).

The ledger is that of `Campaign.Lifetimes`: its host is assumed to fail an access to an archived
entry, and the entries of the contract's instance and code are not modelled. No entrypoint extends
these two, so a call needs them restored as well where their own lifetimes are over.
-/

set_option autoImplicit false
set_option relaxedAutoImplicit false

namespace OrbitChain.Campaign

open Foundations

/-- The sequence of the ledger, the entries of the contract, and what is beside them. -/
structure ContractState where
  now : ℕ
  storage : HostStorage
  outside : Outside

namespace ContractState

/-- What there is to see now. -/
def world (s : ContractState) : World := s.outside.world (s.storage.view s.now)

/-- A freshly deployed contract at a ledger. -/
def deployed (start : ℕ) (ledger : Ledger Address Address) (wasmHash : BitVec 256) :
    ContractState :=
  ⟨start, .empty, ⟨ledger, [], wasmHash⟩⟩

end ContractState

/-- A client that changes nothing there is to see, as the views of the contract are. -/
structure Reading where
  client : Client Unit
  reads {s : Storage} {x : Unit × Storage} (hrun : client.onStorage s = .ok x) : x.2 = s

/-- What happens on the ledger. -/
inductive ContractEvent : Type 1
  | advance (ledgers : ℕ)
  | invoke (timestamp : ℕ) (authorisers : List Address) (call : Call)
  | read (reading : Reading)
  | transfer (token source target : Address) (amount : ℤ)
  | restore (key : DataKey)

/-- The action of the model that an event is at a sequence of the ledger, if it is one. -/
def ContractEvent.action (now : ℕ) : ContractEvent → Option Action
  | .invoke timestamp authorisers call => some (.invoke ⟨timestamp, now, authorisers, call⟩)
  | .transfer token source target amount => some (.transfer token source target amount)
  | .advance _ | .read _ | .restore _ => none

/-- The program that an invocation runs. -/
def Invocation.client (inv : Invocation) (host : Host) (o : Outside) : Client (Unit × Outside) :=
  StateT.run (Entrypoint.entrypoint (inv.env host) inv.call) o

/-- An invocation on the entries of the contract. -/
def invokeOnHost (net : Network) (host : Host) (inv : Invocation) (s : ContractState) :
    Except Fault ContractState := do
  failIf (¬ inv.WellTyped) (.contract .malformed)
  let x ← (inv.client host s.outside).onHost net s.now s.storage
  pure { s with storage := x.2, outside := x.1.2 }

/-- The contract on the ledger, beside standard tokens. Failed invocations are rolled back. -/
def contractLedger (net : Network) (contract : Address) (overflowChecks : Bool) :
    System ContractEvent ContractState Fault where
  exec
    | .advance ledgers, s => .ok { s with now := s.now + ledgers }
    | .invoke timestamp authorisers call, s =>
      invokeOnHost net (standardHost contract overflowChecks)
        ⟨timestamp, s.now, authorisers, call⟩ s
    | .read reading, s => do
      let x ← reading.client.onHost net s.now s.storage
      pure { s with storage := x.2 }
    | .transfer token source target amount, s => do
      failIf (source = contract) (.contract .auth)
      let ledger ← orFail (s.outside.ledger.transfer token source target amount)
        (.contract .token)
      pure { s with outside := { s.outside with ledger := ledger } }
    | .restore key, s => .ok { s with storage := restored net s.now key s.storage }

/-- A run of the contract on the ledger from its deployment. -/
abbrev ContractRun (net : Network) (contract : Address) (overflowChecks : Bool) (start : ℕ)
    (ledger : Ledger Address Address) (wasmHash : BitVec 256) :
    List (Receipt ContractEvent ContractState) → ContractState → Prop :=
  Run (contractLedger net contract overflowChecks) (.deployed start ledger wasmHash)

/-- What a step of the ledger is to the model. -/
def modelReceipts (r : Receipt ContractEvent ContractState) : List (Receipt Action World) :=
  ((r.label.action r.before.now).map fun action ↦ ⟨action, r.before.world, r.after.world⟩).toList

section Steps

variable {net : Network} {contract : Address} {overflowChecks : Bool} {s next : ContractState}
  {event : ContractEvent} {action : Action} {fault : Fault}

theorem invokeOnHost_eq_ok_iff {host : Host} {inv : Invocation} :
    invokeOnHost net host inv s = .ok next ↔ inv.WellTyped ∧ ∃ outside storage,
      (inv.client host s.outside).onHost net s.now s.storage = .ok (((), outside), storage) ∧
        next = { s with storage := storage, outside := outside } := by
  simp only [invokeOnHost, bind_eq_ok_iff, failIf_eq_ok_iff, not_not, pure_eq_ok_iff]
  constructor
  · rintro ⟨⟨⟩, htyped, ⟨⟨⟨⟩, outside⟩, storage⟩, hrun, rfl⟩
    exact ⟨htyped, outside, storage, hrun, rfl⟩
  · rintro ⟨htyped, outside, storage, hrun, rfl⟩
    exact ⟨(), htyped, _, hrun, rfl⟩

theorem exec_read_eq_ok_iff {reading : Reading} :
    (contractLedger net contract overflowChecks).exec (.read reading) s = .ok next ↔
      ∃ x, reading.client.onHost net s.now s.storage = .ok x ∧
        { s with storage := x.2 } = next := by
  simp only [contractLedger, bind_eq_ok_iff, pure_eq_ok_iff]

/-- On what there is to see, the program of an invocation is the invocation of the model. -/
theorem onStorage_client (contract : Address) (overflowChecks : Bool) (inv : Invocation)
    (s : ContractState) :
    ((inv.client (standardHost contract overflowChecks) s.outside).onStorage
        (s.storage.view s.now) >>= fun x ↦ pure (x.1.2.world x.2)) =
      invoke (inv.env (standardHost contract overflowChecks)) inv.call s.world := by
  have hmodel : Entrypoint.onWorld (Entrypoint.entrypoint
      (inv.env (standardHost contract overflowChecks)) inv.call) s.world =
        invoke (inv.env (standardHost contract overflowChecks)) inv.call s.world >>=
          fun next ↦ pure ((), next) := Entrypoint.onWorld_entrypoint s.world rfl inv.call
  have hworld := congrArg (fun result ↦ result >>= fun x : Unit × World ↦ pure x.2) hmodel
  simp only [Entrypoint.onWorld, bind_assoc, pure_bind, bind_pure] at hworld
  exact hworld

/-- A successful event is a step of the model, if it is an action there, and shows nothing new
otherwise, as long as no lock is held. -/
theorem model_of_exec (hlock : s.world.storage.reentrancyLock = false)
    (hexec : (contractLedger net contract overflowChecks).exec event s = .ok next) :
    match event.action s.now with
    | some action =>
      (chain (standardHost contract overflowChecks)).exec action s.world = .ok next.world
    | none => next.world = s.world := by
  cases event with
  | advance ledgers =>
    cases hexec
    have hview : s.storage.view (s.now + ledgers) = s.storage.view s.now := by
      rcases view_advance s.storage s.now ledgers with hsame | hunlocked
      · exact hsame
      · rw [hunlocked, Storage.releaseLock]
        exact congrArg (fun lock ↦ { s.storage.view s.now with reentrancyLock := lock })
          hlock.symm
    exact congrArg s.outside.world hview
  | restore key =>
    cases hexec
    exact congrArg s.outside.world (restored_view net s.now key s.storage).1
  | read reading =>
    obtain ⟨x, hrun, rfl⟩ := exec_read_eq_ok_iff.mp hexec
    exact congrArg s.outside.world (reading.reads ((Client.agrees _).prolongs hrun).1)
  | invoke timestamp authorisers call =>
    obtain ⟨htyped, outside, storage, hrun, rfl⟩ := invokeOnHost_eq_ok_iff.mp hexec
    refine exec_invoke_eq_ok_iff.mpr ⟨htyped, ?_⟩
    rw [← onStorage_client, ((Client.agrees _).prolongs hrun).1]
    rfl
  | transfer token source target amount =>
    simp only [contractLedger, bind_eq_ok_iff, failIf_eq_ok_iff, orFail_eq_ok_iff,
      pure_eq_ok_iff] at hexec
    obtain ⟨_, hsource, ledger, htransfer, rfl⟩ := hexec
    exact bind_eq_ok_iff.mpr ⟨(), failIf_eq_ok_iff.mpr hsource,
      bind_eq_ok_iff.mpr ⟨ledger, orFail_eq_ok_iff.mpr htransfer, rfl⟩⟩

/-- An invocation that fails met an archived entry or fails in the same way in the model. -/
theorem failed_of_invokeOnHost {inv : Invocation}
    (hexec : invokeOnHost net (standardHost contract overflowChecks) inv s = .error fault) :
    (fault = .store .archived ∧
      ∃ key entry, s.storage.persistent key = some entry ∧ entry.liveUntil < s.now) ∨
    ∃ failure, fault = .contract failure ∧
      (chain (standardHost contract overflowChecks)).exec (.invoke inv) s.world =
        .error failure := by
  by_cases htyped : inv.WellTyped
  · have hchecked {ε : Type} (failure : ε) : failIf (¬ inv.WellTyped) failure = .ok () :=
      failIf_eq_ok_iff.mpr (not_not.mpr htyped)
    have hconforms : Conforms s.now s.storage _ ((inv.client (standardHost contract
      overflowChecks) s.outside).onHost net s.now s.storage) := Client.agrees _ s.storage
    unfold invokeOnHost at hexec
    rw [hchecked, ok_bind] at hexec
    revert hexec hconforms
    generalize Client.onHost net s.now _ s.storage = result
    intro hexec hconforms
    cases hconforms with
    | ok => cases hexec
    | archived hstored hended =>
      cases hexec
      exact .inl ⟨rfl, _, _, hstored, hended⟩
    | failed hknown =>
      cases hexec
      refine .inr ⟨_, rfl, ?_⟩
      have hmodel := onStorage_client contract overflowChecks inv s
      rw [hknown] at hmodel
      change (failIf (¬ inv.WellTyped) _ >>= fun _ ↦ invoke _ inv.call s.world) = _
      rw [hchecked, ok_bind, ← hmodel]
      rfl
  · unfold invokeOnHost failIf at hexec
    rw [if_pos htyped] at hexec
    cases hexec
    refine .inr ⟨_, rfl, ?_⟩
    simp only [chain, failIf, if_pos htyped]
    rfl

/-- An action that fails on the ledger met an archived entry or fails in the same way in the
model. -/
theorem failed_of_exec (haction : event.action s.now = some action)
    (hexec : (contractLedger net contract overflowChecks).exec event s = .error fault) :
    (fault = .store .archived ∧
      ∃ key entry, s.storage.persistent key = some entry ∧ entry.liveUntil < s.now) ∨
    ∃ failure, fault = .contract failure ∧
      (chain (standardHost contract overflowChecks)).exec action s.world = .error failure := by
  cases event with
  | advance | read | restore => cases haction
  | invoke timestamp authorisers call =>
    cases haction
    exact failed_of_invokeOnHost hexec
  | transfer token source target amount =>
    cases haction
    refine .inr ?_
    by_cases hsource : source = contract
    · simp only [contractLedger, failIf, if_pos hsource] at hexec
      cases hexec
      refine ⟨.auth, rfl, ?_⟩
      change (failIf (source = contract) _ >>= _) = _
      simp only [failIf, if_pos hsource]
      rfl
    · simp only [contractLedger, failIf, if_neg hsource, ok_bind] at hexec
      cases htransfer : s.outside.ledger.transfer token source target amount with
      | some ledger =>
        rw [htransfer] at hexec
        cases hexec
      | none =>
        rw [htransfer] at hexec
        cases hexec
        refine ⟨.token, rfl, ?_⟩
        change (failIf (source = contract) _ >>= fun _ ↦ orFail
          (s.outside.ledger.transfer token source target amount) _ >>= _) = _
        rw [htransfer]
        simp only [failIf, if_neg hsource]
        rfl

end Steps

/-! ### Runs -/

section Runs

variable {net : Network} {contract : Address} {overflowChecks : Bool} {start : ℕ}
  {ledger : Ledger Address Address} {wasmHash : BitVec 256} {s : ContractState}
  {history : List (Receipt ContractEvent ContractState)}

/-- What there is to see of a run on the ledger is a run of the model. -/
theorem ContractRun.campaignRun
    (run : ContractRun net contract overflowChecks start ledger wasmHash history s) :
    CampaignRun contract overflowChecks ledger wasmHash (history.flatMap modelReceipts)
      s.world := by
  induction run with
  | start => exact .start
  | reject _ _ ih => exact ih
  | @accept earlier before after event prior hexec ih =>
    have hmodel := model_of_exec ih.sound.lock_free hexec
    rw [List.flatMap_cons, modelReceipts]
    cases haction : event.action before.now with
    | none =>
      rw [haction] at hmodel
      change CampaignRun _ _ _ _ ([] ++ _) _
      rw [hmodel]
      exact ih
    | some action =>
      rw [haction] at hmodel
      exact Run.accept ih hmodel

/-- What there is to see of the contract on the ledger is a run of the model, call for call. A call
or transfer that fails met an archived entry or fails in the same way in the model. -/
theorem contract_on_ledger
    (run : ContractRun net contract overflowChecks start ledger wasmHash history s) :
    CampaignRun contract overflowChecks ledger wasmHash (history.flatMap modelReceipts) s.world ∧
    ∀ event action fault, event.action s.now = some action →
      (contractLedger net contract overflowChecks).exec event s = .error fault →
        (fault = .store .archived ∧
          ∃ key entry, s.storage.persistent key = some entry ∧ entry.liveUntil < s.now) ∨
        ∃ failure, fault = .contract failure ∧
          (chain (standardHost contract overflowChecks)).exec action s.world = .error failure :=
  ⟨run.campaignRun, fun _ _ _ ↦ failed_of_exec⟩

end Runs

namespace Sample

/-- Where events lead from the deployment at ledger 1000. -/
def contractState (events : List ContractEvent) : ContractState :=
  ((contractLedger network contract true).replay events (.deployed 1000 ledger 0)).2

theorem contractRun (events : List ContractEvent) : ContractRun network contract true 1000 ledger 0
    ((contractLedger network contract true).replay events (.deployed 1000 ledger 0)).1
    (contractState events) :=
  System.run_replay _ events _

/-- The creator opens a campaign of one milestone in one token. -/
def opened : ContractEvent :=
  .invoke 20 [creator] (.initializeCampaign creator 1000 1000 [⟨"USDC", some token⟩]
    [milestone 1000] 0)

def given : ContractEvent := .invoke 30 [donor] (.donate donor 400 (.stellar token))

/-- The view of the total. -/
def totalRaised : Reading where
  client := .request .getTotalRaised fun _ ↦ .done ()
  reads hrun := by
    cases hrun
    rfl

/-- A campaign is opened, looked at, and left alone for 60 days and one ledger. -/
def neglected : List ContractEvent := [opened, .read totalRaised, .advance 1036801]

/-- The donation to the neglected campaign, in the model. -/
def givenLate : Action := .invoke ⟨30, 1037801, [donor], .donate donor 400 (.stellar token)⟩

theorem action_given : given.action (contractState neglected).now = some givenLate := by
  have hnow : (contractState neglected).now = 1037801 := by decide +kernel
  rw [hnow]
  rfl

/-- The model takes it. -/
theorem givenLate_isOk : ((chain (standardHost contract true)).exec givenLate
    (contractState neglected).world).isOk = true := by decide +kernel

end Sample

/-- A campaign that was left alone for too long refuses a donation, which the model takes, because
an entry of it is archived. -/
theorem contract_on_ledger_neglected :
    ∃ key entry, (Sample.contractState Sample.neglected).storage.persistent key = some entry ∧
      entry.liveUntil < (Sample.contractState Sample.neglected).now := by
  have hfails : ((contractLedger Sample.network Sample.contract true).exec Sample.given
      (Sample.contractState Sample.neglected)).isOk = false := by decide +kernel
  have hknown := Sample.givenLate_isOk
  cases hexec : (contractLedger Sample.network Sample.contract true).exec Sample.given
      (Sample.contractState Sample.neglected) with
  | ok next =>
    rw [hexec] at hfails
    cases hfails
  | error fault =>
    rcases (contract_on_ledger (Sample.contractRun Sample.neglected)).2 _ _ fault
      Sample.action_given hexec with ⟨-, harchived⟩ | ⟨failure, -, hfailed⟩
    · exact harchived
    · rw [hfailed] at hknown
      cases hknown

/-! ### What every call refreshes -/

/-- Every successful run of a program requests a key. -/
def Entrypoint.Requires {α : Type} (key : DataKey) (m : Entrypoint α) : Prop :=
  ∀ o, Client.Requires key (StateT.run m o)

namespace Entrypoint.Requires

variable {α β : Type} {key : DataKey}

theorem requests {client : Client α} (hclient : Client.Requires key client) :
    Requires key (requests client) :=
  fun _ ↦ .bind_left hclient

theorem access {r : Request α} (hkey : key ∈ r.keys) : Requires key (access r) :=
  requests (.ask hkey)

theorem bind_left {m : Entrypoint α} {f : α → Entrypoint β} (hm : Requires key m) :
    Requires key (m >>= f) :=
  fun o ↦ .bind_left (hm o)

theorem bind_right {m : Entrypoint α} {f : α → Entrypoint β} (hf : ∀ a, Requires key (f a)) :
    Requires key (m >>= f) :=
  fun _ ↦ .bind_right fun x ↦ hf x.1 x.2

theorem loadCampaign : Requires .campaignData loadCampaign :=
  bind_left (access (List.mem_singleton_self _))

/-- Every entrypoint reads the campaign record. -/
theorem entrypoint (env : Env) (call : Call) : Requires .campaignData (entrypoint env call) := by
  cases call with
  | initializeCampaign =>
    exact bind_right fun _ ↦ bind_left (access (List.mem_singleton_self _))
  | donate donor amount asset =>
    exact bind_left (requests
      (CampaignContract.requires_donateClient env donor amount asset _ List.mem_cons_self))
  | claimRefund =>
    exact bind_right fun _ ↦ bind_right fun _ ↦ bind_right fun _ ↦ bind_right fun _ ↦
      bind_left loadCampaign
  | endCampaign | cancelCampaign | extendDeadline | upgrade | freeze | unfreeze | blockAsset
  | unblockAsset => exact bind_left loadCampaign
  | releaseMilestone | releaseMilestoneMultiAsset => exact bind_left (bind_left loadCampaign)
  | bumpStorage => exact requests (.bind_left (.ask (List.mem_singleton_self _)))

end Entrypoint.Requires

/-- The entries of the contract at the ledger. -/
def ContractState.entries (s : ContractState) : LedgerState := ⟨s.now, s.storage⟩

section Alive

variable {net : Network} {contract : Address} {overflowChecks : Bool} {start : ℕ}
  {ledger : Ledger Address Address} {wasmHash : BitVec 256} {s : ContractState}
  {history : List (Receipt ContractEvent ContractState)}

/-- The entries of the contract are those of a ledger that runs clients. -/
theorem ledgerRun_of_run {before : ContractState}
    (run : Run (contractLedger net contract overflowChecks) before history s) :
    ∃ entries, Run (ledgerSystem net) before.entries entries s.entries := by
  induction run with
  | start => exact ⟨[], .start⟩
  | reject _ _ ih => exact ih
  | @accept earlier state after event prior hexec ih =>
    obtain ⟨entries, hentries⟩ := ih
    cases event with
    | advance ledgers =>
      cases hexec
      have hstep : (ledgerSystem net).exec (.advance ledgers) state.entries =
        .ok ⟨state.now + ledgers, state.storage⟩ := rfl
      exact ⟨_, hentries.accept hstep⟩
    | restore key =>
      cases hexec
      have hstep : (ledgerSystem net).exec (.restore key) state.entries =
        .ok ⟨state.now, restored net state.now key state.storage⟩ := rfl
      exact ⟨_, hentries.accept hstep⟩
    | invoke timestamp authorisers call =>
      obtain ⟨-, outside, storage, hrun, rfl⟩ := invokeOnHost_eq_ok_iff.mp hexec
      have hstep : (ledgerSystem net).exec (.transact
          (Invocation.client ⟨timestamp, state.now, authorisers, call⟩
            (standardHost contract overflowChecks) state.outside >>= fun _ ↦ pure ()))
          state.entries = .ok ⟨state.now, storage⟩ := by
        refine exec_transact_eq_ok_iff.mpr ⟨storage, ?_, rfl⟩
        rw [Client.onHost_bind]
        exact bind_eq_ok_iff.mpr ⟨_, hrun, rfl⟩
      exact ⟨_, hentries.accept hstep⟩
    | read reading =>
      obtain ⟨x, hrun, rfl⟩ := exec_read_eq_ok_iff.mp hexec
      exact ⟨_, hentries.accept (exec_transact_eq_ok_iff.mpr ⟨x.2, hrun, rfl⟩)⟩
    | transfer token source target amount =>
      simp only [contractLedger, bind_eq_ok_iff, pure_eq_ok_iff] at hexec
      obtain ⟨_, -, _, -, rfl⟩ := hexec
      exact ⟨entries, hentries⟩

/-- For the bump threshold after every successful call, the campaign record is alive, and its
accessor returns on the entries of the ledger what the model sees. -/
theorem campaign_alive
    (run : ContractRun net contract overflowChecks start ledger wasmHash history s)
    {r : Receipt ContractEvent ContractState} (hr : r ∈ history) {timestamp : ℕ}
    {authorisers : List Address} {call : Call}
    (hlabel : r.label = .invoke timestamp authorisers call)
    (hnow : s.now ≤ r.before.now + persistentBumpThreshold) :
    ∃ campaign next, s.world.storage.campaignData = some campaign ∧
      Accessor.getCampaign net s.now s.storage = .ok (some campaign, next) := by
  obtain ⟨later, earlier, rfl⟩ := List.append_of_mem hr
  obtain ⟨hearlier, hfired, hlater⟩ := Run.split run
  have hprior := ContractRun.campaignRun hearlier
  have hmodel := model_of_exec hprior.sound.lock_free hfired
  rw [hlabel] at hfired hmodel
  obtain ⟨-, outside, storage, hrun, hafter⟩ := invokeOnHost_eq_ok_iff.mp hfired
  -- the record is there, and refreshed, right after the call
  have hstored := (step_of_exec hprior.untouched hmodel).campaign_isSome
  have hrefreshed := Client.refreshes _ hrun .campaignData
    (Entrypoint.Requires.entrypoint _ call _ _ _ ((Client.agrees _).prolongs hrun).1)
  obtain ⟨entries, hentries⟩ := ledgerRun_of_run hlater
  obtain ⟨-, hprolongs⟩ := prolongs_of_run hentries
  rw [hafter] at hstored hprolongs
  obtain ⟨campaign, hfound⟩ := Option.ne_none_iff_exists'.mp hstored
  obtain ⟨entry, hentry, -⟩ := Option.map_eq_some_iff.mp hfound
  -- and it stays so while the ledger goes on
  obtain ⟨last, hlast, -⟩ := hprolongs.kept hentry
  have hvalue : ExpiringStore.valueAt s.storage.persistent .campaignData = some last.value :=
    congrArg (Option.map Stored.value) hlast
  have halive : AliveTo s.now .campaignData s.storage := fun entry hentry ↦
    hnow.trans (hrefreshed.of_prolongs le_rfl hprolongs entry hentry)
  obtain ⟨next, hload⟩ := load_of_alive net .campaignData halive hvalue
  exact ⟨last.value, next, hvalue, hload⟩

end Alive

/-- A campaign left alone for the bump threshold is still read. -/
theorem campaign_alive_opened : ∃ campaign next,
    (Sample.contractState [Sample.opened, .advance 518400]).world.storage.campaignData =
        some campaign ∧
      Accessor.getCampaign Sample.network
        (Sample.contractState [Sample.opened, .advance 518400]).now
        (Sample.contractState [Sample.opened, .advance 518400]).storage =
          .ok (some campaign, next) := by
  have hopens : ((contractLedger Sample.network Sample.contract true).exec Sample.opened
      (.deployed 1000 Sample.ledger 0)).isOk = true := by decide +kernel
  obtain ⟨next, hopened⟩ := isOk_iff.mp hopens
  have hnow : (Sample.contractState [Sample.opened, .advance 518400]).now ≤
      1000 + persistentBumpThreshold := by decide +kernel
  exact campaign_alive (Sample.contractRun [Sample.opened, .advance 518400])
    (r := ⟨Sample.opened, .deployed 1000 Sample.ledger 0, next⟩)
    ((System.mem_replay_iff _).mpr ⟨List.mem_cons_self, hopened⟩) rfl hnow

end OrbitChain.Campaign
