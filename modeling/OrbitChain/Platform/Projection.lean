import OrbitChain.Campaign.Custody
import OrbitChain.Platform.System

/-!
# Each campaign on the platform

What one campaign sees of the platform is a run of its own chain: its own invocations, the
donations that batches made to it, and transfers by others, among them what other campaigns pay
out (`PlatformRun.project`). So whatever holds of every run of one campaign holds of every
campaign of the platform, for all that the other campaigns and the batch donor do.
-/

set_option autoImplicit false
set_option relaxedAutoImplicit false

namespace OrbitChain.Campaign

open Foundations

/-- An invocation pays tokens out of the contract or none. -/
theorem Step.exists_payments {host : Host} {inv : Invocation} {w next : World}
    (h : Step host (.invoke inv) w next) : ∃ target payments,
      Ledger.transferAll host.contract target payments w.ledger = some next.ledger := by
  cases h with
  | initialized _ _ _ h => exact ⟨host.contract, [], by rw [h.ledger]; rfl⟩
  | donated _ _ h => exact ⟨host.contract, [], by rw [h.ledger]; rfl⟩
  | administered _ _ h => exact ⟨host.contract, [], by rw [h.ledger]; rfl⟩
  | claimed _ _ h => exact ⟨_, _, h.ledger⟩
  | released _ _ h => exact ⟨_, _, h.ledger⟩
  | multiReleased _ _ h => exact ⟨_, _, h.ledger⟩

/-- The payments of an invocation as transfers out of the contract. -/
theorem Step.exists_transferEach {host : Host} {inv : Invocation} {w next : World}
    (h : Step host (.invoke inv) w next) : ∃ moves : List (Transfer Address Address),
      (∀ move ∈ moves, move.source = host.contract) ∧
        Ledger.transferEach moves w.ledger = some next.ledger := by
  obtain ⟨target, payments, hpaid⟩ := h.exists_payments
  refine ⟨_, fun move hmove ↦ ?_, (Ledger.transferEach_payments payments w.ledger).trans hpaid⟩
  obtain ⟨_, -, rfl⟩ := List.mem_map.mp hmove
  rfl

end OrbitChain.Campaign

namespace OrbitChain.Platform

open Foundations Campaign

/-- What a contract itself did: everything but the transfers of others. -/
def isOwn (r : Receipt Action World) : Bool := !r.label.isTransfer

/-- An invocation of a contract, for the contract that is looking. -/
def ownInvocation (c contract : Address) (inv : Invocation) (before after : State) :
    List (Receipt Action World) :=
  if contract = c then [⟨.invoke inv, before.world c, after.world c⟩] else []

namespace Deployment

variable (d : Deployment)

/-- What a donation of a batch is to a campaign. -/
def ownDonation (c : Address) (call : BatchCall)
    (r : Receipt BatchDonor.DonateTarget State) : List (Receipt Action World) :=
  ownInvocation c r.label.campaign (d.donation call r.label) r.before r.after

/-- The donations of a batch that took effect, newest first. -/
def effected (call : BatchCall) (s : State) : List (Receipt BatchDonor.DonateTarget State) :=
  ((BatchDonor.accepting (d.donations call)).replay call.targets s).1

/-- What a transaction is to a campaign: the invocation, the donations to it that took effect in a
batch, or nothing. -/
def ownReceipts (c : Address) (r : Receipt Transaction State) : List (Receipt Action World) :=
  match r.label with
  | .invoke contract inv => ownInvocation c contract inv r.before r.after
  | .batch call => (d.effected call r.before).flatMap (d.ownDonation c call)
  | .transfer _ _ _ _ => []

variable {d}

/-! ### What other campaigns see of an invocation -/

section Invocations

variable {c contract : Address} {inv : Invocation} {w next : World}

/-- A successful invocation moves tokens of the contract or of those who signed. -/
theorem exists_transferEach_of_exec (huntouched : Untouched w.storage)
    (h : (d.system contract).exec (.invoke inv) w = .ok next) :
    Untouched next.storage ∧ ∃ moves : List (Transfer Address Address),
      (∀ move ∈ moves, move.source = contract ∨ move.source ∈ inv.authorisers) ∧
        Ledger.transferEach moves w.ledger = some next.ledger := by
  unfold system at h
  split_ifs at h with hsettled
  · cases settledStep_of_exec huntouched h with
    | @donated _ _ middle _ donor amount asset campaign token hcall hexec hdonated hledger
        hstorage =>
      have hmiddle := (step_of_exec huntouched hexec).untouched huntouched
      refine ⟨by rwa [hstorage], [⟨token, donor, contract, amount⟩], fun move hmove ↦ ?_, ?_⟩
      · obtain rfl := List.mem_singleton.mp hmove
        exact .inr hdonated.authorised.1
      · unfold Ledger.transferEach
        rw [Option.bind_eq_some_iff]
        exact ⟨_, hledger, rfl⟩
    | other _ hstep =>
      obtain ⟨moves, hsource, hmoves⟩ := hstep.exists_transferEach
      exact ⟨hstep.untouched huntouched, moves, fun move hmove ↦ .inl (hsource move hmove), hmoves⟩
  · have hstep := step_of_exec huntouched h
    obtain ⟨moves, hsource, hmoves⟩ := hstep.exists_transferEach
    exact ⟨hstep.untouched huntouched, moves, fun move hmove ↦ .inl (hsource move hmove), hmoves⟩

/-- Transfers are the same on both chains. -/
theorem system_transfer {token source target : Address} {amount : ℤ} :
    (d.system contract).exec (.transfer token source target amount) w =
      (chain (standardHost contract d.overflowChecks)).exec
        (.transfer token source target amount) w := by
  unfold system
  split_ifs <;> rfl

/-- A step of either chain stores nothing before initialization. -/
theorem untouched_of_exec {action : Action} (huntouched : Untouched w.storage)
    (h : (d.system contract).exec action w = .ok next) : Untouched next.storage := by
  cases action with
  | invoke inv => exact (exists_transferEach_of_exec huntouched h).1
  | transfer token source target amount =>
    rw [system_transfer] at h
    exact (step_of_exec huntouched h).untouched huntouched

/-- Both chains let others transfer their tokens. -/
theorem system_exec_transfer {token source target : Address} {amount : ℤ}
    {ledger : Ledger Address Address} (hsource : source ≠ c)
    (h : w.ledger.transfer token source target amount = some ledger) :
    (d.system c).exec (.transfer token source target amount) w =
      .ok { w with ledger := ledger } := by
  rw [system_transfer]
  simp only [chain, standardHost, sep41, bind_eq_ok_iff, orFail_eq_ok_iff, pure_eq_ok_iff]
  exact ⟨(), failIf_eq_ok_iff.mpr hsource, ledger, h, rfl⟩

/-- Transfers by others show a campaign nothing of its own. -/
theorem showing_transferEach {moves : List (Transfer Address Address)}
    {ledger : Ledger Address Address} (hsource : ∀ move ∈ moves, move.source ≠ c)
    (h : Ledger.transferEach moves w.ledger = some ledger) :
    RunShowing (d.system c) isOwn [] w { w with ledger := ledger } := by
  induction moves generalizing w with
  | nil =>
    obtain rfl : w.ledger = ledger := Option.some.inj h
    exact .refl w
  | cons move rest ih =>
    obtain ⟨middle, hfirst, hrest⟩ := Option.bind_eq_some_iff.mp h
    have hexec := system_exec_transfer (d := d) (hsource move List.mem_cons_self) hfirst
    have htail := ih (w := { w with ledger := middle })
      (fun other hother ↦ hsource other (List.mem_cons_of_mem move hother)) hrest
    exact htail.trans (.hidden hexec rfl)

end Invocations

/-- Nothing is stored in a campaign before its initialization. -/
def Fresh (s : State) : Prop := ∀ contract, Untouched (s.world contract).storage

/-- An invocation is to each campaign its own invocation or transfers by others. -/
theorem showing_invoke {c contract : Address} {inv : Invocation} {s next : State}
    (hc : c ∈ d.campaigns) (hfresh : Fresh s)
    (hsigned : ∀ address ∈ inv.authorisers, address ∉ d.campaigns)
    (h : d.invoke contract inv s = .ok next) :
    Fresh next ∧ RunShowing (d.system c) isOwn (ownInvocation c contract inv s next) (s.world c)
      (next.world c) := by
  obtain ⟨hcontract, w, hexec, rfl⟩ := invoke_eq_ok_iff.mp h
  obtain ⟨hafter, moves, hsource, hmoves⟩ :=
    exists_transferEach_of_exec (hfresh contract) hexec
  constructor
  · intro other
    by_cases hother : other = contract
    · obtain rfl := hother
      rwa [State.world_setWorld]
    · rw [State.world_setWorld_of_ne s hother]
      exact hfresh other
  · unfold ownInvocation
    split_ifs with hsame
    · obtain rfl := hsame
      rw [State.world_setWorld]
      exact .shown hexec rfl
    · rw [State.world_setWorld_of_ne s (Ne.symm hsame)]
      refine showing_transferEach (fun move hmove hfrom ↦ ?_) hmoves
      rcases hsource move hmove with hpaid | hgiven
      · exact hsame (hpaid.symm.trans hfrom)
      · exact hsigned _ hgiven (hfrom ▸ hc)

/-! ### Batches -/

/-- A batch that succeeds leaves what its donations leave, the failed ones skipped, and reports
each of them. -/
theorem batch_eq_ok {call : BatchCall} {s next : State}
    {results : List BatchDonor.BatchDonateResult} (h : d.batch call s = .ok (results, next)) :
    next = ((BatchDonor.accepting (d.donations call)).replay call.targets s).2 ∧
      results = BatchDonor.reports (d.donations call) call.targets s := by
  unfold batch at h
  split_ifs at h with hmode
  · obtain ⟨hsigned, hne, hle⟩ := BatchDonor.gate_of_batchDonateContinueOnError h
    rw [BatchDonor.batchDonateContinueOnError_eq hsigned hne hle] at h
    simp only [Except.ok.injEq, Prod.mk.injEq] at h
    exact ⟨h.2.symm, h.1.symm⟩
  · obtain ⟨hsigned, hne, hle⟩ := BatchDonor.gate_of_batchDonate h
    obtain ⟨hexec, hresults⟩ := (BatchDonor.batchDonate_eq_ok_iff hsigned hne hle).mp h
    exact ⟨((BatchDonor.accepting (d.donations call)).replay_of_execAll hexec).1.symm, hresults⟩

/-- A donation of a batch is an invocation of its campaign. -/
theorem invoke_of_accepting {call : BatchCall} {target : BatchDonor.DonateTarget}
    {s next : State}
    (h : (BatchDonor.accepting (d.donations call)).exec target s = .ok next) :
    0 < target.amount ∧ d.invoke target.campaign (d.donation call target) s = .ok next := by
  by_cases hamount : 0 < target.amount
  · rw [BatchDonor.accepting_of_pos hamount, BatchDonor.invokeCampaignDonate,
      mapError_eq_ok_iff] at h
    exact ⟨hamount, h⟩
  · rw [BatchDonor.accepting_of_nonpos (not_lt.mp hamount)] at h
    simp at h

/-- A batch is to each campaign the donations to it that took effect. -/
theorem showing_batch {c : Address} {call : BatchCall} {s next : State}
    {results : List BatchDonor.BatchDonateResult} (hc : c ∈ d.campaigns) (hfresh : Fresh s)
    (hsigned : d.Signed call.authorisers) (h : d.batch call s = .ok (results, next)) :
    Fresh next ∧ RunShowing (d.system c) isOwn
      ((d.effected call s).flatMap (d.ownDonation c call)) (s.world c) (next.world c) := by
  rw [(batch_eq_ok h).1]
  have hrun := (BatchDonor.accepting (d.donations call)).run_replay call.targets s
  refine hrun.project Fresh (fun s ↦ s.world c) hfresh ?_
  intro target before after hbefore hexec
  refine showing_invoke hc hbefore (fun address haddress ↦ ?_) (invoke_of_accepting hexec).2
  rcases List.mem_cons.mp haddress with rfl | haddress
  · exact d.batchDonor_notMem
  · exact (hsigned address haddress).1

end Deployment

/-! ### Runs of the platform -/

/-- A run of the platform from the deployment of its campaigns beside a ledger. -/
abbrev PlatformRun (d : Deployment) (ledger : Ledger Address Address)
    (wasmHash : Address → BitVec 256) : List (Receipt Transaction State) → State → Prop :=
  Run d.platform (.deployed ledger wasmHash)

variable {d : Deployment} {ledger : Ledger Address Address} {wasmHash : Address → BitVec 256}
  {history : List (Receipt Transaction State)} {s : State}

/-- A transaction is to each campaign a run of its own chain. -/
theorem showing_exec {c : Address} {tx : Transaction} {before after : State}
    (hc : c ∈ d.campaigns) (hfresh : Deployment.Fresh before)
    (h : d.platform.exec tx before = .ok after) :
    Deployment.Fresh after ∧ RunShowing (d.system c) isOwn (d.ownReceipts c ⟨tx, before, after⟩)
      (before.world c) (after.world c) := by
  cases tx with
  | invoke contract inv =>
    obtain ⟨hsigned, hinvoke⟩ := Deployment.exec_invoke_eq_ok_iff.mp h
    exact Deployment.showing_invoke hc hfresh (fun a ha ↦ (hsigned a ha).1) hinvoke
  | batch call =>
    obtain ⟨hsigned, results, hbatch⟩ := Deployment.exec_batch_eq_ok_iff.mp h
    exact Deployment.showing_batch hc hfresh hsigned hbatch
  | transfer token source target amount =>
    obtain ⟨hsource, ledger, hledger, rfl⟩ := Deployment.exec_transfer_eq_ok_iff.mp h
    refine ⟨hfresh, ?_⟩
    have hne : source ≠ c := fun hsame ↦ hsource (hsame ▸ hc)
    exact .hidden (Deployment.system_exec_transfer (w := before.world c) hne hledger) rfl

/-- What a campaign sees of a run of the platform is a run of its own chain, in which it did
exactly what the transactions of the platform had it do. -/
theorem PlatformRun.project (run : PlatformRun d ledger wasmHash history s) {c : Address}
    (hc : c ∈ d.campaigns) :
    ∃ seen, Run (d.system c) (.deployed ledger (wasmHash c)) seen (s.world c) ∧
      seen.filter isOwn = history.flatMap (d.ownReceipts c) :=
  (Run.project Deployment.Fresh (fun s ↦ s.world c) (fun _ _ ↦ rfl)
    (fun _ _ _ ↦ showing_exec hc) run).2

/-! ### What leaves a campaign -/

/-- What an action made a campaign pay to others in a token: nothing but releases and refunds
pay. -/
def paidOut (contract token : Address) (r : Receipt Action World) : ℤ :=
  paidBy Call.isRelease contract token r + paidBy Call.isRefund contract token r

theorem paidOut_of_isTransfer {contract token : Address} {r : Receipt Action World}
    (h : isOwn r = false) : paidOut contract token r = 0 := by
  obtain ⟨label, before, after⟩ := r
  cases label with
  | transfer => rfl
  | invoke => exact absurd h (Bool.false_ne_true ∘ Eq.symm)

/-- An invocation of the bare chain pays what releases and refunds pay. -/
theorem spent_of_step {host : Host} {inv : Invocation} {w next : World}
    (h : Step host (.invoke inv) w next) (t : Address) :
    next.ledger.spent t host.contract =
      w.ledger.spent t host.contract + paidOut host.contract t ⟨.invoke inv, w, next⟩ := by
  have hbalance := h.balance_eq t
  have hspent := h.balance_add_spent t
  unfold paidOut
  linarith

section Local

variable {c : Address} {w next : World}

/-- A step of a campaign's chain, paired or not, spends what it pays out and makes no tokens. -/
theorem spent_of_exec {action : Action} (huntouched : Untouched w.storage)
    (h : (d.system c).exec action w = .ok next) (t : Address) :
    next.ledger.spent t c = w.ledger.spent t c + paidOut c t ⟨action, w, next⟩ ∧
      next.ledger.supply t = w.ledger.supply t := by
  cases action with
  | transfer token source target amount =>
    rw [Deployment.system_transfer] at h
    cases step_of_exec huntouched h with
    | transferred hsource hledger _ _ =>
      rw [paidOut_of_isTransfer rfl, add_zero]
      exact ⟨(Ledger.spent_transfer_of_ne hledger hsource t).1, Ledger.supply_transfer hledger t⟩
  | invoke inv =>
    obtain ⟨-, moves, -, hmoves⟩ := Deployment.exists_transferEach_of_exec huntouched h
    refine ⟨?_, Ledger.supply_transferEach hmoves t⟩
    unfold Deployment.system at h
    split_ifs at h with hsettled
    · cases settledStep_of_exec huntouched h with
      | donated hcall hexec hdonated hledger _ =>
        have hrelease : paidBy Call.isRelease c t ⟨.invoke inv, w, next⟩ = 0 :=
          paidBy_of_other (by rw [hcall]; rfl)
        have hrefund : paidBy Call.isRefund c t ⟨.invoke inv, w, next⟩ = 0 :=
          paidBy_of_other (by rw [hcall]; rfl)
        rw [paidOut, hrelease, hrefund, add_zero, add_zero]
        exact (Ledger.spent_transfer_of_ne hledger hdonated.authorised.2 t).1
      | other _ hstep => exact spent_of_step hstep t
    · exact spent_of_step (step_of_exec huntouched h) t

/-- Over a run of a campaign's chain, what the campaign spent is what its releases and refunds
paid. -/
theorem spent_of_run {start : World} {seen : List (Receipt Action World)}
    (hstart : Untouched start.storage) (run : Run (d.system c) start seen w) (t : Address) :
    w.ledger.spent t c = start.ledger.spent t c + (seen.map (paidOut c t)).sum ∧
      w.ledger.supply t = start.ledger.supply t := by
  have hinvariant : Untouched w.storage ∧
      w.ledger.spent t c = start.ledger.spent t c + (seen.map (paidOut c t)).sum ∧
        w.ledger.supply t = start.ledger.supply t := by
    refine run.invariant (I := fun seen w ↦ Untouched w.storage ∧
      w.ledger.spent t c = start.ledger.spent t c + (seen.map (paidOut c t)).sum ∧
        w.ledger.supply t = start.ledger.supply t) ⟨hstart, by simp, rfl⟩ ?_
    rintro seen w action next - ⟨huntouched, hspent, hsupply⟩ hexec
    obtain ⟨hstep, hkept⟩ := spent_of_exec huntouched hexec t
    refine ⟨Deployment.untouched_of_exec huntouched hexec, ?_, hkept.trans hsupply⟩
    rw [hstep, hspent, List.map_cons, List.sum_cons]
    ring
  exact hinvariant.2

end Local

/-- Only what a campaign itself did counts in a sum of what it paid. -/
theorem sum_paidOut_filter (contract token : Address) (seen : List (Receipt Action World)) :
    ((seen.filter isOwn).map (paidOut contract token)).sum =
      (seen.map (paidOut contract token)).sum := by
  induction seen with
  | nil => rfl
  | cons r rest ih =>
    rw [List.filter_cons]
    split_ifs with hown
    · rw [List.map_cons, List.map_cons, List.sum_cons, List.sum_cons, ih]
    · rw [List.map_cons, List.sum_cons, paidOut_of_isTransfer (eq_false_of_ne_true hown),
        zero_add, ih]

/-- Campaigns are independent of each other: every campaign of a platform has a run of its own
chain in which it did exactly what the platform's transactions had it do; tokens leave it by its
own releases and refunds alone; and the transactions make no tokens and lose none. -/
theorem campaigns_independent (run : PlatformRun d ledger wasmHash history s) {c : Address}
    (hc : c ∈ d.campaigns) :
    (∃ seen, Run (d.system c) (.deployed ledger (wasmHash c)) seen (s.world c) ∧
      seen.filter isOwn = history.flatMap (d.ownReceipts c)) ∧
    ∀ t, s.ledger.spent t c = ledger.spent t c +
        ((history.flatMap (d.ownReceipts c)).map (paidOut c t)).sum ∧
      s.ledger.supply t = ledger.supply t := by
  obtain ⟨seen, hseen, hown⟩ := run.project hc
  refine ⟨⟨seen, hseen, hown⟩, fun t ↦ ?_⟩
  rw [← hown, sum_paidOut_filter]
  exact spent_of_run (w := s.world c) (fun _ ↦ rfl) hseen t

/-- The first of two campaigns pays out what it refunds to a donor, whatever the batch did to the
second. -/
theorem campaigns_independent_twoCampaigns :
    (∃ seen, Run (Sample.deployment.system Campaign.Sample.contract) (.deployed Sample.ledger 0)
      seen ((Sample.reached Sample.twoCampaigns).world Campaign.Sample.contract) ∧
        seen.filter isOwn = (Sample.history Sample.twoCampaigns).flatMap
          (Sample.deployment.ownReceipts Campaign.Sample.contract)) ∧
    (Sample.reached Sample.twoCampaigns).ledger.spent Campaign.Sample.token
      Campaign.Sample.contract = 100 :=
  have hindependent := campaigns_independent (Sample.run Sample.twoCampaigns)
    (c := Campaign.Sample.contract) (by decide)
  ⟨hindependent.1, (hindependent.2 Campaign.Sample.token).1.trans (by decide +kernel)⟩

end OrbitChain.Platform
