import OrbitChain.Platform.Projection
import OrbitChain.Campaign.EventLog
import OrbitChain.Campaign.RefundBound

/-!
# What the platform reports is what the campaigns record

A donor or an operator knows of the campaigns what transactions tell: that a donation succeeded, or
which targets of a batch did. `batch_reports_recorded` says that these reports are all there is: at
any moment of any run of the platform, a donor's record in a campaign is the sum of the amounts that
were reported as given to it in the donor's name, directly and in batches of both modes, and the
amount raised is the sum over all donors.
-/

set_option autoImplicit false
set_option relaxedAutoImplicit false

namespace OrbitChain.Campaign

open Foundations

/-- What an action gave in the name of some donors. -/
def givenBy (p : Address → Prop) [DecidablePred p] (r : Receipt Action World) : ℤ :=
  match r.label with
  | .invoke ⟨_, _, _, .donate donor amount _⟩ => if p donor then amount else 0
  | _ => 0

section Steps

variable {p : Address → Prop} [DecidablePred p]

theorem givenBy_of_donate {inv : Invocation} {donor : Address} {amount : ℤ} {asset : AssetInfo}
    {w next : World} (h : inv.call = .donate donor amount asset) :
    givenBy p ⟨.invoke inv, w, next⟩ = if p donor then amount else 0 := by
  obtain ⟨timestamp, sequence, authorisers, call⟩ := inv
  obtain rfl : call = _ := h
  rfl

theorem givenBy_of_other {action : Action} {w next : World}
    (h : action.invokes Call.isDonation = false) : givenBy p ⟨action, w, next⟩ = 0 := by
  cases action with
  | transfer token source target amount => rfl
  | invoke inv =>
    obtain ⟨timestamp, sequence, authorisers, call⟩ := inv
    cases call with
    | donate donor amount asset => exact absurd h.symm Bool.false_ne_true
    | _ => rfl

/-- The records of a campaign add up what was given to it. -/
def Records (s : Storage) (seen : List (Receipt Action World)) : Prop :=
  (∀ donor, s.totalDonated donor = (seen.map (givenBy (· = donor))).sum) ∧
    s.raisedAmount = (seen.map (givenBy fun _ ↦ True)).sum

/-- A donation is recorded for its donor and raised. -/
theorem Records.of_donated {env : Env} {donor : Address} {amount : ℤ} {asset : AssetInfo}
    {w next : World} {campaign : CampaignData} {token : Address} {inv : Invocation} {after : World}
    {seen : List (Receipt Action World)} (h : Records w.storage seen)
    (hcall : inv.call = .donate donor amount asset)
    (hdonated : CampaignContract.Donated env donor amount asset w next campaign token) :
    Records next.storage (⟨.invoke inv, w, after⟩ :: seen) := by
  obtain ⟨record, hrecord, hdonors⟩ := hdonated.donorData
  have htotal := (DonorRecord.applyDonation_ok hrecord).1
  constructor
  · intro other
    rw [List.map_cons, List.sum_cons, givenBy_of_donate hcall, ← h.1 other, Storage.totalDonated,
      hdonors]
    by_cases hother : other = donor
    · subst hother
      rw [Function.update_self, if_pos rfl, Option.map_some, Option.getD_some, htotal,
        Storage.totalDonated, add_comm]
      cases w.storage.donorData other <;> rfl
    · rw [Function.update_of_ne hother, if_neg (Ne.symm hother), zero_add]
      rfl
  · rw [List.map_cons, List.sum_cons, givenBy_of_donate hcall, if_pos trivial, ← h.2,
      Storage.raisedAmount, Storage.raisedAmount, hdonated.campaignData, hdonated.found, add_comm]
    rfl

/-- What gives to a campaign is a donation. -/
theorem Step.donated_of_isDonation {host : Host} {action : Action} {w next : World}
    (h : Step host action w next) (hdonation : action.invokes Call.isDonation = true) :
    ∃ inv donor amount asset campaign token, action = .invoke inv ∧
      inv.call = .donate donor amount asset ∧
      CampaignContract.Donated (inv.env host) donor amount asset w next campaign token := by
  cases action with
  | transfer => exact absurd hdonation Bool.false_ne_true
  | invoke inv =>
    cases hcall : inv.call with
    | donate donor amount asset =>
      obtain ⟨campaign, token, hdonated⟩ := h.of_donate hcall
      exact ⟨inv, donor, amount, asset, campaign, token, rfl, hcall, hdonated⟩
    | _ =>
      rw [Action.invokes, hcall] at hdonation
      exact absurd hdonation Bool.false_ne_true

/-- Only donations change what is recorded of donors. -/
theorem Step.totalDonated_eq {host : Host} {action : Action} {w next : World}
    (h : Step host action w next) (hother : action.invokes Call.isDonation = false)
    (donor : Address) : next.storage.totalDonated donor = w.storage.totalDonated donor := by
  cases hrefund : action.invokes Call.isRefund with
  | false => rw [Storage.totalDonated, h.donorData_eq hother hrefund, Storage.totalDonated]
  | true =>
    obtain ⟨inv, claimant, campaign, record, numerator, -, -, hclaimed⟩ :=
      h.claimed_of_isRefund hrefund
    obtain ⟨report, -, hstorage⟩ := hclaimed.storage
    have hdonors : next.storage.donorData = Function.update w.storage.donorData claimant
        (some { record with refundClaimed := true }) := by rw [hstorage]
    rw [Storage.totalDonated, Storage.totalDonated, hdonors]
    by_cases hd : donor = claimant
    · rw [hd, Function.update_self, hclaimed.donor_found]
      rfl
    · rw [Function.update_of_ne hd]

theorem Records.of_other {host : Host} {action : Action} {w next : World}
    {seen : List (Receipt Action World)} (h : Records w.storage seen)
    (hstep : Step host action w next) (hw : Sound w.storage)
    (hother : action.invokes Call.isDonation = false) :
    Records next.storage (⟨action, w, next⟩ :: seen) := by
  constructor
  · intro donor
    rw [List.map_cons, List.sum_cons, givenBy_of_other hother, zero_add, ← h.1 donor]
    exact hstep.totalDonated_eq hother donor
  · rw [List.map_cons, List.sum_cons, givenBy_of_other hother, zero_add, ← h.2]
    rw [hstep.raisedAmount_eq hw, (donation_of_quiet hother).1, add_zero]

end Steps

end OrbitChain.Campaign

namespace OrbitChain.Platform

open Foundations Campaign
open OrbitChain.BatchDonor (DonateTarget BatchDonateResult accepting report reports)

variable {d : Deployment} {p : Address → Prop} [DecidablePred p]

/-! ### What one campaign records -/

section Local

variable {c : Address} {w next : World} {seen : List (Receipt Action World)}

/-- A step of a campaign's chain, paired or not, keeps the campaign sound. -/
theorem sound_of_exec {action : Action} (hw : Sound w.storage)
    (h : (d.system c).exec action w = .ok next) : Sound next.storage := by
  unfold Deployment.system at h
  split_ifs at h with hsettled
  · cases settledStep_of_exec hw.untouched h with
    | donated _ hexec _ _ hstorage =>
      rw [hstorage]
      exact (step_of_exec hw.untouched hexec).sound hw
    | other _ hstep => exact hstep.sound hw
  · exact (step_of_exec hw.untouched h).sound hw

/-- A step of a campaign's chain, paired or not, keeps the records. -/
theorem records_of_exec {action : Action} (hw : Sound w.storage)
    (hrecords : Records w.storage seen) (h : (d.system c).exec action w = .ok next) :
    Records next.storage (⟨action, w, next⟩ :: seen) := by
  have hbare (hstep : Step (standardHost c d.overflowChecks) action w next) :
      Records next.storage (⟨action, w, next⟩ :: seen) := by
    cases hdonation : action.invokes Call.isDonation with
    | false => exact hrecords.of_other hstep hw hdonation
    | true =>
      obtain ⟨inv, donor, amount, asset, campaign, token, rfl, hcall, hdonated⟩ :=
        hstep.donated_of_isDonation hdonation
      exact hrecords.of_donated hcall hdonated
  unfold Deployment.system at h
  split_ifs at h with hsettled
  · cases settledStep_of_exec hw.untouched h with
    | donated hcall _ hdonated _ hstorage =>
      rw [hstorage]
      exact hrecords.of_donated hcall hdonated
    | other _ hstep => exact hbare hstep
  · exact hbare (step_of_exec hw.untouched h)

/-- Over a run of its chain, a campaign records what was given to it. -/
theorem records_of_run {ledger : Ledger Address Address} {wasmHash : BitVec 256}
    (run : Run (d.system c) (.deployed ledger wasmHash) seen w) : Records w.storage seen := by
  refine (run.invariant (I := fun seen w ↦ Sound w.storage ∧ Records w.storage seen)
    ⟨.inl rfl, fun _ ↦ rfl, rfl⟩ ?_).2
  rintro seen w action next - ⟨hw, hrecords⟩ hexec
  exact ⟨sound_of_exec hw hexec, records_of_exec hw hrecords hexec⟩

end Local

/-- Only what was done to the campaign itself gives to it. -/
theorem sum_givenBy_filter (seen : List (Receipt Action World)) :
    ((seen.filter isOwn).map (givenBy p)).sum = (seen.map (givenBy p)).sum := by
  induction seen with
  | nil => rfl
  | cons r rest ih =>
    rw [List.filter_cons]
    split_ifs with hown
    · rw [List.map_cons, List.map_cons, List.sum_cons, List.sum_cons, ih]
    · obtain ⟨label, before, after⟩ := r
      cases label with
      | transfer => rw [List.map_cons, List.sum_cons, givenBy_of_other rfl, zero_add, ih]
      | invoke => exact absurd rfl hown

/-! ### What transactions report -/

/-- The sum of a list of lists is the sum of their sums. -/
theorem sum_flatMap {ι : Type} (l : List ι) (f : ι → List ℤ) :
    (l.flatMap f).sum = (l.map fun x ↦ (f x).sum).sum := by
  rw [List.flatMap_def, List.sum_flatten, List.map_map]
  rfl

/-- What the results of a batch tell of gifts to a campaign. -/
def reportedBy (c : Address) (p : Address → Prop) [DecidablePred p]
    (x : DonateTarget × BatchDonateResult) : ℤ :=
  if x.2.outcome = .success ∧ x.1.campaign = c ∧ p x.1.donor then x.1.amount else 0

/-- What a batch tells of gifts to a campaign: the results it returned for its targets. -/
def Deployment.batchReported (d : Deployment) (c : Address) (p : Address → Prop) [DecidablePred p]
    (call : BatchCall) (s : State) : ℤ :=
  match d.batch call s with
  | .ok (results, _) => ((call.targets.zip results).map (reportedBy c p)).sum
  | .error _ => 0

/-- What a transaction tells of gifts to a campaign: that a donation succeeded, or the results of a
batch. -/
def Deployment.reported (d : Deployment) (c : Address) (p : Address → Prop) [DecidablePred p]
    (r : Receipt Transaction State) : ℤ :=
  match r.label with
  | .invoke contract ⟨_, _, _, .donate donor amount _⟩ =>
    if contract = c ∧ p donor then amount else 0
  | .batch call => d.batchReported c p call r.before
  | _ => 0

/-- The gift of a target, to those who look at one campaign. -/
def gift (c : Address) (p : Address → Prop) [DecidablePred p] (target : DonateTarget) : ℤ :=
  if target.campaign = c ∧ p target.donor then target.amount else 0

section Results

variable {campaigns : System DonateTarget State Campaign.Failure} {c : Address} {i : ℕ}
  {target : DonateTarget} {s : State}

/-- The result of a donation that takes effect tells of its gift. -/
theorem reportedBy_of_ok {next : State} (h : (accepting campaigns).exec target s = .ok next) :
    reportedBy c p (target, report campaigns i target s) = gift c p target := by
  rw [BatchDonor.report_of_effect ⟨next, h⟩]
  simp [reportedBy, gift]

/-- The result of any other donation tells of none. -/
theorem reportedBy_of_error {failure : Failure}
    (h : (accepting campaigns).exec target s = .error failure) :
    reportedBy c p (target, report campaigns i target s) = 0 := by
  refine if_neg fun htold ↦ ?_
  obtain ⟨next, hexec⟩ := BatchDonor.report_success_iff.mp htold.1
  rw [hexec] at h
  cases h

end Results

/-- The results of a batch tell of the donations that took effect in it. -/
theorem sum_reportedBy (campaigns : System DonateTarget State Campaign.Failure) (c : Address)
    (start : ℕ) (targets : List DonateTarget) (s : State) :
    ((targets.zip (((accepting campaigns).attempts targets s).mapIdx fun i a ↦
      report campaigns (start + i) a.1 a.2)).map (reportedBy c p)).sum =
        (((accepting campaigns).replay targets s).1.map fun r ↦ gift c p r.label).sum := by
  induction targets generalizing start s with
  | nil => rfl
  | cons target rest ih =>
    have htail (s : State) := ih (start + 1) s
    simp only [Nat.add_assoc, Nat.add_comm 1] at htail
    unfold System.attempts
    rw [List.mapIdx_cons, List.zip_cons_cons, List.map_cons, List.sum_cons]
    cases hexec : (accepting campaigns).exec target s with
    | ok next =>
      rw [reportedBy_of_ok hexec, htail next, System.replay_cons_of_ok _ hexec, List.map_append,
        List.sum_append, List.map_singleton, List.sum_singleton, add_comm]
    | error failure =>
      rw [reportedBy_of_error hexec, htail s, System.replay_cons_of_error _ hexec, zero_add]

/-- A donation of a batch that took effect is to a campaign the gift of its target. -/
theorem sum_givenBy_ownDonation (c : Address) (call : BatchCall)
    (r : Receipt DonateTarget State) :
    ((d.ownDonation c call r).map (givenBy p)).sum = gift c p r.label := by
  unfold Deployment.ownDonation ownInvocation gift
  by_cases hcampaign : r.label.campaign = c
  · rw [if_pos hcampaign, List.map_singleton, List.sum_singleton]
    simp [hcampaign, givenBy, Deployment.donation]
  · rw [if_neg hcampaign, if_neg fun h ↦ hcampaign h.1]
    rfl

/-- A batch tells of what it gave to a campaign. -/
theorem batchReported_eq {call : BatchCall} {s next : State} {results : List BatchDonateResult}
    (c : Address) (h : d.batch call s = .ok (results, next)) :
    d.batchReported c p call s =
      (((d.effected call s).flatMap (d.ownDonation c call)).map (givenBy p)).sum := by
  have htold := sum_reportedBy (p := p) (d.donations call) c 0 call.targets s
  simp only [Nat.zero_add] at htold
  rw [Deployment.batchReported, h]
  change ((call.targets.zip results).map (reportedBy c p)).sum = _
  rw [(Deployment.batch_eq_ok h).2, reports, htold, List.map_flatMap, sum_flatMap]
  simp only [sum_givenBy_ownDonation]
  rfl

/-- A transaction tells a donor of what it gave to a campaign. -/
theorem reported_eq {tx : Transaction} {before after : State} (c : Address)
    (h : d.platform.exec tx before = .ok after) :
    d.reported c p ⟨tx, before, after⟩ =
      ((d.ownReceipts c ⟨tx, before, after⟩).map (givenBy p)).sum := by
  cases tx with
  | transfer => rfl
  | invoke contract inv =>
    obtain ⟨timestamp, sequence, authorisers, call⟩ := inv
    change _ = ((ownInvocation c contract _ before after).map (givenBy p)).sum
    unfold ownInvocation
    by_cases hcontract : contract = c
    · rw [if_pos hcontract, List.map_singleton, List.sum_singleton]
      cases call <;> simp [Deployment.reported, givenBy, hcontract]
    · rw [if_neg hcontract]
      cases call <;> simp [Deployment.reported, hcontract]
  | batch call =>
    obtain ⟨-, results, hbatch⟩ := Deployment.exec_batch_eq_ok_iff.mp h
    exact batchReported_eq c hbatch

/-- At any moment of a run of the platform, a campaign records of each donor what was reported as
given to it in the donor's name, directly and in batches, and has raised what was reported of all
donors. -/
theorem batch_reports_recorded {ledger : Ledger Address Address}
    {wasmHash : Address → BitVec 256} {history : List (Receipt Transaction State)} {s : State}
    (run : PlatformRun d ledger wasmHash history s) {c : Address} (hc : c ∈ d.campaigns) :
    (∀ donor, (s.world c).storage.totalDonated donor =
      (history.map (d.reported c (· = donor))).sum) ∧
    (s.world c).storage.raisedAmount = (history.map (d.reported c fun _ ↦ True)).sum := by
  obtain ⟨seen, hseen, hown⟩ := run.project hc
  have htold (p : Address → Prop) [DecidablePred p] :
      (history.map (d.reported c p)).sum = (seen.map (givenBy p)).sum := by
    rw [← sum_givenBy_filter seen, hown, List.map_flatMap, sum_flatMap]
    refine congrArg List.sum (List.map_congr_left fun r hr ↦ ?_)
    exact reported_eq c (Run.fired run hr).1
  obtain ⟨hdonors, hraised⟩ := records_of_run hseen
  exact ⟨fun donor ↦ (hdonors donor).trans (htold _).symm, hraised.trans (htold _).symm⟩

/-- Both donors' gifts to the second of two campaigns are reported and recorded. -/
theorem batch_reports_recorded_twoCampaigns :
    (∀ donor, ((Sample.reached Sample.twoCampaigns).world Sample.secondContract
        ).storage.totalDonated donor =
      ((Sample.history Sample.twoCampaigns).map
        (Sample.deployment.reported Sample.secondContract (· = donor))).sum) ∧
    ((Sample.reached Sample.twoCampaigns).world Sample.secondContract).storage.raisedAmount = 70 :=
  have hrecorded := batch_reports_recorded (Sample.run Sample.twoCampaigns)
    (c := Sample.secondContract) (by decide)
  ⟨hrecorded.1, hrecorded.2.trans (by decide +kernel)⟩

end OrbitChain.Platform
