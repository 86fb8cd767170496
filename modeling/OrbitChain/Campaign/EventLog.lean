import OrbitChain.Campaign.Counters
import OrbitChain.Campaign.StatusCoherence
import OrbitChain.Foundations.AppendedLogs

/-!
# The event log

The host keeps the events of a successful call and drops those of a failed one. Three events are
published by donations only: the donation itself, with the amount raised by it, the goal when it is
first reached, and the milestones that the donation unlocks. Every other step appends events of
other kinds (`exec_publishes`).

So the donations of a run can be read off its log, running totals included, the goal is announced
once, by the donation that brings the raised amount to it, and milestones are announced when they
leave `Locked`. What a donation raised stays raised, and after it no milestone is locked whose
target is raised, so later donations announce later milestones.
-/

set_option autoImplicit false
set_option relaxedAutoImplicit false

namespace OrbitChain.Campaign

open Foundations

namespace Event

def isDonationReceived : Event → Bool
  | .donationReceived _ _ _ _ _ => true
  | _ => false

def isGoalReached : Event → Bool
  | .campaignGoalReached _ => true
  | _ => false

/-- The running total of a donation event. -/
def raisedTotal : Event → Option ℤ
  | .donationReceived _ _ _ raisedTotal _ => some raisedTotal
  | _ => none

/-- The milestone that an event announces as unlocked. -/
def unlockedIndex : Event → Option ℕ
  | .milestoneUnlocked index _ _ => some index
  | _ => none

/-- The events of donations. -/
def isOfDonation (event : Event) : Bool :=
  event.isDonationReceived || event.isGoalReached || event.unlockedIndex.isSome

end Event

/-! ### What a step publishes -/

/-- The announcement of the goal, by the donation that raises it while the campaign is active. -/
def goalEvents (campaign : CampaignData) (raised : ℤ) : List Event :=
  if campaign.goalAmount ≤ raised ∧ campaign.status = .active then [.campaignGoalReached raised]
  else []

/-- The events that a donation publishes. -/
def donationEvents (env : Env) (campaign : CampaignData) (v : List MilestoneData)
    (donor : Address) (amount : ℤ) (asset : AssetInfo) : List Event :=
  goalEvents campaign (campaign.raisedAmount + amount) ++
    (Storage.duePairs (campaign.raisedAmount + amount) 0 v).map
      (fun x ↦ .milestoneUnlocked x.1 x.2 (campaign.raisedAmount + amount)) ++
    [.donationReceived donor amount (resolveAssetCode asset campaign)
      (campaign.raisedAmount + amount) env.timestamp]

/-- What an action appends to the log. -/
inductive Publishes (host : Host) (w : World) : Action → List Event → Prop
  | quiet {action : Action} {new : List Event}
      (donation : action.invokes Call.isDonation = false)
      (silent : ∀ event ∈ new, event.isOfDonation = false) : Publishes host w action new
  | donated {inv : Invocation} {donor : Address} {amount : ℤ} {asset : AssetInfo}
      {campaign : CampaignData} {v : List MilestoneData}
      (call : inv.call = .donate donor amount asset)
      (established : Established w.storage campaign v) :
      Publishes host w (.invoke inv)
        (donationEvents (inv.env host) campaign v donor amount asset)

section Entrypoints

variable {env : Env} {w next : World}

/-- A donation publishes these events. -/
theorem CampaignContract.donate_events {donor : Address} {amount : ℤ} {asset : AssetInfo}
    {campaign : CampaignData} {v : List MilestoneData} (hv : Established w.storage campaign v)
    (h : CampaignContract.donate env donor amount asset w = .ok next) :
    next.events = w.events ++ donationEvents env campaign v donor amount asset := by
  simp only [donate, bind_eq_ok_iff, Storage.acquireLock_eq_ok_iff, orFail_eq_ok_iff,
    assertAssetIsAccepted, failIf_eq_ok_iff, Env.requireAuth_eq_ok_iff, checkedI128_eq_some_iff,
    Storage.setTotalRaised_eq_ok_iff, Storage.incrementAssetRaised_eq_ok_iff,
    Storage.incrementDonorAssetDonation_eq_ok_iff, pure_eq_ok_iff] at h
  obtain ⟨s₀, ⟨-, rfl⟩, found, hfound, _, -, _, -, _, -, _, -, _, -, raised, ⟨-, rfl⟩, total,
    ⟨-, rfl⟩, s₁, ⟨-, rfl⟩, token, -, _, -, s₂, ⟨-, -, -, rfl⟩, s₃, ⟨-, rfl⟩, record, -, s₄,
    hcount, s₅, -, rfl⟩ := h
  obtain ⟨-, rfl⟩ := countDonation_eq_ok_iff.mp hcount
  obtain rfl := hv.campaign_eq hfound
  have hburst : ∀ s : Storage, s.milestonesVec = w.storage.milestonesVec →
      s.milestoneData = w.storage.milestoneData → ∀ raised,
        (s.unlockMilestonesBatch raised).2 = Storage.duePairs raised 0 v := by
    intro s hvec hentries raised
    apply Storage.unlockMilestonesBatch_snd _ (hv.bounded.trans (by decide)) hv.schedule.ascending
    exact .inl ⟨hvec.trans hv.vec, fun i _ ↦ (congrFun hentries i).trans (hv.sparse i)⟩
  rw [hburst]
  all_goals rfl

/-- A step appended events, none of which is of a donation. -/
def PublishesQuietly (w next : World) : Prop :=
  ∃ new, next.events = w.events ++ new ∧ ∀ event ∈ new, event.isOfDonation = false

theorem publishesQuietly_of_one {event : Event} (h : next.events = w.events ++ [event])
    (hevent : event.isOfDonation = false) : PublishesQuietly w next := by
  refine ⟨[event], h, fun other hother ↦ ?_⟩
  rwa [List.mem_singleton.mp hother]

namespace CampaignContract

theorem conclude_quiet {status : CampaignStatus} {event : Address → Event}
    (hevent : ∀ creator, (event creator).isOfDonation = false)
    (h : conclude env status event w = .ok next) : PublishesQuietly w next := by
  simp only [conclude, bind_eq_ok_iff, orFail_eq_ok_iff] at h
  obtain ⟨campaign, -, _, -, _, -, _, -, h⟩ := h
  obtain ⟨report, rfl⟩ := withReport_ok rfl h
  exact publishesQuietly_of_one rfl (hevent campaign.creator)

theorem administer_quiet {write : Storage → Storage} {event : Address → Event}
    (hevent : ∀ creator, (event creator).isOfDonation = false)
    (h : administer env write event w = .ok next) : PublishesQuietly w next := by
  simp only [administer, bind_eq_ok_iff, orFail_eq_ok_iff, pure_eq_ok_iff] at h
  obtain ⟨campaign, -, _, -, rfl⟩ := h
  exact publishesQuietly_of_one rfl (hevent campaign.creator)

end CampaignContract

open CampaignContract in
/-- An administrative call publishes no event of a donation. -/
theorem quiet_of_administrative {call : Call} (hcall : call.isAdministrative = true)
    (h : invoke env call w = .ok next) : PublishesQuietly w next := by
  cases call with
  | endCampaign =>
    have h : endCampaign env w = .ok next := h
    exact conclude_quiet (fun _ ↦ rfl) h
  | cancelCampaign =>
    have h : cancelCampaign env w = .ok next := h
    exact conclude_quiet (fun _ ↦ rfl) h
  | extendDeadline newEndTime =>
    simp only [invoke, extendDeadline, bind_eq_ok_iff, orFail_eq_ok_iff] at h
    obtain ⟨campaign, -, _, -, _, -, _, -, _, -, h⟩ := h
    obtain ⟨report, rfl⟩ := withReport_ok rfl h
    exact publishesQuietly_of_one rfl rfl
  | upgrade newWasmHash =>
    simp only [invoke, upgrade, bind_eq_ok_iff, orFail_eq_ok_iff, pure_eq_ok_iff] at h
    obtain ⟨campaign, -, _, -, _, -, rfl⟩ := h
    exact publishesQuietly_of_one rfl rfl
  | freeze =>
    have h : freeze env w = .ok next := h
    exact administer_quiet (fun _ ↦ rfl) h
  | unfreeze =>
    have h : unfreeze env w = .ok next := h
    exact administer_quiet (fun _ ↦ rfl) h
  | blockAsset asset =>
    have h : blockAsset env asset w = .ok next := h
    exact administer_quiet (fun _ ↦ rfl) h
  | unblockAsset asset =>
    have h : unblockAsset env asset w = .ok next := h
    exact administer_quiet (fun _ ↦ rfl) h
  | bumpStorage =>
    simp only [invoke, bumpStorage, bind_eq_ok_iff, orFail_eq_ok_iff, pure_eq_ok_iff] at h
    obtain ⟨campaign, -, rfl⟩ := h
    exact ⟨[], (List.append_nil _).symm, by simp⟩
  | initializeCampaign | donate | claimRefund | releaseMilestone | releaseMilestoneMultiAsset =>
    exact absurd hcall Bool.false_ne_true

/-- Payments of a multi-asset release publish no event of a donation. -/
theorem MultiAssetRelease.releaseEvents_quiet {index : ℕ} {recipient : Address}
    {milestoneRelease totalRaised : ℤ} {recorded : Address → Option ℤ}
    {assets : List StellarAsset} {event : Event}
    (h : event ∈ releaseEvents env index recipient milestoneRelease totalRaised recorded assets) :
    event.isOfDonation = false := by
  induction assets generalizing recorded with
  | nil => exact absurd h List.not_mem_nil
  | cons asset rest ih =>
    rcases List.mem_append.mp h with h | h
    · unfold entryEvents at h
      split at h
      · rw [List.mem_singleton.mp h]
        rfl
      · obtain ⟨payment, -, rfl⟩ := List.mem_map.mp h
        rfl
    · exact ih h

end Entrypoints

/-- What an action of a run appends to the log. -/
theorem exec_publishes {contract : Address} {overflowChecks : Bool}
    {ledger : Ledger Address Address} {wasmHash : BitVec 256}
    {history : List (Receipt Action World)} {w next : World} {action : Action}
    (run : CampaignRun contract overflowChecks ledger wasmHash history w)
    (h : (chain (standardHost contract overflowChecks)).exec action w = .ok next) :
    ∃ new, next.events = w.events ++ new ∧
      Publishes (standardHost contract overflowChecks) w action new := by
  have hquiet : action.invokes Call.isDonation = false → PublishesQuietly w next →
      ∃ new, next.events = w.events ++ new ∧
        Publishes (standardHost contract overflowChecks) w action new := by
    rintro hdonation ⟨new, hnew, hsilent⟩
    exact ⟨new, hnew, .quiet hdonation hsilent⟩
  cases step_of_exec run.untouched h with
  | transferred _ _ _ hevents =>
    exact hquiet rfl ⟨[], by rw [hevents, List.append_nil], by simp⟩
  | initialized _ hcall _ _ =>
    apply hquiet
    · exact Action.invokes_of_call hcall _
    · rw [exec_invoke_eq_ok_iff, hcall] at h
      simp only [invoke, CampaignContract.initializeCampaign, bind_eq_ok_iff, pure_eq_ok_iff] at h
      obtain ⟨-, _, -, _, -, _, -, _, -, _, -, _, -, _, -, _, -, s, -, rfl⟩ := h
      exact publishesQuietly_of_one rfl rfl
  | donated _ hcall hdonated =>
    obtain ⟨v, hv⟩ := (CampaignRun.sound run).established hdonated.found
    rw [exec_invoke_eq_ok_iff, hcall] at h
    exact ⟨_, CampaignContract.donate_events hv h.2, .donated hcall hv⟩
  | claimed _ hcall hclaimed =>
    apply hquiet
    · exact Action.invokes_of_call hcall _
    · refine ⟨_, hclaimed.events.trans (List.append_assoc _ _ _), fun event hevent ↦ ?_⟩
      rcases List.mem_append.mp hevent with hevent | hevent
      · obtain ⟨payment, -, rfl⟩ := List.mem_map.mp hevent
        rfl
      · rw [List.mem_singleton.mp hevent]
        rfl
  | released _ hcall hreleased =>
    apply hquiet
    · exact Action.invokes_of_call hcall _
    · refine ⟨_, hreleased.events, fun event hevent ↦ ?_⟩
      obtain ⟨payment, -, rfl⟩ := List.mem_map.mp hevent
      rfl
  | multiReleased _ hcall hreleased =>
    apply hquiet
    · exact Action.invokes_of_call hcall _
    · exact ⟨_, hreleased.events, fun _ ↦ MultiAssetRelease.releaseEvents_quiet⟩
  | administered _ hcall _ =>
    exact hquiet (Call.counts_nothing hcall).1
      (quiet_of_administrative hcall (exec_invoke_eq_ok_iff.mp h).2)

/-! ### The three kinds of events among them -/

section Kinds

variable {env : Env} {campaign : CampaignData} {v : List MilestoneData} {donor : Address}
  {amount : ℤ} {asset : AssetInfo}

theorem received_donationEvents :
    (donationEvents env campaign v donor amount asset).filter Event.isDonationReceived =
      [.donationReceived donor amount (resolveAssetCode asset campaign)
        (campaign.raisedAmount + amount) env.timestamp] := by
  unfold donationEvents goalEvents
  split_ifs <;> simp [List.filter_map, Function.comp_def, Event.isDonationReceived]

theorem goals_donationEvents :
    (donationEvents env campaign v donor amount asset).countP Event.isGoalReached =
      if campaign.goalAmount ≤ campaign.raisedAmount + amount ∧ campaign.status = .active
      then 1 else 0 := by
  unfold donationEvents goalEvents
  split_ifs <;> simp [List.countP_cons, List.countP_map, Function.comp_def, Event.isGoalReached]

theorem unlocks_donationEvents :
    (donationEvents env campaign v donor amount asset).filterMap Event.unlockedIndex =
      (Storage.duePairs (campaign.raisedAmount + amount) 0 v).map Prod.fst := by
  unfold donationEvents goalEvents
  split_ifs <;>
    simp [List.filterMap_cons, List.filterMap_map, Function.comp_def, Event.unlockedIndex]

theorem mem_unlocks_donationEvents {index : ℕ} :
    index ∈ (donationEvents env campaign v donor amount asset).filterMap Event.unlockedIndex ↔
      ∃ m, v[index]? = some m ∧ m.Due (campaign.raisedAmount + amount) := by
  rw [unlocks_donationEvents, List.mem_map]
  constructor
  · rintro ⟨⟨_, target⟩, hpair, rfl⟩
    obtain ⟨m, hm, hdue, -⟩ := Storage.mem_duePairs_iff.mp hpair
    exact ⟨m, hm, hdue⟩
  · rintro ⟨m, hm, hdue⟩
    exact ⟨(index, m.targetAmount), Storage.mem_duePairs_iff.mpr ⟨m, hm, hdue, rfl⟩, rfl⟩

variable {new : List Event} (h : ∀ event ∈ new, event.isOfDonation = false)
include h

theorem received_of_quiet : new.filter Event.isDonationReceived = [] := by
  rw [List.filter_eq_nil_iff]
  intro event hevent hreceived
  have hquiet := h event hevent
  rw [Event.isOfDonation, hreceived] at hquiet
  exact absurd hquiet (by simp)

theorem goals_of_quiet : new.countP Event.isGoalReached = 0 := by
  rw [List.countP_eq_zero]
  intro event hevent hgoal
  have hquiet := h event hevent
  rw [Event.isOfDonation, hgoal] at hquiet
  exact absurd hquiet (by simp)

theorem unlocks_of_quiet : new.filterMap Event.unlockedIndex = [] := by
  rw [List.filterMap_eq_nil_iff]
  intro event hevent
  have hquiet := h event hevent
  rw [Event.isOfDonation, Bool.or_eq_false_iff] at hquiet
  simpa using hquiet.2

end Kinds

/-! ### What the log should say -/

/-- The events that a step published. -/
def published (r : Receipt Action World) : List Event := appended World.events r

/-- The amount of a donation, nothing for any other action. -/
def Action.donatedAmount : Action → ℤ
  | .invoke ⟨_, _, _, .donate _ amount _⟩ => amount
  | _ => 0

/-- The total of the donations of a history. -/
def donatedTotal (history : List (Receipt Action World)) : ℤ :=
  (history.map fun r ↦ r.label.donatedAmount).sum

/-- The code of an asset according to the campaign record. -/
def Storage.assetCode (s : Storage) (asset : AssetInfo) : String :=
  (s.campaignData.map (resolveAssetCode asset)).getD ""

/-- The record of a step with the total raised by it, nothing unless it is a donation. -/
def donationRecord (total : ℤ) (r : Receipt Action World) : List Event :=
  match r.label with
  | .invoke ⟨timestamp, _, _, .donate donor amount asset⟩ =>
    [.donationReceived donor amount (r.before.storage.assetCode asset) total timestamp]
  | _ => []

/-- The records of the donations of a history in order, each with the total of the donations up to
it. -/
def donationRecords : List (Receipt Action World) → List Event
  | [] => []
  | r :: earlier => donationRecords earlier ++ donationRecord (donatedTotal (r :: earlier)) r

/-- A donation brings the raised amount to the goal. -/
def ReachesGoal (r : Receipt Action World) : Prop :=
  r.label.invokes Call.isDonation = true ∧
    ∃ campaign, r.before.storage.campaignData = some campaign ∧
      campaign.raisedAmount < campaign.goalAmount ∧
      campaign.goalAmount ≤ r.after.storage.raisedAmount

/-- A step takes a milestone out of `Locked`. -/
def LeavesLocked (r : Receipt Action World) (index : ℕ) : Prop :=
  ∃ m m', r.before.storage.getMilestone index = some m ∧ m.status = .locked ∧
    r.after.storage.getMilestone index = some m' ∧ m'.status ≠ .locked

/-- An action that donates nothing leaves no record. -/
theorem donation_of_quiet {action : Action} (h : action.invokes Call.isDonation = false) :
    action.donatedAmount = 0 ∧
      ∀ total w next, donationRecord total ⟨action, w, next⟩ = [] := by
  cases action with
  | transfer => exact ⟨rfl, fun _ _ _ ↦ rfl⟩
  | invoke inv =>
    obtain ⟨timestamp, sequence, authorisers, call⟩ := inv
    cases call with
    | donate => exact absurd h.symm Bool.false_ne_true
    | _ => exact ⟨rfl, fun _ _ _ ↦ rfl⟩

theorem Action.donatedAmount_of_call {inv : Invocation} {donor : Address} {amount : ℤ}
    {asset : AssetInfo} (hcall : inv.call = .donate donor amount asset) :
    (Action.invoke inv).donatedAmount = amount := by
  obtain ⟨timestamp, sequence, authorisers, call⟩ := inv
  obtain rfl : call = .donate donor amount asset := hcall
  rfl

theorem donationRecord_of_call {inv : Invocation} {donor : Address} {amount : ℤ}
    {asset : AssetInfo} (hcall : inv.call = .donate donor amount asset) (total : ℤ)
    (w next : World) : donationRecord total ⟨.invoke inv, w, next⟩ =
      [.donationReceived donor amount (w.storage.assetCode asset) total inv.timestamp] := by
  obtain ⟨timestamp, sequence, authorisers, call⟩ := inv
  obtain rfl : call = .donate donor amount asset := hcall
  rfl

/-- The last record carries the total of all donations. -/
theorem raisedTotal_of_last {history : List (Receipt Action World)} {event : Event}
    (h : (donationRecords history).getLast? = some event) :
    event.raisedTotal = some (donatedTotal history) := by
  induction history with
  | nil => exact absurd h.symm (Option.some_ne_none event)
  | cons r earlier ih =>
    obtain ⟨action, before, after⟩ := r
    rw [donationRecords] at h
    by_cases hdonation : action.invokes Call.isDonation = false
    · obtain ⟨hamount, hrecord⟩ := donation_of_quiet hdonation
      rw [hrecord, List.append_nil] at h
      rw [ih h, donatedTotal, donatedTotal, List.map_cons, List.sum_cons, hamount, zero_add]
    · obtain ⟨inv⟩ | _ := action
      · obtain ⟨timestamp, sequence, authorisers, call⟩ := inv
        cases call with
        | donate donor amount asset =>
          rw [donationRecord_of_call rfl, List.getLast?_concat] at h
          rw [← Option.some.inj h]
          rfl
        | _ => exact absurd rfl hdonation
      · exact absurd rfl hdonation

/-! ### One step of a run -/

/-- The records of donations among the events that a step publishes. -/
theorem Publishes.received {host : Host} {action : Action} {w : World} {new : List Event}
    (h : Publishes host w action new) (next : World) :
    new.filter Event.isDonationReceived =
      donationRecord (w.storage.raisedAmount + action.donatedAmount) ⟨action, w, next⟩ := by
  cases h with
  | quiet hdonation hsilent =>
    rw [received_of_quiet hsilent, (donation_of_quiet hdonation).2]
  | @donated inv donor amount asset campaign v hcall hv =>
    have hcode : w.storage.assetCode asset = resolveAssetCode asset campaign := by
      rw [Storage.assetCode, hv.found]
      rfl
    rw [received_donationEvents, donationRecord_of_call hcall, hcode,
      Action.donatedAmount_of_call hcall, hv.raisedAmount_eq]
    rfl

section Steps

variable {host : Host} {action : Action} {w next : World} {new : List Event}
  (hstep : Step host action w next) (hw : Sound w.storage)
include hstep hw

/-- A donation adds its amount to the raised amount, and nothing else does. -/
theorem Step.raisedAmount_eq :
    next.storage.raisedAmount = w.storage.raisedAmount + action.donatedAmount := by
  have hkept : action.invokes Call.isDonation = false →
      next.storage.raisedAmount = w.storage.raisedAmount →
      next.storage.raisedAmount = w.storage.raisedAmount + action.donatedAmount := by
    intro hdonation hraised
    rw [(donation_of_quiet hdonation).1, add_zero, hraised]
  cases hstep with
  | transferred _ _ hstorage => exact hkept rfl (by rw [hstorage])
  | initialized _ hcall hempty h =>
    apply hkept
    · exact Action.invokes_of_call hcall _
    · rw [(Established.of_initialized h hempty).raisedAmount_eq, hempty]
      rfl
  | donated _ hcall h =>
    obtain ⟨v, hv⟩ := hw.established h.found
    rw [(hv.of_donated h).2.raisedAmount_eq, hv.raisedAmount_eq,
      Action.donatedAmount_of_call hcall]
    rfl
  | claimed _ hcall h =>
    obtain ⟨v, hv⟩ := hw.established h.found
    apply hkept
    · exact Action.invokes_of_call hcall _
    · rw [(hv.of_claimed h).2.raisedAmount_eq, hv.raisedAmount_eq]
  | released _ hcall h =>
    obtain ⟨v, hv⟩ := hw.established h.found
    apply hkept
    · exact Action.invokes_of_call hcall _
    · rw [(hv.of_released h).2.2.raisedAmount_eq, hv.raisedAmount_eq]
  | multiReleased _ hcall h =>
    obtain ⟨v, hv⟩ := hw.established h.found
    apply hkept
    · exact Action.invokes_of_call hcall _
    · rw [(hv.of_multiReleased h).2.2.raisedAmount_eq, hv.raisedAmount_eq]
  | administered _ hcall h =>
    obtain ⟨v, hv⟩ := hw.established h.found
    apply hkept (Call.counts_nothing hcall).1
    rw [(hv.of_administered h).2.raisedAmount_eq, hv.raisedAmount_eq]

/-- A step announces the goal when it brings the raised amount to it. -/
theorem Publishes.goals (h : Publishes host w action new)
    (hcoherent : ∀ campaign, w.storage.campaignData = some campaign →
      StatusCoherent w.storage campaign) :
    new.countP Event.isGoalReached ≤ 1 ∧
      (0 < new.countP Event.isGoalReached ↔ ReachesGoal ⟨action, w, next⟩) := by
  cases h with
  | quiet hdonation hsilent =>
    rw [goals_of_quiet hsilent]
    refine ⟨Nat.zero_le 1, iff_of_false (lt_irrefl 0) fun hreaches ↦ ?_⟩
    exact Bool.false_ne_true (hdonation.symm.trans hreaches.1)
  | @donated inv donor amount asset campaign v hcall hv =>
    have hraised := hstep.raisedAmount_eq hw
    rw [Action.donatedAmount_of_call hcall, hv.raisedAmount_eq] at hraised
    obtain ⟨found, token, hdonated⟩ := hstep.of_donate hcall
    obtain rfl := hv.campaign_eq hdonated.found
    have hactive : found.status = .active ↔ found.raisedAmount < found.goalAmount := by
      have hstatus := hcoherent found hv.found
      constructor
      · exact hstatus.active
      · intro hlt
        have haccepts := hdonated.accepts
        cases hcase : found.status with
        | active => rfl
        | goalReached => exact absurd (hstatus.goal_reached hcase).1 (not_le.mpr hlt)
        | ended | cancelled =>
          rw [hcase] at haccepts
          exact absurd haccepts Bool.false_ne_true
    have hreaches : ReachesGoal ⟨.invoke inv, w, next⟩ ↔
        found.goalAmount ≤ found.raisedAmount + amount ∧ found.status = .active := by
      rw [hactive, ← hraised]
      constructor
      · rintro ⟨-, campaign, hcampaign, hbefore, hafter⟩
        obtain rfl := hv.campaign_eq hcampaign
        exact ⟨hafter, hbefore⟩
      · rintro ⟨hafter, hbefore⟩
        refine ⟨?_, found, hv.found, hbefore, hafter⟩
        exact Action.invokes_of_call hcall _
    rw [goals_donationEvents, hreaches]
    split_ifs with hnow
    · exact ⟨le_rfl, iff_of_true Nat.one_pos hnow⟩
    · exact ⟨Nat.zero_le 1, iff_of_false (lt_irrefl 0) hnow⟩

/-- Only a donation takes a milestone out of `Locked`. -/
theorem Step.not_leavesLocked (hdonation : action.invokes Call.isDonation = false) (index : ℕ) :
    ¬ LeavesLocked ⟨action, w, next⟩ index := by
  rintro ⟨m, m', hm, hlocked, hm', hleft⟩
  obtain ⟨campaign, hcampaign⟩ :=
    Option.ne_none_iff_exists'.mp (hw.untouched.campaign_ne_none hm)
  obtain ⟨v, hv⟩ := hw.established hcampaign
  obtain ⟨campaign', v', hv', -, hvector⟩ := hstep.vectorStep hv
  have hm : w.storage.getMilestone index = some m := hm
  have hm' : next.storage.getMilestone index = some m' := hm'
  rw [hv.getMilestone] at hm
  rw [hv'.getMilestone] at hm'
  cases hvector with
  | kept _ _ =>
    obtain rfl := Option.some.inj (hm.symm.trans hm')
    exact hleft hlocked
  | unlocked hdonates => exact Bool.false_ne_true (hdonation.symm.trans hdonates)
  | @released other found data _ hfound hunlocked _ _ _ =>
    by_cases hsame : other = index
    · subst hsame
      obtain rfl := Option.some.inj (hm.symm.trans hfound)
      exact MilestoneStatus.noConfusion (hlocked.symm.trans hunlocked)
    · rw [List.getElem?_set_ne hsame] at hm'
      obtain rfl := Option.some.inj (hm.symm.trans hm')
      exact hleft hlocked

/-- A donation takes the milestones out of `Locked` that are locked and due. -/
theorem Step.leavesLocked_iff {inv : Invocation} (hinvoke : action = .invoke inv) {donor : Address}
    {amount : ℤ} {asset : AssetInfo} (hcall : inv.call = .donate donor amount asset)
    {campaign : CampaignData} {v : List MilestoneData} (hv : Established w.storage campaign v)
    (index : ℕ) :
    LeavesLocked ⟨action, w, next⟩ index ↔
      ∃ m, v[index]? = some m ∧ m.Due (campaign.raisedAmount + amount) := by
  subst hinvoke
  have hraised := hstep.raisedAmount_eq hw
  rw [Action.donatedAmount_of_call hcall, hv.raisedAmount_eq] at hraised
  obtain ⟨found, token, hdonated⟩ := hstep.of_donate hcall
  have hafter := getMilestone_of_donated hdonated hw index
  rw [hraised, hv.getMilestone] at hafter
  constructor
  · rintro ⟨m, m', hm, hlocked, hm', hleft⟩
    have hm : v[index]? = some m := (hv.getMilestone index).symm.trans hm
    refine ⟨m, hm, hlocked, ?_⟩
    by_contra htarget
    have hkept := hafter.symm.trans hm'
    rw [hm, Option.map_some, MilestoneData.unlock_of_not_due fun hdue ↦ htarget hdue.2] at hkept
    obtain rfl := Option.some.inj hkept
    exact hleft hlocked
  · rintro ⟨m, hm, hdue⟩
    refine ⟨m, { m with status := .unlocked }, (hv.getMilestone index).trans hm, hdue.1, ?_,
      MilestoneStatus.noConfusion⟩
    show next.storage.getMilestone index = _
    rw [hafter, hm, Option.map_some, MilestoneData.unlock, if_pos hdue]

/-- A step announces the milestones that it takes out of `Locked`. -/
theorem Publishes.mem_unlocks_iff (h : Publishes host w action new) (index : ℕ) :
    index ∈ new.filterMap Event.unlockedIndex ↔ LeavesLocked ⟨action, w, next⟩ index := by
  cases h with
  | quiet hdonation hsilent =>
    rw [unlocks_of_quiet hsilent]
    exact iff_of_false List.not_mem_nil (hstep.not_leavesLocked hw hdonation index)
  | donated hcall hv =>
    rw [mem_unlocks_donationEvents, hstep.leavesLocked_iff hw rfl hcall hv]

end Steps

/-! ### The log of a run -/

/-- The goal of the campaign has been raised. -/
def GoalRaised (s : Storage) : Prop :=
  ∃ campaign, s.campaignData = some campaign ∧ campaign.goalAmount ≤ campaign.raisedAmount

/-- A raised goal stays raised. -/
theorem Step.goalRaised {host : Host} {action : Action} {w next : World}
    (h : Step host action w next) (hw : Sound w.storage) (hraised : GoalRaised w.storage) :
    GoalRaised next.storage := by
  obtain ⟨campaign, hcampaign, hgoal⟩ := hraised
  obtain ⟨v, hv⟩ := hw.established hcampaign
  obtain ⟨campaign', v', hv', hsame, -⟩ := h.vectorStep hv
  have hle := h.raisedAmount_le hw
  rw [hv.raisedAmount_eq, hv'.raisedAmount_eq] at hle
  refine ⟨campaign', hv'.found, ?_⟩
  rw [hsame]
  exact hgoal.trans hle

/-- A donation that brings the raised amount to the goal leaves it raised. -/
theorem Step.goalRaised_of_reaches {host : Host} {action : Action} {w next : World}
    (h : Step host action w next) (hw : Sound w.storage)
    (hreaches : ReachesGoal ⟨action, w, next⟩) : GoalRaised next.storage := by
  obtain ⟨-, campaign, hcampaign, -, hgoal⟩ := hreaches
  obtain ⟨v, hv⟩ := hw.established hcampaign
  obtain ⟨campaign', v', hv', hsame, -⟩ := h.vectorStep hv
  refine ⟨campaign', hv'.found, ?_⟩
  rw [hsame, ← hv'.raisedAmount_eq]
  exact hgoal

/-- What the log of a run says, as far as one step needs to know it. -/
structure Logged (history : List (Receipt Action World)) (w : World) : Prop where
  received : w.events.filter Event.isDonationReceived = donationRecords history
  raised : w.storage.raisedAmount = donatedTotal history
  goals : w.events.countP Event.isGoalReached = 0 ∨
    w.events.countP Event.isGoalReached = 1 ∧ GoalRaised w.storage
  ascending : (w.events.filterMap Event.unlockedIndex).Pairwise (· < ·)
  before_locked : ∀ i ∈ w.events.filterMap Event.unlockedIndex, ∀ j m,
    w.storage.getMilestone j = some m → m.status = .locked → i < j
  fresh : w.storage.campaignData = none → w.events = []

theorem Logged.start (ledger : Ledger Address Address) (wasmHash : BitVec 256) :
    Logged [] (.deployed ledger wasmHash) where
  received := rfl
  raised := rfl
  goals := .inl rfl
  ascending := .nil
  before_locked := by simp [World.deployed]
  fresh _ := rfl

/-- The milestones that are locked after a step that donates nothing were locked before it, once
there was a campaign. -/
theorem Step.was_locked {host : Host} {action : Action} {w next : World}
    (h : Step host action w next) (hw : Sound w.storage)
    (hcampaign : w.storage.campaignData ≠ none) {index : ℕ} {m : MilestoneData}
    (hm : next.storage.getMilestone index = some m) (hlocked : m.status = .locked) :
    w.storage.getMilestone index = some m := by
  have hstep := h.milestoneStep hw hcampaign index
  generalize w.storage.getMilestone index = record at hstep ⊢
  rw [hm] at hstep
  cases hstep with
  | kept => rfl
  | unlocked | released | multiReleased => exact MilestoneStatus.noConfusion hlocked

/-- A donation announces milestones before those that it leaves locked. -/
theorem Publishes.before_locked {host : Host} {action : Action} {w next : World}
    {new : List Event} (h : Publishes host w action new) (hstep : Step host action w next)
    (hw : Sound w.storage) {i j : ℕ} {m : MilestoneData}
    (hi : i ∈ new.filterMap Event.unlockedIndex) (hm : next.storage.getMilestone j = some m)
    (hlocked : m.status = .locked) : i < j := by
  cases h with
  | quiet _ hsilent =>
    rw [unlocks_of_quiet hsilent] at hi
    exact absurd hi List.not_mem_nil
  | @donated inv donor amount asset campaign v hcall hv =>
    obtain ⟨listed, hlisted, hdue⟩ := mem_unlocks_donationEvents.mp hi
    obtain ⟨found, token, hdonated⟩ := hstep.of_donate hcall
    have hraised := hstep.raisedAmount_eq hw
    rw [Action.donatedAmount_of_call hcall, hv.raisedAmount_eq] at hraised
    have hcampaign : w.storage.campaignData ≠ none := by simp [hv.found]
    have hbefore := hstep.was_locked hw hcampaign hm hlocked
    rw [hv.getMilestone] at hbefore
    have htarget : campaign.raisedAmount + amount < m.targetAmount := by
      rw [← hraised, ← not_le]
      exact fun hle ↦ (unlockedAsRaised_of_donated hdonated hw).reached j m hm hle hlocked
    by_contra hle
    -- targets ascend, and the announced target is raised while the locked one is not
    rcases (not_lt.mp hle).eq_or_lt with rfl | hlt
    · obtain rfl := Option.some.inj (hlisted.symm.trans hbefore)
      exact absurd hdue.2 (not_le.mpr htarget)
    · obtain ⟨hj, rfl⟩ := List.getElem?_eq_some_iff.mp hbefore
      obtain ⟨hi, rfl⟩ := List.getElem?_eq_some_iff.mp hlisted
      have hascending := List.pairwise_iff_getElem.mp hv.schedule.ascending j i hj hi hlt
      exact absurd (hdue.2.trans_lt htarget) hascending.not_gt

section Logs

variable {host : Host} {action : Action} {w next : World} {new : List Event}
  {history : List (Receipt Action World)} (hlog : Logged history w)
  (hpublishes : Publishes host w action new) (hstep : Step host action w next)
  (hw : Sound w.storage)
include hlog hpublishes hstep hw

/-- A step announces the goal if it has not been raised yet. -/
theorem Logged.goals_append
    (hcoherent : ∀ campaign, w.storage.campaignData = some campaign →
      StatusCoherent w.storage campaign) :
    (w.events ++ new).countP Event.isGoalReached = 0 ∨
      (w.events ++ new).countP Event.isGoalReached = 1 ∧ GoalRaised next.storage := by
  have hgoals := hpublishes.goals hstep hw hcoherent
  rw [List.countP_append]
  rcases hlog.goals with hnone | ⟨hone, hbefore⟩
  · rcases Nat.eq_zero_or_pos (new.countP Event.isGoalReached) with hnew | hnew
    · exact .inl (by rw [hnone, hnew])
    · refine .inr ⟨?_, hstep.goalRaised_of_reaches hw (hgoals.2.mp hnew)⟩
      rw [hnone, zero_add]
      exact le_antisymm hgoals.1 hnew
  · have hsilent : ¬ ReachesGoal ⟨action, w, next⟩ := by
      rintro ⟨-, campaign, hcampaign, hlt, -⟩
      obtain ⟨found, hfound, hgoal⟩ := hbefore
      obtain rfl := Option.some.inj (hcampaign.symm.trans hfound)
      exact absurd hgoal (not_le.mpr hlt)
    have hnew : new.countP Event.isGoalReached = 0 :=
      Nat.eq_zero_of_not_pos fun hpos ↦ hsilent (hgoals.2.mp hpos)
    exact .inr ⟨by rw [hone, hnew], hstep.goalRaised hw hbefore⟩

/-- A step announces milestones above those announced before, in ascending order. -/
theorem Logged.ascending_append :
    ((w.events ++ new).filterMap Event.unlockedIndex).Pairwise (· < ·) := by
  rw [List.filterMap_append, List.pairwise_append]
  refine ⟨hlog.ascending, ?_, ?_⟩
  · cases hpublishes with
    | quiet _ hsilent =>
      rw [unlocks_of_quiet hsilent]
      exact .nil
    | donated _ _ =>
      rw [unlocks_donationEvents, List.pairwise_map]
      exact Storage.duePairs_ascending
  · intro i hi j hj
    obtain ⟨m, m', hm, hlocked, -⟩ := (hpublishes.mem_unlocks_iff hstep hw j).mp hj
    exact hlog.before_locked i hi j m hm hlocked

/-- The milestones that a step leaves locked are above all that are announced. -/
theorem Logged.before_locked_append :
    ∀ i ∈ (w.events ++ new).filterMap Event.unlockedIndex, ∀ j m,
      next.storage.getMilestone j = some m → m.status = .locked → i < j := by
  rw [List.filterMap_append]
  intro i hi j m hm hlocked
  have hcampaign : w.storage.campaignData ≠ none := by
    intro hfresh
    rw [hlog.fresh hfresh, List.filterMap_nil, List.nil_append,
      hpublishes.mem_unlocks_iff hstep hw] at hi
    obtain ⟨found, -, hfound, -⟩ := hi
    exact hw.untouched.campaign_ne_none hfound hfresh
  rcases List.mem_append.mp hi with hi | hi
  · exact hlog.before_locked i hi j m (hstep.was_locked hw hcampaign hm hlocked) hlocked
  · exact hpublishes.before_locked hstep hw hi hm hlocked

omit hpublishes hw in
/-- Nothing is announced before there is a campaign. -/
theorem Logged.fresh_step (hfresh : next.storage.campaignData = none) : next.events = [] := by
  cases action with
  | invoke inv => exact absurd hfresh hstep.campaign_isSome
  | transfer token source target amount =>
    cases hstep with
    | transferred _ _ hstorage hevents =>
      rw [hevents]
      exact hlog.fresh (hstorage ▸ hfresh)

end Logs

section Runs

variable {contract : Address} {overflowChecks : Bool} {ledger : Ledger Address Address}
  {wasmHash : BitVec 256} {history : List (Receipt Action World)} {w : World}

theorem CampaignRun.logged
    (run : CampaignRun contract overflowChecks ledger wasmHash history w) : Logged history w := by
  refine run.invariant (I := Logged) (.start ledger wasmHash) ?_
  intro history w action next prior hlog hexec
  have hw := CampaignRun.sound prior
  have hstep := step_of_exec hw.untouched hexec
  obtain ⟨new, hnew, hpublishes⟩ := exec_publishes prior hexec
  have hraised : next.storage.raisedAmount = donatedTotal (⟨action, w, next⟩ :: history) := by
    rw [hstep.raisedAmount_eq hw, hlog.raised, donatedTotal, donatedTotal, List.map_cons,
      List.sum_cons, add_comm]
  refine
    { received := ?_
      raised := hraised
      goals := hnew ▸ hlog.goals_append hpublishes hstep hw (status_coherent prior).1
      ascending := hnew ▸ hlog.ascending_append hpublishes hstep hw
      before_locked := hnew ▸ hlog.before_locked_append hpublishes hstep hw
      fresh := hlog.fresh_step hstep }
  rw [hnew, List.filter_append, hlog.received, hpublishes.received next,
    ← hstep.raisedAmount_eq hw, hraised]
  rfl

/-- The log is what the steps of the run published. It lists the donations of the run in order,
each with the total of the donations up to it, the last with the raised amount. The goal is
announced at most once, by the donation that brings the raised amount to it. Milestones are
announced by the steps that take them out of `Locked`, in ascending order over the whole run. -/
theorem event_log_faithful
    (run : CampaignRun contract overflowChecks ledger wasmHash history w) :
    w.events = history.reverse.flatMap published ∧
    w.events.filter Event.isDonationReceived = donationRecords history ∧
    (∀ event, (w.events.filter Event.isDonationReceived).getLast? = some event →
      event.raisedTotal = some w.storage.raisedAmount) ∧
    w.events.countP Event.isGoalReached ≤ 1 ∧
    (∀ r ∈ history, (∃ event ∈ published r, event.isGoalReached = true) ↔ ReachesGoal r) ∧
    (w.events.filterMap Event.unlockedIndex).Pairwise (· < ·) ∧
    ∀ r ∈ history, ∀ index,
      index ∈ (published r).filterMap Event.unlockedIndex ↔ LeavesLocked r index := by
  have hlog := CampaignRun.logged run
  have hpublished : ∀ r ∈ history, ∃ earlier,
      CampaignRun contract overflowChecks ledger wasmHash earlier r.before ∧
        Step (standardHost contract overflowChecks) r.label r.before r.after ∧
        Publishes (standardHost contract overflowChecks) r.before r.label (published r) := by
    intro r hr
    obtain ⟨hexec, earlier, hearlier⟩ := run.fired hr
    obtain ⟨new, hnew, hpublishes⟩ := exec_publishes hearlier hexec
    rw [published, appended_eq hnew]
    exact ⟨earlier, hearlier, step_of_exec (CampaignRun.untouched hearlier) hexec, hpublishes⟩
  have happends : AppendsTo (chain (standardHost contract overflowChecks))
      (.deployed ledger wasmHash) World.events := by
    intro history w action next prior hexec
    obtain ⟨new, hnew, -⟩ := exec_publishes prior hexec
    exact ⟨new, hnew.symm⟩
  refine ⟨run.log_eq happends, hlog.received, ?_, ?_, fun r hr ↦ ?_, hlog.ascending,
    fun r hr index ↦ ?_⟩
  · intro event hlast
    rw [hlog.received] at hlast
    rw [hlog.raised]
    exact raisedTotal_of_last hlast
  · rcases hlog.goals with hnone | ⟨hone, -⟩
    · rw [hnone]
      exact Nat.zero_le 1
    · exact hone.le
  · obtain ⟨earlier, hearlier, hstep, hpublishes⟩ := hpublished r hr
    have hgoals := hpublishes.goals hstep (CampaignRun.sound hearlier) (status_coherent hearlier).1
    rw [← hgoals.2, List.countP_pos_iff]
  · obtain ⟨earlier, hearlier, hstep, hpublishes⟩ := hpublished r hr
    exact hpublishes.mem_unlocks_iff hstep (CampaignRun.sound hearlier) index

end Runs

/-- Two donations, the first of which unlocks a milestone and the second of which reaches the
goal. -/
def Sample.twoUnlocks : List Action :=
  [opening [⟨"XLM", some token⟩] [milestone 400, milestone 1000] 1000, giving donor 500 token,
    giving secondDonor 600 token, giving donor 0 token]

theorem event_log_faithful_twoUnlocks :
    (Sample.reached Sample.twoUnlocks).events.filter Event.isDonationReceived =
      donationRecords (Sample.history Sample.twoUnlocks) ∧
    donationRecords (Sample.history Sample.twoUnlocks) =
      [.donationReceived Sample.donor 500 "XLM" 500 20,
        .donationReceived Sample.secondDonor 600 "XLM" 1100 20] ∧
    (Sample.reached Sample.twoUnlocks).events.filterMap Event.unlockedIndex = [0, 1] :=
  ⟨(event_log_faithful (Sample.run Sample.twoUnlocks)).2.1, by decide +kernel,
    by decide +kernel⟩

end OrbitChain.Campaign
