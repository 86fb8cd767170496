import OrbitChain.Campaign.Contract

/-!
# What an administrative call writes

`Administered` says what all administrative calls have in common. Here they are told apart: a call
that writes the freeze flag or the block list leaves a storage that the call alone determines
(`Flagged`), and a call that writes the campaign record leaves the record the call asks for with
its report (`Amended`). Only the second kind, and an upgrade, looks at the freeze flag, and only
storage maintenance needs no signature.
-/

set_option autoImplicit false
set_option relaxedAutoImplicit false

namespace OrbitChain.Campaign

open Foundations

namespace Call

/-- The administrative calls that write no record. -/
def writesFlags : Call → Bool
  | .upgrade _ | .freeze | .unfreeze | .blockAsset _ | .unblockAsset _ | .bumpStorage => true
  | _ => false

/-- The storage left by a call that writes no record. -/
def flagged : Call → Storage → Storage
  | .freeze, s => s.setFrozen true
  | .unfreeze, s => s.setFrozen false
  | .blockAsset asset, s => s.blockAsset asset
  | .unblockAsset asset, s => s.unblockAsset asset
  | _, s => s

/-- The campaign record left by a call that writes it. -/
def amended (call : Call) (env : Env) (campaign : CampaignData) : CampaignData :=
  match call with
  | .endCampaign => { campaign with status := .ended, concludedAtLedger := some env.sequence }
  | .cancelCampaign =>
    { campaign with status := .cancelled, concludedAtLedger := some env.sequence }
  | .extendDeadline newEndTime => { campaign with endTime := newEndTime }
  | _ => campaign

/-- Flags are all a flag call writes. -/
theorem flagged_eq (call : Call) (s : Storage) : ∃ frozen blockedAsset,
    call.flagged s = { s with frozen := frozen, blockedAsset := blockedAsset } := by
  cases call <;> exact ⟨_, _, rfl⟩

end Call

namespace CampaignContract

/-- A successful call that writes flags at most. -/
structure Flagged (env : Env) (call : Call) (w next : World) (campaign : CampaignData) :
    Prop where
  call_flags : call.writesFlags = true
  found : w.storage.campaignData = some campaign
  authorised : call ≠ .bumpStorage → env.Authorised campaign.creator
  not_frozen : ∀ newWasmHash, call = .upgrade newWasmHash → w.storage.isFrozen = false
  storage : next.storage = call.flagged w.storage
  ledger : next.ledger = w.ledger

/-- A successful call that writes the campaign record. -/
structure Amended (env : Env) (call : Call) (w next : World) (campaign : CampaignData) :
    Prop where
  found : w.storage.campaignData = some campaign
  authorised : env.Authorised campaign.creator
  not_frozen : w.storage.isFrozen = false
  permitted : campaign.status.acceptsDonations = true ∨
    call = .cancelCampaign ∧ campaign.status = .ended
  storage : ∃ report, buildCampaignReport next.storage (call.amended env campaign) = .ok report ∧
    next.storage =
      { w.storage with
        campaignData := some (call.amended env campaign)
        cachedReport := some report }
  ledger : next.ledger = w.ledger

variable {env : Env} {w next : World}

/-- Storing the report of a record stores the record's own report. -/
theorem withReport_built {campaign : CampaignData}
    (hcampaign : w.storage.campaignData = some campaign) (h : withReport w = .ok next) :
    ∃ report, buildCampaignReport w.storage campaign = .ok report ∧
      next = { w with storage := { w.storage with cachedReport := some report } } := by
  simp only [withReport, bind_eq_ok_iff, pure_eq_ok_iff,
    refreshReportCache_eq_ok_iff campaign hcampaign] at h
  obtain ⟨s, ⟨report, hreport, rfl⟩, rfl⟩ := h
  exact ⟨report, hreport, rfl⟩

/-- Concluding is allowed from an open campaign, and cancelling from an ended one. -/
theorem permitted_of_transition {current status : CampaignStatus}
    (h : validateCampaignTransition current status = .ok ()) :
    current.acceptsDonations = true ∨ status = .cancelled ∧ current = .ended := by
  cases current <;> cases status <;> simp_all [validateCampaignTransition,
    CampaignStatus.acceptsDonations]

theorem conclude_amended (call : Call) {status : CampaignStatus} {event : Address → Event}
    (hamended : ∀ campaign, call.amended env campaign =
      { campaign with status := status, concludedAtLedger := some env.sequence })
    (hcancel : status = .cancelled → call = .cancelCampaign)
    (h : conclude env status event w = .ok next) :
    ∃ campaign, Amended env call w next campaign := by
  simp only [conclude, bind_eq_ok_iff, orFail_eq_ok_iff, Env.requireAuth_eq_ok_iff,
    failIf_eq_ok_iff] at h
  obtain ⟨campaign, hcampaign, _, hauth, _, hfrozen, _, htransition, h⟩ := h
  obtain ⟨report, hreport, rfl⟩ := withReport_built rfl h
  rw [← hamended] at hreport
  exact ⟨campaign,
    { found := hcampaign
      authorised := hauth
      not_frozen := eq_false_of_ne_true hfrozen
      permitted := (permitted_of_transition htransition).imp_right (And.imp_left hcancel)
      storage := ⟨report, hreport, by rw [hamended]; rfl⟩
      ledger := rfl }⟩

theorem extendDeadline_amended {newEndTime : ℕ} (h : extendDeadline env newEndTime w = .ok next) :
    ∃ campaign, Amended env (.extendDeadline newEndTime) w next campaign := by
  simp only [extendDeadline, bind_eq_ok_iff, orFail_eq_ok_iff, Env.requireAuth_eq_ok_iff,
    failIf_eq_ok_iff] at h
  obtain ⟨campaign, hcampaign, _, hauth, _, hfrozen, _, hopen, _, _, h⟩ := h
  obtain ⟨report, hreport, rfl⟩ := withReport_built rfl h
  exact ⟨campaign,
    { found := hcampaign
      authorised := hauth
      not_frozen := eq_false_of_ne_true hfrozen
      permitted := .inl (by simpa using hopen)
      storage := ⟨report, hreport, rfl⟩
      ledger := rfl }⟩

theorem upgrade_flagged {newWasmHash : BitVec 256} (h : upgrade env newWasmHash w = .ok next) :
    ∃ campaign, Flagged env (.upgrade newWasmHash) w next campaign := by
  simp only [upgrade, bind_eq_ok_iff, orFail_eq_ok_iff, Env.requireAuth_eq_ok_iff,
    failIf_eq_ok_iff, pure_eq_ok_iff] at h
  obtain ⟨campaign, hcampaign, _, hauth, _, hfrozen, rfl⟩ := h
  exact ⟨campaign,
    { call_flags := rfl
      found := hcampaign
      authorised := fun _ ↦ hauth
      not_frozen := fun _ _ ↦ eq_false_of_ne_true hfrozen
      storage := rfl
      ledger := rfl }⟩

theorem administer_flagged (call : Call) {write : Storage → Storage} {event : Address → Event}
    (hwrite : ∀ s, write s = call.flagged s) (hflags : call.writesFlags = true)
    (hupgrade : ∀ newWasmHash, call ≠ .upgrade newWasmHash)
    (h : administer env write event w = .ok next) :
    ∃ campaign, Flagged env call w next campaign := by
  simp only [administer, bind_eq_ok_iff, orFail_eq_ok_iff, Env.requireAuth_eq_ok_iff,
    pure_eq_ok_iff] at h
  obtain ⟨campaign, hcampaign, _, hauth, rfl⟩ := h
  exact ⟨campaign,
    { call_flags := hflags
      found := hcampaign
      authorised := fun _ ↦ hauth
      not_frozen := fun newWasmHash hcall ↦ absurd hcall (hupgrade newWasmHash)
      storage := hwrite _
      ledger := rfl }⟩

theorem bumpStorage_flagged (h : bumpStorage w = .ok next) :
    ∃ campaign, Flagged env .bumpStorage w next campaign := by
  simp only [bumpStorage, bind_eq_ok_iff, orFail_eq_ok_iff, pure_eq_ok_iff] at h
  obtain ⟨campaign, hcampaign, rfl⟩ := h
  exact ⟨campaign,
    { call_flags := rfl
      found := hcampaign
      authorised := fun hcall ↦ absurd rfl hcall
      not_frozen := fun _ hcall ↦ Call.noConfusion hcall
      storage := rfl
      ledger := rfl }⟩

/-- Every successful administrative call writes flags or amends the record. -/
theorem flagged_or_amended {call : Call} (hcall : call.isAdministrative = true)
    (h : invoke env call w = .ok next) :
    ∃ campaign, Flagged env call w next campaign ∨ Amended env call w next campaign := by
  cases call with
  | endCampaign =>
    have h : endCampaign env w = .ok next := h
    obtain ⟨campaign, h⟩ :=
      conclude_amended .endCampaign (fun _ ↦ rfl) (fun hstatus ↦ nomatch hstatus) h
    exact ⟨campaign, .inr h⟩
  | cancelCampaign =>
    have h : cancelCampaign env w = .ok next := h
    obtain ⟨campaign, h⟩ := conclude_amended .cancelCampaign (fun _ ↦ rfl) (fun _ ↦ rfl) h
    exact ⟨campaign, .inr h⟩
  | extendDeadline newEndTime =>
    obtain ⟨campaign, h⟩ := extendDeadline_amended h
    exact ⟨campaign, .inr h⟩
  | upgrade newWasmHash =>
    obtain ⟨campaign, h⟩ := upgrade_flagged h
    exact ⟨campaign, .inl h⟩
  | freeze =>
    have h : freeze env w = .ok next := h
    obtain ⟨campaign, h⟩ :=
      administer_flagged .freeze (fun _ ↦ rfl) rfl (fun _ hcall ↦ nomatch hcall) h
    exact ⟨campaign, .inl h⟩
  | unfreeze =>
    have h : unfreeze env w = .ok next := h
    obtain ⟨campaign, h⟩ :=
      administer_flagged .unfreeze (fun _ ↦ rfl) rfl (fun _ hcall ↦ nomatch hcall) h
    exact ⟨campaign, .inl h⟩
  | blockAsset asset =>
    have h : blockAsset env asset w = .ok next := h
    obtain ⟨campaign, h⟩ :=
      administer_flagged (.blockAsset asset) (fun _ ↦ rfl) rfl (fun _ hcall ↦ nomatch hcall) h
    exact ⟨campaign, .inl h⟩
  | unblockAsset asset =>
    have h : unblockAsset env asset w = .ok next := h
    obtain ⟨campaign, h⟩ :=
      administer_flagged (.unblockAsset asset) (fun _ ↦ rfl) rfl (fun _ hcall ↦ nomatch hcall) h
    exact ⟨campaign, .inl h⟩
  | bumpStorage =>
    obtain ⟨campaign, h⟩ := bumpStorage_flagged h
    exact ⟨campaign, .inl h⟩
  | initializeCampaign | donate | claimRefund | releaseMilestone | releaseMilestoneMultiAsset =>
    exact absurd hcall Bool.false_ne_true

/-- Flag calls leave the campaign record. -/
theorem Flagged.campaignData_eq {call : Call} {campaign : CampaignData}
    (h : Flagged env call w next campaign) : next.storage.campaignData = some campaign := by
  obtain ⟨frozen, blocked, hflagged⟩ := call.flagged_eq w.storage
  rw [h.storage, hflagged]
  exact h.found

/-- An amendment leaves the record it asks for. -/
theorem Amended.campaignData_eq {call : Call} {campaign : CampaignData}
    (h : Amended env call w next campaign) :
    next.storage.campaignData = some (call.amended env campaign) := by
  obtain ⟨report, -, hstorage⟩ := h.storage
  rw [hstorage]

end CampaignContract

/-! ### The campaign record along a step -/

/-- The two calls that conclude the campaign. -/
def Call.concludes : Call → Bool
  | .endCampaign | .cancelCampaign => true
  | _ => false

def Call.cancels : Call → Bool
  | .cancelCampaign => true
  | _ => false

theorem Call.concludes_of_cancels {call : Call} (h : call.cancels = true) :
    call.concludes = true := by
  cases call with
  | cancelCampaign => rfl
  | _ => exact absurd h Bool.false_ne_true

theorem Call.concludes_of_writesFlags {call : Call} (h : call.writesFlags = true) :
    call.concludes = false := by
  cases call with
  | endCampaign | cancelCampaign => exact absurd h Bool.false_ne_true
  | _ => rfl

/-- What a successful action does to the campaign record. -/
inductive RecordStep (host : Host) : Action → World → World → Prop
  | kept {action : Action} {w next : World} (call : action.invokes Call.concludes = false)
      (same : next.storage.campaignData = w.storage.campaignData) : RecordStep host action w next
  | created {inv : Invocation} {w next : World} {creator : Address} {goalAmount : ℤ}
      {endTime : ℕ} {acceptedAssets : List StellarAsset} {milestones : List MilestoneData}
      {minDonationAmount : ℤ} (typed : inv.WellTyped)
      (call : inv.call = .initializeCampaign creator goalAmount endTime acceptedAssets milestones
        minDonationAmount) (fresh : w.storage.campaignData = none)
      (left : next.storage.campaignData = some (CampaignContract.initialCampaign (inv.env host)
        creator goalAmount endTime acceptedAssets milestones minDonationAmount)) :
      RecordStep host (.invoke inv) w next
  | donated {inv : Invocation} {w next : World} {campaign : CampaignData} {amount : ℤ}
      (call : inv.call.isDonation = true) (found : w.storage.campaignData = some campaign)
      (accepts : campaign.status.isTerminal = false)
      (left : next.storage.campaignData =
        some (campaign.withRaised (campaign.raisedAmount + amount))) :
      RecordStep host (.invoke inv) w next
  | amended {inv : Invocation} {w next : World} {campaign : CampaignData} (typed : inv.WellTyped)
      (h : CampaignContract.Amended (inv.env host) inv.call w next campaign) :
      RecordStep host (.invoke inv) w next

/-- With standard tokens, every successful action treats the campaign record in one of these
ways. -/
theorem recordStep_of_exec {contract : Address} {overflowChecks : Bool} {action : Action}
    {w next : World} (huntouched : Untouched w.storage)
    (h : (chain (standardHost contract overflowChecks)).exec action w = .ok next) :
    RecordStep (standardHost contract overflowChecks) action w next := by
  cases step_of_exec huntouched h with
  | transferred _ _ hstorage => exact .kept rfl (by rw [hstorage])
  | initialized htyped hcall _ hinit =>
    obtain ⟨report, hstorage⟩ := hinit.storage
    exact .created htyped hcall hinit.fresh (by rw [hstorage])
  | donated _ hcall hdonated =>
    exact .donated (by rw [hcall]; rfl) hdonated.found hdonated.isTerminal_eq hdonated.campaignData
  | claimed _ hcall hclaimed =>
    obtain ⟨report, -, hstorage⟩ := hclaimed.storage
    exact .kept (Action.invokes_of_call hcall _) (by rw [hstorage])
  | released _ hcall hreleased | multiReleased _ hcall hreleased =>
    obtain ⟨report, -, hstorage⟩ := hreleased.storage
    exact .kept (Action.invokes_of_call hcall _) (by rw [hstorage])
  | administered htyped hadministrative _ =>
    obtain ⟨campaign, hflagged | hamended⟩ :=
      CampaignContract.flagged_or_amended hadministrative (exec_invoke_eq_ok_iff.mp h).2
    · exact .kept (Call.concludes_of_writesFlags hflagged.call_flags)
        (hflagged.campaignData_eq.trans hflagged.found.symm)
    · exact .amended htyped hamended

end OrbitChain.Campaign
