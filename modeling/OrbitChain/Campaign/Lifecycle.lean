import OrbitChain.Campaign.Reports

/-!
# Life cycle and administration

The entrypoints of the creator that move no funds: ending, cancelling and extending the campaign,
upgrading and freezing the contract, blocking assets; and the storage maintenance anyone may
call. Ending and cancelling are one action with different targets (`conclude`); freezing and
blocking are one action with different writes (`administer`).

`Administered` is what they all have in common: besides flags, the report and the code hash they
touch at most the status, the conclusion and the end time of the campaign record.
-/

set_option autoImplicit false
set_option relaxedAutoImplicit false

namespace OrbitChain.Campaign

open Foundations

/-- Longest gap between the ledger time and an extended deadline: ten years. -/
def maxDeadlineGapSeconds : ℕ := 10 * 365 * 24 * 60 * 60

namespace CampaignContract

/-- Store the report of the campaign a step left. -/
def withReport (w : World) : Except Failure World := do
  let s ← refreshReportCache w.storage
  pure { w with storage := s }

/-! ### Concluding and extending -/

/-- Move the campaign to a terminal status. -/
def conclude (env : Env) (status : CampaignStatus) (event : Address → Event) (w : World) :
    Except Failure World := do
  let campaign ← orFail w.storage.getCampaign (.contract .notInitialized)
  env.requireAuth campaign.creator
  failIf (w.storage.isFrozen = true) (.contract .contractFrozen)
  validateCampaignTransition campaign.status status
  let s := w.storage.setCampaign
    { campaign with status := status, concludedAtLedger := some env.sequence }
  withReport (w.commit s [event campaign.creator])

/-- End the campaign. -/
def endCampaign (env : Env) (w : World) : Except Failure World :=
  conclude env .ended (fun _ ↦ .campaignEnded) w

/-- Cancel the campaign. -/
def cancelCampaign (env : Env) (w : World) : Except Failure World :=
  conclude env .cancelled (fun creator ↦ .campaignCancelled creator) w

/-- Move the deadline of an open campaign. -/
def extendDeadline (env : Env) (newEndTime : ℕ) (w : World) : Except Failure World := do
  let campaign ← orFail w.storage.getCampaign (.contract .notInitialized)
  env.requireAuth campaign.creator
  failIf (w.storage.isFrozen = true) (.contract .contractFrozen)
  failIf (campaign.status.acceptsDonations = false) (.contract .invalidCampaignTransition)
  failIf (newEndTime ≤ env.timestamp ∨
    min (env.timestamp + maxDeadlineGapSeconds) u64Max < newEndTime) (.contract .invalidEndTime)
  let s := w.storage.setCampaign { campaign with endTime := newEndTime }
  withReport (w.commit s [.deadlineExtended campaign.creator campaign.endTime newEndTime])

/-! ### Administration -/

/-- Replace the contract's code. -/
def upgrade (env : Env) (newWasmHash : BitVec 256) (w : World) : Except Failure World := do
  let campaign ← orFail w.storage.getCampaign (.contract .notInitialized)
  env.requireAuth campaign.creator
  failIf (w.storage.isFrozen = true) (.contract .contractFrozen)
  let w := { w with wasmHash := newWasmHash }
  pure (w.publish (.contractUpgraded campaign.creator newWasmHash env.timestamp))

/-- A write the creator may make at any time. -/
def administer (env : Env) (write : Storage → Storage) (event : Address → Event) (w : World) :
    Except Failure World := do
  let campaign ← orFail w.storage.getCampaign (.contract .notInitialized)
  env.requireAuth campaign.creator
  pure (w.commit (write w.storage) [event campaign.creator])

def freeze (env : Env) (w : World) : Except Failure World :=
  administer env (fun s ↦ s.setFrozen true) (fun admin ↦ .contractFrozen admin env.timestamp) w

def unfreeze (env : Env) (w : World) : Except Failure World :=
  administer env (fun s ↦ s.setFrozen false) (fun admin ↦ .contractUnfrozen admin env.timestamp) w

def blockAsset (env : Env) (asset : Address) (w : World) : Except Failure World :=
  administer env (fun s ↦ s.blockAsset asset)
    (fun admin ↦ .assetBlocked admin asset env.timestamp) w

def unblockAsset (env : Env) (asset : Address) (w : World) : Except Failure World :=
  administer env (fun s ↦ s.unblockAsset asset)
    (fun admin ↦ .assetUnblocked admin asset env.timestamp) w

/-- Extend the lifetimes of the stored entries, which changes none of them. -/
def bumpStorage (w : World) : Except Failure World := do
  let _ ← orFail w.storage.getCampaign (.contract .notInitialized)
  pure w

/-! ### What these entrypoints have in common -/

/-- A step that found a campaign and left it with a status, an end time and a conclusion. -/
structure Administered (env : Env) (w next : World) (campaign : CampaignData)
    (status : CampaignStatus) (endTime : ℕ) (concluded : Option ℕ) : Prop where
  found : w.storage.campaignData = some campaign
  storage : ∃ frozen blockedAsset cachedReport, next.storage =
    { w.storage with
      campaignData := some { campaign with
        status := status, endTime := endTime, concludedAtLedger := concluded }
      frozen := frozen
      blockedAsset := blockedAsset
      cachedReport := cachedReport }
  ledger : next.ledger = w.ledger
  status_eq : status = campaign.status ∧ concluded = campaign.concludedAtLedger ∨
    validateCampaignTransition campaign.status status = .ok () ∧ status.isTerminal = true ∧
      w.storage.isFrozen = false ∧ env.Authorised campaign.creator
  endTime_eq : endTime = campaign.endTime ∨
    campaign.status.acceptsDonations = true ∧ status = campaign.status

variable {env : Env} {w next : World}

theorem withReport_ok {campaign : CampaignData} (hcampaign : w.storage.campaignData = some campaign)
    (h : withReport w = .ok next) :
    ∃ report, next = { w with storage := { w.storage with cachedReport := some report } } := by
  simp only [withReport, bind_eq_ok_iff, pure_eq_ok_iff,
    refreshReportCache_eq_ok_iff campaign hcampaign] at h
  obtain ⟨s, ⟨report, -, rfl⟩, rfl⟩ := h
  exact ⟨report, rfl⟩

/-- A conclusion changes the status to the one asked for, by an allowed transition. -/
theorem conclude_ok {status : CampaignStatus} {event : Address → Event}
    (hterminal : status.isTerminal = true) (h : conclude env status event w = .ok next) :
    ∃ campaign, Administered env w next campaign status campaign.endTime (some env.sequence) := by
  simp only [conclude, bind_eq_ok_iff, orFail_eq_ok_iff, Env.requireAuth_eq_ok_iff,
    failIf_eq_ok_iff] at h
  obtain ⟨campaign, hcampaign, _, hauth, _, hfrozen, _, htransition, h⟩ := h
  obtain ⟨report, rfl⟩ := withReport_ok rfl h
  exact ⟨campaign,
    { found := hcampaign
      storage := ⟨_, _, _, rfl⟩
      ledger := rfl
      status_eq := .inr ⟨htransition, hterminal, eq_false_of_ne_true hfrozen, hauth⟩
      endTime_eq := .inl rfl }⟩

theorem extendDeadline_ok {newEndTime : ℕ} (h : extendDeadline env newEndTime w = .ok next) :
    ∃ campaign, Administered env w next campaign campaign.status newEndTime
      campaign.concludedAtLedger := by
  simp only [extendDeadline, bind_eq_ok_iff, orFail_eq_ok_iff, failIf_eq_ok_iff] at h
  obtain ⟨campaign, hcampaign, _, _, _, _, _, hopen, _, _, h⟩ := h
  obtain ⟨report, rfl⟩ := withReport_ok rfl h
  exact ⟨campaign,
    { found := hcampaign
      storage := ⟨_, _, _, rfl⟩
      ledger := rfl
      status_eq := .inl ⟨rfl, rfl⟩
      endTime_eq := .inr ⟨by simpa using hopen, rfl⟩ }⟩

/-- A step that writes only flags leaves the campaign record as it was. -/
theorem administered_of_flags {campaign : CampaignData}
    (hcampaign : w.storage.campaignData = some campaign) {frozen : Option Bool}
    {blocked : Address → Option Bool}
    (hstorage : next.storage = { w.storage with frozen := frozen, blockedAsset := blocked })
    (hledger : next.ledger = w.ledger) :
    Administered env w next campaign campaign.status campaign.endTime
      campaign.concludedAtLedger where
  found := hcampaign
  storage := ⟨frozen, blocked, w.storage.cachedReport, by rw [hstorage, ← hcampaign]⟩
  ledger := hledger
  status_eq := .inl ⟨rfl, rfl⟩
  endTime_eq := .inl rfl

theorem upgrade_ok {newWasmHash : BitVec 256} (h : upgrade env newWasmHash w = .ok next) :
    ∃ campaign, Administered env w next campaign campaign.status campaign.endTime
      campaign.concludedAtLedger := by
  simp only [upgrade, bind_eq_ok_iff, orFail_eq_ok_iff, pure_eq_ok_iff] at h
  obtain ⟨campaign, hcampaign, _, _, _, _, rfl⟩ := h
  exact ⟨campaign, administered_of_flags hcampaign rfl rfl⟩

theorem administer_ok {write : Storage → Storage} {event : Address → Event}
    (hwrite : ∀ s : Storage, ∃ frozen blocked,
      write s = { s with frozen := frozen, blockedAsset := blocked })
    (h : administer env write event w = .ok next) :
    ∃ campaign, Administered env w next campaign campaign.status campaign.endTime
      campaign.concludedAtLedger := by
  simp only [administer, bind_eq_ok_iff, orFail_eq_ok_iff, pure_eq_ok_iff] at h
  obtain ⟨campaign, hcampaign, _, _, rfl⟩ := h
  obtain ⟨frozen, blocked, hstorage⟩ := hwrite w.storage
  exact ⟨campaign, administered_of_flags hcampaign hstorage rfl⟩

theorem bumpStorage_ok (h : bumpStorage w = .ok next) :
    ∃ campaign, Administered env w next campaign campaign.status campaign.endTime
      campaign.concludedAtLedger := by
  simp only [bumpStorage, bind_eq_ok_iff, orFail_eq_ok_iff, pure_eq_ok_iff] at h
  obtain ⟨campaign, hcampaign, rfl⟩ := h
  exact ⟨campaign, administered_of_flags hcampaign rfl rfl⟩

end CampaignContract

end OrbitChain.Campaign
