import OrbitChain.Campaign.Host
import Mathlib.Data.List.Chain

/-!
# Validation and asset resolution

The checks of `validation.rs` and `asset_auth.rs`: which assets a campaign accepts and to which
token contract an asset resolves, what a schedule of milestones must satisfy at initialization,
which status transitions the life cycle entrypoints allow, and who may claim a refund.

The early guard `assertAssetIsAccepted` and the later resolution `getTokenAddressForAsset` read
the accepted list independently. A resolved token is always the issuer of an accepted entry
(`mem_issuers_of_resolved`).
-/

set_option autoImplicit false
set_option relaxedAutoImplicit false

namespace OrbitChain.Campaign

open Foundations

/-- Seconds after the campaign's end time during which refunds are paid: 30 days. -/
def refundWindow : ℕ := 30 * 24 * 60 * 60

/-! ### Assets -/

/-- The asset is in the accepted list. -/
def isAssetInList (asset : AssetInfo) (campaign : CampaignData) : Bool :=
  match asset with
  | .stellar address => campaign.acceptedAssets.any fun a ↦ a.issuer = some address
  | .native => campaign.acceptedAssets.any fun a ↦ a.assetCode = "XLM" ∧ a.issuer.isSome

/-- The early guard of `donate`. -/
def assertAssetIsAccepted (asset : AssetInfo) (campaign : CampaignData) : Except Failure Unit :=
  failIf (isAssetInList asset campaign = false) (.contract .assetNotAccepted)

/-- The view of the accepted list. -/
def isAssetAccepted (s : Storage) (asset : AssetInfo) : Bool :=
  match s.getCampaign with
  | some campaign => isAssetInList asset campaign
  | none => false

/-- The token contract of an asset. The native asset is the first entry with code `XLM`, whether
or not that entry has an issuer. -/
def getTokenAddressForAsset (asset : AssetInfo) (campaign : CampaignData) :
    Except Failure Address :=
  match asset with
  | .stellar address => do
    failIf (¬ campaign.acceptedAssets.any fun a ↦ a.issuer = some address)
      (.contract .assetNotAccepted)
    pure address
  | .native =>
    orFail ((campaign.acceptedAssets.find? fun a ↦ a.assetCode = "XLM").bind StellarAsset.issuer)
      (.contract .assetNotAccepted)

/-- The asset code published with a donation. -/
def resolveAssetCode (asset : AssetInfo) (campaign : CampaignData) : String :=
  match asset with
  | .native => "XLM"
  | .stellar address =>
    ((campaign.acceptedAssets.find? fun a ↦ a.issuer = some address).map
      StellarAsset.assetCode).getD "UNKNOWN"

theorem mem_issuers_iff {campaign : CampaignData} {token : Address} :
    token ∈ campaign.issuers ↔ ∃ a ∈ campaign.acceptedAssets, a.issuer = some token := by
  simp [CampaignData.issuers]

/-- A donation is booked under the issuer of an accepted entry. -/
theorem mem_issuers_of_resolved {asset : AssetInfo} {campaign : CampaignData} {token : Address}
    (h : getTokenAddressForAsset asset campaign = .ok token) : token ∈ campaign.issuers := by
  rw [mem_issuers_iff]
  cases asset with
  | native =>
    simp only [getTokenAddressForAsset, orFail_eq_ok_iff, Option.bind_eq_some_iff] at h
    obtain ⟨a, hfind, hissuer⟩ := h
    exact ⟨a, List.mem_of_find?_eq_some hfind, hissuer⟩
  | stellar address =>
    simp only [getTokenAddressForAsset, bind_eq_ok_iff, failIf_eq_ok_iff, not_not,
      pure_eq_ok_iff, List.any_eq_true, decide_eq_true_eq] at h
    obtain ⟨_, haccepted, rfl⟩ := h
    exact haccepted

/-! ### Initialization -/

/-- Every accepted asset has a code. -/
def validateAssets (assets : List StellarAsset) : Except Failure Unit :=
  failIf (assets.any fun a ↦ a.assetCode = "") (.contract .invalidAssetCode)

/-- Targets are strictly ascending and the last one is the goal. Statuses, released amounts and
the sign of the first target are not looked at. -/
def validateMilestones (milestones : List MilestoneData) (goalAmount : ℤ) :
    Except Failure Unit := do
  failIf (¬ milestones.IsChain fun prev current ↦ prev.targetAmount < current.targetAmount)
    (.contract .invalidMilestones)
  match milestones.getLast? with
  | some last => failIf (last.targetAmount ≠ goalAmount) (.contract .milestoneMismatch)
  | none => .error (.contract .invalidMilestones)

/-- A schedule that passes validation. -/
structure ValidSchedule (milestones : List MilestoneData) (goalAmount : ℤ) : Prop where
  ascending : milestones.Pairwise fun m later ↦ m.targetAmount < later.targetAmount
  last : ∃ m, milestones.getLast? = some m ∧ m.targetAmount = goalAmount

theorem validateMilestones_eq_ok_iff {milestones : List MilestoneData} {goalAmount : ℤ}
    {u : Unit} :
    validateMilestones milestones goalAmount = .ok u ↔ ValidSchedule milestones goalAmount := by
  have htrans : IsTrans MilestoneData fun m later ↦ m.targetAmount < later.targetAmount :=
    ⟨fun _ _ _ ↦ lt_trans⟩
  have hvalid : ValidSchedule milestones goalAmount ↔
      (milestones.IsChain fun m later ↦ m.targetAmount < later.targetAmount) ∧
        ∃ m, milestones.getLast? = some m ∧ m.targetAmount = goalAmount := by
    rw [List.isChain_iff_pairwise]
    exact ⟨fun h ↦ ⟨h.1, h.2⟩, fun h ↦ ⟨h.1, h.2⟩⟩
  rw [hvalid]
  simp only [validateMilestones, bind_eq_ok_iff, failIf_eq_ok_iff, not_not, exists_and_left,
    exists_const]
  refine and_congr_right fun _ ↦ ?_
  cases hlast : milestones.getLast? <;> simp

/-! ### Life cycle and refunds -/

/-- The transitions the life cycle entrypoints allow. -/
def validateCampaignTransition (current next : CampaignStatus) : Except Failure Unit :=
  match current, next with
  | .active, .goalReached | .active, .ended | .active, .cancelled => .ok ()
  | .goalReached, .ended | .goalReached, .cancelled => .ok ()
  | .ended, .cancelled => .ok ()
  | _, _ => .error (.contract .invalidCampaignTransition)

/-- Some milestone of the schedule has been released. -/
def anyMilestoneReleased (s : Storage) (milestoneCount : ℕ) : Bool :=
  (List.range milestoneCount).any fun i ↦ (s.getMilestone i).any fun m ↦ m.status = .released

/-- The status part of the refund policy. -/
def checkRefundStatus (s : Storage) (campaign : CampaignData) : Except Failure Unit := do
  failIf (campaign.status.isTerminal = false) (.contract .refundNotPermitted)
  match campaign.status with
  | .cancelled => pure ()
  | .ended =>
    failIf (anyMilestoneReleased s campaign.milestoneCount = true) (.contract .refundNotPermitted)
  | _ => .error (.contract .refundNotPermitted)

/-- The refund policy. The end of the refund window is a plain sum. -/
def checkRefundEligibility (env : Env) (s : Storage) (campaign : CampaignData)
    (donorRecord : DonorRecord) : Except Failure Unit := do
  checkRefundStatus s campaign
  let closing ← uncheckedU64 env.host.overflowChecks .trap (campaign.endTime + refundWindow)
  failIf (closing < env.timestamp) (.contract .refundWindowClosed)
  failIf (donorRecord.refundClaimed = true) (.contract .refundAlreadyClaimed)

/-- Refunds are paid: the campaign is cancelled, or ended with nothing released. -/
def RefundsOpen (s : Storage) (campaign : CampaignData) : Prop :=
  campaign.status = .cancelled ∨
    campaign.status = .ended ∧ anyMilestoneReleased s campaign.milestoneCount = false

/-- The refund window is open at a time, by the sum the contract computes. -/
def WithinRefundWindow (env : Env) (campaign : CampaignData) : Prop :=
  ∃ closing : ℕ, uncheckedU64 env.host.overflowChecks Failure.trap
    (campaign.endTime + refundWindow) = .ok closing ∧ env.timestamp ≤ closing

theorem checkRefundStatus_eq_ok_iff {s : Storage} {campaign : CampaignData} {u : Unit} :
    checkRefundStatus s campaign = .ok u ↔ RefundsOpen s campaign := by
  unfold checkRefundStatus RefundsOpen
  cases campaign.status <;> simp [CampaignStatus.isTerminal]

theorem checkRefundEligibility_eq_ok_iff {env : Env} {s : Storage} {campaign : CampaignData}
    {record : DonorRecord} {u : Unit} :
    checkRefundEligibility env s campaign record = .ok u ↔
      RefundsOpen s campaign ∧ WithinRefundWindow env campaign ∧
        record.refundClaimed = false := by
  simp only [checkRefundEligibility, bind_eq_ok_iff, checkRefundStatus_eq_ok_iff,
    failIf_eq_ok_iff, not_lt, Bool.not_eq_true, WithinRefundWindow]
  constructor
  · rintro ⟨_, hopen, closing, hclosing, _, htime, hclaimed⟩
    exact ⟨hopen, ⟨closing, hclosing, htime⟩, hclaimed⟩
  · rintro ⟨hopen, ⟨closing, hclosing, htime⟩, hclaimed⟩
    exact ⟨(), hopen, closing, hclosing, (), htime, hclaimed⟩

/-- When the end of the window is representable, the window is what it says. -/
theorem withinRefundWindow_iff {env : Env} {campaign : CampaignData}
    (hrange : campaign.endTime + refundWindow ≤ u64Max) :
    WithinRefundWindow env campaign ↔ env.timestamp ≤ campaign.endTime + refundWindow := by
  unfold WithinRefundWindow
  rw [uncheckedU64_of_le hrange]
  simp

end OrbitChain.Campaign
