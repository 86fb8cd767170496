import OrbitChain.Campaign.Validation
import OrbitChain.Foundations.ProportionalShares

/-!
# Reports and the refund formula

The helpers of `reports.rs`. A refund is the donor's share of what was not released, truncated,
and raised to one unit when it would round to nothing (`calculateRefundAmount`). The report of a
campaign can be built when its progress can be computed (`CampaignData.Reportable`); it is rebuilt
and stored at the end of every entrypoint that changes one of its fields.
-/

set_option autoImplicit false
set_option relaxedAutoImplicit false

namespace OrbitChain.Campaign

open Foundations

/-! ### Refund formula -/

/-- A donor's refund in one token, with the anti-dust floor of one unit. -/
def calculateRefundAmount (donorAssetAmount refundNumerator refundDenominator : ℤ) :
    Except Failure ℤ := do
  failIf (refundDenominator ≤ 0) (.contract .overflow)
  let numerator ← orFail (checkedI128 (donorAssetAmount * refundNumerator)) (.contract .overflow)
  let refund := numerator.tdiv refundDenominator
  pure (if refund = 0 ∧ 0 < numerator then 1 else refund)

theorem calculateRefundAmount_eq_ok_iff {amount numerator denominator refund : ℤ} :
    calculateRefundAmount amount numerator denominator = .ok refund ↔
      0 < denominator ∧ InI128 (amount * numerator) ∧
        (if (amount * numerator).tdiv denominator = 0 ∧ 0 < amount * numerator then 1
          else (amount * numerator).tdiv denominator) = refund := by
  simp only [calculateRefundAmount, bind_eq_ok_iff, failIf_eq_ok_iff, not_le, orFail_eq_ok_iff,
    checkedI128_eq_some_iff, pure_eq_ok_iff]
  constructor
  · rintro ⟨_, hden, _, ⟨hrange, rfl⟩, hrefund⟩
    exact ⟨hden, hrange, hrefund⟩
  · rintro ⟨hden, hrange, hrefund⟩
    exact ⟨(), hden, _, ⟨hrange, rfl⟩, hrefund⟩

/-- A share of something that rounds to nothing, which a refund raises to one unit. -/
def IsDust (amount numerator denominator : ℤ) : Prop :=
  0 < amount * numerator ∧ amount * numerator < denominator

instance (amount numerator denominator : ℤ) : Decidable (IsDust amount numerator denominator) :=
  inferInstanceAs (Decidable (_ ∧ _))

/-- A refund is the donor's share, and one unit where the share is dust. -/
theorem calculateRefundAmount_eq {amount numerator denominator : ℤ} (hden : 0 < denominator)
    (hnonneg : 0 ≤ amount * numerator) (hrange : InI128 (amount * numerator)) :
    calculateRefundAmount amount numerator denominator =
      .ok (share amount numerator denominator +
        if IsDust amount numerator denominator then 1 else 0) := by
  rw [calculateRefundAmount_eq_ok_iff]
  refine ⟨hden, hrange, ?_⟩
  rw [Int.tdiv_eq_ediv_of_nonneg hnonneg, share]
  by_cases hdust : IsDust amount numerator denominator
  · rw [Int.ediv_eq_zero_of_lt hnonneg hdust.2, if_pos ⟨rfl, hdust.1⟩, if_pos hdust, zero_add]
  · rw [if_neg hdust, add_zero, if_neg]
    rintro ⟨hzero, hpos⟩
    refine hdust ⟨hpos, ?_⟩
    by_contra hge
    have hone : 1 ≤ amount * numerator / denominator := by
      rw [Int.le_ediv_iff_mul_le hden, one_mul]
      exact not_lt.mp hge
    omega

/-- A refund is at most what the donor gave, as long as no negative amount was released. -/
theorem refund_le_amount {amount numerator denominator refund : ℤ}
    (h : calculateRefundAmount amount numerator denominator = .ok refund)
    (hamount : 0 < amount) (hle : numerator ≤ denominator) : refund ≤ amount := by
  obtain ⟨hden, -, rfl⟩ := calculateRefundAmount_eq_ok_iff.mp h
  rcases le_or_gt 0 numerator with hnum | hnum
  · have hshare : amount * numerator / denominator ≤ amount :=
      share_le_self hamount.le hden hle
    rw [Int.tdiv_eq_ediv_of_nonneg (mul_nonneg hamount.le hnum)]
    split_ifs <;> omega
  · have hneg : amount * numerator < 0 := mul_neg_of_pos_of_neg hamount hnum
    have hquot : 0 ≤ (-(amount * numerator)).tdiv denominator :=
      Int.tdiv_nonneg (neg_nonneg.mpr hneg.le) hden.le
    rw [Int.neg_tdiv] at hquot
    rw [if_neg fun hdust ↦ hneg.not_gt hdust.2]
    omega

/-- The refunds of a campaign that returns `unreleased` units of all it raised are within what
each donor gave, and fall short of what is returned by less than one unit for each donor; they
exceed it by at most one unit for each donor whose share is dust. -/
theorem refunds_sum_bounds {amounts : List ℤ} {unreleased : ℤ} (hdonors : amounts ≠ [])
    (hpos : ∀ amount ∈ amounts, 0 < amount) (hnonneg : 0 ≤ unreleased)
    (hle : unreleased ≤ amounts.sum) (hrange : ∀ amount ∈ amounts, InI128 (amount * unreleased)) :
    ∃ refunds : List ℤ,
      List.Forall₂ (fun amount refund ↦
        calculateRefundAmount amount unreleased amounts.sum = .ok refund ∧
          0 ≤ refund ∧ refund ≤ amount) amounts refunds ∧
      unreleased - amounts.length < refunds.sum ∧
      refunds.sum ≤
        unreleased + amounts.countP fun amount ↦ IsDust amount unreleased amounts.sum := by
  have hwhole : 0 < amounts.sum := List.sum_pos amounts hpos hdonors
  have hlower : unreleased - amounts.length < _ := sub_length_lt_sum_map_share hwhole
  have hupper : _ ≤ unreleased := sum_map_share_le hwhole
  refine ⟨amounts.map fun amount ↦ share amount unreleased amounts.sum +
    if IsDust amount unreleased amounts.sum then 1 else 0, ?_, ?_⟩
  · rw [List.forall₂_map_right_iff, List.forall₂_same]
    intro amount hmem
    have hproduct := mul_nonneg (hpos amount hmem).le hnonneg
    have hrefund := calculateRefundAmount_eq hwhole hproduct (hrange amount hmem)
    refine ⟨hrefund, ?_, refund_le_amount hrefund (hpos amount hmem) hle⟩
    have hshare := share_nonneg (hpos amount hmem).le hnonneg hwhole
    split_ifs <;> omega
  · rw [List.sum_map_add, sum_map_boole fun amount ↦ IsDust amount unreleased amounts.sum]
    constructor <;> omega

/-- A share that is dust and one that is not: four of seven units come back as one and three. -/
theorem refunds_sum_bounds_partlyReleased :
    ∃ refunds : List ℤ,
      List.Forall₂ (fun amount refund ↦
        calculateRefundAmount amount 4 7 = .ok refund ∧ 0 ≤ refund ∧ refund ≤ amount)
        [1, 6] refunds ∧
      4 - 2 < refunds.sum ∧ refunds.sum ≤ 4 + 1 :=
  @refunds_sum_bounds [1, 6] 4 (by decide) (by decide) (by decide) (by decide) (by decide)

/-- Three donors of one unit each, and one unit left to return: all three are paid one. -/
theorem refunds_exceed_unreleased :
    (∀ amount ∈ [1, 1, 1], 0 < amount ∧ InI128 (amount * 1)) ∧
      (0 : ℤ) ≤ 1 ∧ (1 : ℤ) ≤ [1, 1, 1].sum ∧
      List.Forall₂ (fun amount refund ↦
        calculateRefundAmount amount 1 [1, 1, 1].sum = .ok refund) [1, 1, 1] [1, 1, 1] ∧
      ¬ ([1, 1, 1] : List ℤ).sum ≤ 1 := by
  decide

/-! ### Campaign report -/

/-- Funding progress in basis points. -/
def progressBps (campaign : CampaignData) : Except Failure ℕ :=
  if campaign.goalAmount ≤ 0 ∨ campaign.raisedAmount ≤ 0 then .ok 0
  else if campaign.goalAmount ≤ campaign.raisedAmount then .ok 10000
  else do
    let scaled ← orFail (checkedI128 (campaign.raisedAmount * 10000)) (.contract .overflow)
    pure ((scaled.tdiv campaign.goalAmount).toNat % 2 ^ 32)

/-- The dashboard report of a campaign and the current counters. -/
def buildCampaignReport (s : Storage) (campaign : CampaignData) :
    Except Failure CampaignReport := do
  let progress ← progressBps campaign
  pure
    { creator := campaign.creator
      goalAmount := campaign.goalAmount
      raisedAmount := campaign.raisedAmount
      remainingAmount := campaign.remaining
      progressBps := progress
      endTime := campaign.endTime
      status := campaign.status
      milestoneCount := campaign.milestoneCount
      donorCount := s.getUniqueDonorCount
      donationCount := s.getDonationCount
      releaseCount := s.getReleaseCount }

/-- Recompute and store the report. -/
def refreshReportCache (s : Storage) : Except Failure Storage :=
  match s.getCampaign with
  | some campaign => do
    let report ← buildCampaignReport s campaign
    pure (s.setCachedReport report)
  | none => .ok s

/-- The progress of the campaign can be computed. -/
def CampaignData.Reportable (campaign : CampaignData) : Prop :=
  campaign.goalAmount ≤ 0 ∨ campaign.raisedAmount ≤ 0 ∨
    campaign.goalAmount ≤ campaign.raisedAmount ∨ InI128 (campaign.raisedAmount * 10000)

theorem progressBps_isOk_iff {campaign : CampaignData} :
    (∃ progress, progressBps campaign = .ok progress) ↔ campaign.Reportable := by
  unfold progressBps CampaignData.Reportable
  split_ifs with hzero hreached
  · simpa using hzero.imp_right Or.inl
  · simp [hreached]
  · rw [not_or] at hzero
    simp only [bind_eq_ok_iff, orFail_eq_ok_iff, checkedI128_eq_some_iff, pure_eq_ok_iff, hzero,
      hreached, false_or]
    constructor
    · rintro ⟨_, _, ⟨hrange, -⟩, -⟩
      exact hrange
    · intro hrange
      exact ⟨_, _, ⟨hrange, rfl⟩, rfl⟩

/-- The report publishes the campaign's own raised amount. -/
theorem buildCampaignReport_ok {s : Storage} {campaign : CampaignData}
    (h : campaign.Reportable) :
    ∃ report, buildCampaignReport s campaign = .ok report ∧
      report.raisedAmount = campaign.raisedAmount := by
  obtain ⟨progress, hprogress⟩ := progressBps_isOk_iff.mpr h
  exact ⟨_, by simp only [buildCampaignReport, hprogress, ok_bind]; rfl, rfl⟩

/-- Refreshing the cache of an initialized contract writes the cache and nothing else. -/
theorem refreshReportCache_eq_ok_iff {s next : Storage} (campaign : CampaignData)
    (hcampaign : s.campaignData = some campaign) :
    refreshReportCache s = .ok next ↔
      ∃ report, buildCampaignReport s campaign = .ok report ∧
        next = { s with cachedReport := some report } := by
  simp only [refreshReportCache, Storage.getCampaign, hcampaign, bind_eq_ok_iff, pure_eq_ok_iff,
    Storage.setCachedReport]
  exact exists_congr fun report ↦ and_congr_right fun _ ↦ eq_comm

theorem reportable_of_report {s : Storage} {campaign : CampaignData} {report : CampaignReport}
    (h : buildCampaignReport s campaign = .ok report) : campaign.Reportable := by
  simp only [buildCampaignReport, bind_eq_ok_iff] at h
  obtain ⟨progress, hprogress, -⟩ := h
  exact progressBps_isOk_iff.mp ⟨progress, hprogress⟩

/-! ### Published totals -/

namespace CampaignContract

/-- The `get_total_raised` view. -/
def getTotalRaised (w : World) : ℤ := w.storage.getTotalRaised

/-- The `get_campaign_report` view. -/
def getCampaignReport (w : World) : Except Failure (Option CampaignReport) :=
  match w.storage.getCampaign with
  | some campaign => do
    let report ← buildCampaignReport w.storage campaign
    pure (some report)
  | none => .ok none

/-- The `get_cached_report` view: the stored report, or a computed one when none is stored. -/
def getCachedReport (w : World) : Except Failure (Option CampaignReport) :=
  match w.storage.cachedReport with
  | some report => .ok (some report)
  | none => getCampaignReport w

end CampaignContract

end OrbitChain.Campaign
