import OrbitChain.Campaign.Contract
import OrbitChain.Core.Reports
import OrbitChain.Core.Identity

/-!
# Report arithmetic

Both contracts publish progress in basis points and what is missing to the goal, and both scale
the raised amount before they divide it. The campaign contract scales with a checked operation, so
the report of a raised amount that cannot be scaled is an error; as every donation ends by
refreshing the cached report, that error also rejects the donation. The core contract scales with
a plain operator.

`reportArithmetic_iff` is the common condition: the raised amount is not negative, and it reaches
the goal or can be scaled.
-/

set_option autoImplicit false
set_option relaxedAutoImplicit false

namespace OrbitChain.Campaign

open Foundations
open OrbitChain.Core (ProgressFigures ProgressRepresentable)

/-! ### The report of the campaign contract -/

section Figures

variable {campaign : CampaignData}

/-- What is missing to the goal, where the difference is representable or floored. -/
theorem remaining_eq (hgoal : InI128 campaign.goalAmount) (hraised : 0 ≤ campaign.raisedAmount) :
    campaign.remaining = max 0 (campaign.goalAmount - campaign.raisedAmount) := by
  unfold CampaignData.remaining
  by_cases hrange : InI128 (campaign.goalAmount - campaign.raisedAmount)
  · rw [checkedI128_of_inI128 hrange, Option.getD_some, max_comm]
  · -- The difference can only be too small, and then nothing is missing.
    have hneg : campaign.goalAmount - campaign.raisedAmount ≤ 0 := by
      by_contra hmissing
      exact hrange (.of_between inI128_zero hgoal (by omega) (by omega))
    rw [checkedI128, if_neg hrange, Option.getD_none, max_self, max_eq_left hneg]

/-- With something to reach and nothing lost, a report can be built where progress is
representable. -/
theorem reportable_iff (hpos : 0 < campaign.goalAmount) (hraised : 0 ≤ campaign.raisedAmount) :
    campaign.Reportable ↔ ProgressRepresentable campaign.goalAmount campaign.raisedAmount := by
  unfold CampaignData.Reportable ProgressRepresentable InI128 i128Min i128Max
  omega

/-- The published progress is that of the integers, whenever it can be computed. -/
theorem progressBps_eq {progress : ℕ} (h : progressBps campaign = .ok progress)
    (hpos : 0 < campaign.goalAmount) (hraised : 0 ≤ campaign.raisedAmount) :
    (progress : ℤ) = cappedShare 10000 campaign.raisedAmount campaign.goalAmount := by
  unfold progressBps at h
  split_ifs at h with hzero hreached
  · have hnothing : campaign.raisedAmount = 0 :=
      le_antisymm (hzero.resolve_left hpos.not_ge) hraised
    cases h
    rw [hnothing]
    exact (Core.progressFigures_zero hpos).progress_eq
  · cases h
    exact (Core.progressFigures_reached hpos hreached).progress_eq
  · simp only [bind_eq_ok_iff, orFail_eq_ok_iff, checkedI128_eq_some_iff, pure_eq_ok_iff] at h
    obtain ⟨_, ⟨-, rfl⟩, rfl⟩ := h
    exact (Core.share_toNat_mod hpos hraised (not_le.mp hreached)).2

/-- The report is built with the figures of the integers exactly where they are representable. -/
theorem buildCampaignReport_figures_iff {s : Storage} (hpos : 0 < campaign.goalAmount)
    (hgoal : InI128 campaign.goalAmount) :
    (∃ report, buildCampaignReport s campaign = .ok report ∧
        ProgressFigures campaign.goalAmount campaign.raisedAmount report.progressBps
          report.remainingAmount) ↔
      ProgressRepresentable campaign.goalAmount campaign.raisedAmount := by
  simp only [buildCampaignReport, bind_eq_ok_iff, pure_eq_ok_iff]
  constructor
  · rintro ⟨_, ⟨progress, hprogress, rfl⟩, hfigures⟩
    have hraised : 0 ≤ campaign.raisedAmount :=
      not_lt.mp fun hneg ↦ Core.not_progressFigures_of_neg hpos hneg _ _ hfigures
    exact (reportable_iff hpos hraised).mp (progressBps_isOk_iff.mp ⟨progress, hprogress⟩)
  · intro h
    obtain ⟨progress, hprogress⟩ := progressBps_isOk_iff.mpr ((reportable_iff hpos h.1).mpr h)
    refine ⟨_, ⟨progress, hprogress, rfl⟩, ?_, ?_⟩
    · exact progressBps_eq hprogress hpos h.1
    · exact remaining_eq hgoal h.1

end Figures

/-! ### Donations that fail for their report -/

/-- Every check of a donation but the last one, which is whether the report can be built. -/
structure PassesOtherChecks (env : Env) (donor : Address) (amount : ℤ) (asset : AssetInfo)
    (w : World) (campaign : CampaignData) (token : Address) : Prop where
  lock_free : w.storage.reentrancyLock = false
  found : w.storage.campaignData = some campaign
  accepted : isAssetInList asset campaign = true
  authorised : env.Authorised donor
  not_frozen : w.storage.isFrozen = false
  accepts : campaign.status.acceptsDonations = true
  amount_pos : 0 < amount
  minimum : ¬ (0 < campaign.minDonationAmount ∧ amount < campaign.minDonationAmount)
  raised_range : InI128 (campaign.raisedAmount + amount)
  total_range : InI128 (w.storage.getTotalRaised + amount)
  total_nonneg : 0 ≤ w.storage.getTotalRaised + amount
  resolved : getTokenAddressForAsset asset campaign = .ok token
  not_blocked : w.storage.isAssetBlocked token = false
  asset_range : InI128 (w.storage.getAssetRaised token + amount)
  asset_nonneg : 0 ≤ w.storage.getAssetRaised token + amount
  pair_range : InI128 (w.storage.getDonorAssetDonation donor token + amount)
  donor_range :
    InI128 (((w.storage.donorData donor).getD (.newFor donor asset)).totalDonated + amount)
  donor_count :
    ((w.storage.donorData donor).getD (.newFor donor asset)).donationCount + 1 ≤ u32Max
  count_range : w.storage.getDonationCount + 1 ≤ u64Max
  unique_range : (w.storage.donorData donor).isNone = true →
    w.storage.getUniqueDonorCount + 1 ≤ u32Max

section Donations

variable {env : Env} {donor : Address} {amount : ℤ} {asset : AssetInfo} {w : World}
  {campaign : CampaignData} {token : Address}

theorem PassesOtherChecks.donatable (h : PassesOtherChecks env donor amount asset w campaign token)
    (hreport : (campaign.withRaised (campaign.raisedAmount + amount)).Reportable) :
    CampaignContract.Donatable env donor amount asset w campaign token where
  lock_free := h.lock_free
  found := h.found
  accepted := h.accepted
  authorised := h.authorised
  not_frozen := h.not_frozen
  accepts := h.accepts
  amount_pos := h.amount_pos
  minimum := h.minimum
  raised_range := h.raised_range
  total_range := h.total_range
  total_nonneg := h.total_nonneg
  resolved := h.resolved
  not_blocked := h.not_blocked
  asset_range := h.asset_range
  asset_nonneg := h.asset_nonneg
  pair_range := h.pair_range
  donor_range := h.donor_range
  donor_count := h.donor_count
  count_range := h.count_range
  unique_range := h.unique_range
  reportable := hreport

/-- A donation that passes every other check succeeds exactly when the report it leaves can be
built. -/
theorem PassesOtherChecks.donate_isOk_iff
    (h : PassesOtherChecks env donor amount asset w campaign token) :
    (∃ next, CampaignContract.donate env donor amount asset w = .ok next) ↔
      (campaign.withRaised (campaign.raisedAmount + amount)).Reportable := by
  rw [CampaignContract.donate_isOk_iff]
  constructor
  · rintro ⟨campaign', _, hchecks⟩
    obtain rfl : campaign = campaign' := Option.some.inj (h.found.symm.trans hchecks.found)
    exact hchecks.reportable
  · intro hreport
    exact ⟨campaign, token, h.donatable hreport⟩

end Donations

/-! ### The law -/

/-- The arithmetic of the reports of a goal and a raised amount: both contracts publish the
figures of the integers, which say full progress exactly at the goal and do not fall when more is
raised, and no donation that leads to this raised amount is rejected for its report. -/
structure ReportArithmetic (goal raised : ℤ) : Prop where
  campaign_report : ∀ (s : Storage) (campaign : CampaignData), campaign.goalAmount = goal →
    campaign.raisedAmount = raised → ∃ report, buildCampaignReport s campaign = .ok report ∧
      ProgressFigures goal raised report.progressBps report.remainingAmount
  core_report : ∀ (overflowChecks : Bool) (s : Core.Storage) (id : ℕ) (campaign : Core.Campaign),
    s.campaign id = some campaign → campaign.goal = goal → campaign.raised = raised →
      ∃ report, s.getCampaignReport overflowChecks id = .ok (some report) ∧
        ProgressFigures goal raised report.progressBps report.remaining
  full_iff : ∀ (progress : ℕ) (remaining : ℤ), ProgressFigures goal raised progress remaining →
    (progress = 10000 ↔ goal ≤ raised)
  monotone : ∀ lower ≤ raised, ∀ (progress progress' : ℕ) (remaining remaining' : ℤ),
    ProgressFigures goal lower progress remaining →
      ProgressFigures goal raised progress' remaining' → progress ≤ progress'
  donation : ∀ (env : Env) (donor : Address) (amount : ℤ) (asset : AssetInfo) (w : World)
    (campaign : CampaignData) (token : Address),
    PassesOtherChecks env donor amount asset w campaign token → campaign.goalAmount = goal →
      campaign.raisedAmount + amount = raised →
        ∃ next, CampaignContract.donate env donor amount asset w = .ok next

/-- The core view publishes the figures of a stored campaign exactly where they are
representable. -/
theorem coreReport_figures {overflowChecks : Bool} {s : Core.Storage} {id : ℕ}
    {campaign : Core.Campaign} (hfound : s.campaign id = some campaign)
    (hpos : 0 < campaign.goal) (hgoal : InI128 campaign.goal)
    (h : ProgressRepresentable campaign.goal campaign.raised) :
    ∃ report, s.getCampaignReport overflowChecks id = .ok (some report) ∧
      ProgressFigures campaign.goal campaign.raised report.progressBps report.remaining := by
  obtain ⟨progress, hprogress, hfigures⟩ := (Core.fundingProgress_figures_iff hpos hgoal).mpr h
  simp only [Core.Storage.getCampaignReport, hfound, bind_eq_ok_iff, pure_eq_ok_iff,
    Option.some.injEq]
  exact ⟨_, ⟨progress, hprogress, rfl⟩, hfigures⟩

/-- The law asks for figures that are representable. -/
theorem ReportArithmetic.representable {goal raised : ℤ} (h : ReportArithmetic goal raised)
    (hpos : 0 < goal) (hgoal : InI128 goal) : ProgressRepresentable goal raised := by
  let campaign : CampaignData := ⟨.account 0, goal, raised, 0, .active, [], 0, 0, 0, 0, none⟩
  have hreport := h.campaign_report .empty campaign rfl rfl
  exact (@buildCampaignReport_figures_iff campaign _ hpos hgoal).mp hreport

/-- The law holds of a goal and a raised amount exactly when the raised amount is not negative
and reaches the goal or can be scaled. -/
theorem reportArithmetic_iff {goal : ℤ} (hpos : 0 < goal) (hgoal : InI128 goal) (raised : ℤ) :
    ReportArithmetic goal raised ↔ 0 ≤ raised ∧ (goal ≤ raised ∨ raised * 10000 ≤ i128Max) := by
  change _ ↔ ProgressRepresentable goal raised
  constructor
  · exact fun h ↦ h.representable hpos hgoal
  · intro h
    refine ⟨?_, ?_, ?_, ?_, ?_⟩
    · rintro s campaign rfl rfl
      exact (buildCampaignReport_figures_iff hpos hgoal).mpr h
    · rintro overflowChecks s id campaign hfound rfl rfl
      exact coreReport_figures hfound hpos hgoal h
    · intro progress remaining hfigures
      have hfull : cappedShare 10000 raised goal = 10000 ↔ goal ≤ raised :=
        cappedShare_eq_scale_iff (by decide) hpos
      rw [← hfull, ← hfigures.progress_eq]
      omega
    · intro lower hlower progress progress' remaining remaining' hfigures hfigures'
      have hmono : cappedShare 10000 lower goal ≤ cappedShare 10000 raised goal :=
        cappedShare_mono (by decide) hpos hlower
      rw [← hfigures.progress_eq, ← hfigures'.progress_eq] at hmono
      omega
    · rintro env donor amount asset w campaign token hchecks rfl rfl
      apply hchecks.donate_isOk_iff.mpr
      exact (@reportable_iff (campaign.withRaised (campaign.raisedAmount + amount)) hpos h.1).mpr h

section Examples

open Sample

/-- Half of a goal of a thousand. -/
theorem reportArithmetic_iff_half : ReportArithmetic 1000 500 :=
  (reportArithmetic_iff (by decide) (by decide) 500).mpr (by decide)

/-- A campaign with the largest goal there is. -/
def hugeGoal : World := reached [opening [⟨"TOK", some token⟩] [milestone i128Max] i128Max]

/-- A donation of half of it. -/
def hugeDonation : Invocation :=
  ⟨20, 2, [donor], .donate donor (2 ^ 126) (.stellar token)⟩

/-- A campaign of the core contract with the largest goal, half of it raised. -/
def hugeCoreCalls : List Core.Invocation :=
  [⟨0, [Core.Sample.alice], .createCampaign Core.Sample.alice "wells" i128Max 10⟩,
    ⟨0, [Core.Sample.alice], .donate Core.Sample.alice 1 (2 ^ 126 + 100) "XLM" ""⟩]

/-- With the largest goal, a donation of half of it passes every other check and is rejected. The
core contract takes one and publishes no progress in a build that wraps, and fails to answer in
one that traps. -/
theorem huge_donation_rejected :
    (∃ campaign, PassesOtherChecks (hugeDonation.env (standardHost contract true)) donor (2 ^ 126)
        (.stellar token) hugeGoal campaign token) ∧
    (chain (standardHost contract true)).exec (.invoke hugeDonation) hugeGoal =
      .error (.contract .overflow) ∧
    (∃ report, (((Core.chain false).replay hugeCoreCalls .deployed).2.storage.getCampaignReport
        false 1) = .ok (some report) ∧ report.goal = i128Max ∧ report.raised = 2 ^ 126 ∧
      report.progressBps = 0) ∧
    (((Core.chain true).replay hugeCoreCalls .deployed).2.storage.getCampaignReport true 1) =
      .error .trap ∧
    cappedShare 10000 (2 ^ 126) i128Max = 5000 ∧ ¬ ReportArithmetic i128Max (2 ^ 126) := by
  refine ⟨⟨⟨creator, i128Max, 0, 1000, .active, [⟨"TOK", some token⟩], 1, 0, 2, 20, none⟩, ?_⟩,
    ?_, ?_, ?_, by decide +kernel, ?_⟩
  · constructor
    case resolved => rfl
    all_goals decide +kernel
  · rfl
  · exact ⟨_, rfl, rfl, rfl, rfl⟩
  · rfl
  · intro h
    exact absurd (h.representable (by decide) (by decide)) (by decide +kernel)

end Examples

end OrbitChain.Campaign
