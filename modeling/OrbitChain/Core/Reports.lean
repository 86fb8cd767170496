import OrbitChain.Core.Contract
import OrbitChain.Foundations.ProportionalShares

/-!
# The campaign report of the core contract

The `get_campaign_report` view. Progress toward the goal is published in basis points, and the
raised amount is scaled with a plain operator before it is divided by the goal. The figures are
those of the integers (`ProgressFigures`) exactly when the raised amount is not negative and
either reaches the goal or can be scaled (`ProgressRepresentable`): a build that traps publishes
nothing otherwise, and in a build that wraps the wrapped product never comes out right
(`wrapped_progress_ne`).
-/

set_option autoImplicit false
set_option relaxedAutoImplicit false

namespace OrbitChain.Core

open Foundations
open OrbitChain.Campaign (Address)

/-- The report of a campaign. -/
structure CampaignReport where
  campaignId : ℕ
  creator : Address
  title : String
  goal : ℤ
  raised : ℤ
  remaining : ℤ
  progressBps : ℕ
  deadline : ℕ
  active : Bool
  donorCount : ℕ
  donationCount : ℕ
  deriving DecidableEq

/-- Funding progress in basis points and what is missing to the goal. -/
def fundingProgress (overflowChecks : Bool) (campaign : Campaign) : Except Failure (ℕ × ℤ) :=
  if campaign.goal ≤ 0 then .ok (0, 0)
  else if campaign.goal ≤ campaign.raised then .ok (10000, 0)
  else if campaign.raised ≤ 0 then .ok (0, campaign.goal)
  else do
    let scaled ← uncheckedI128 overflowChecks .trap (campaign.raised * 10000)
    let remaining ← uncheckedI128 overflowChecks .trap (campaign.goal - campaign.raised)
    pure ((scaled.tdiv campaign.goal % 2 ^ 32).toNat, remaining)

/-- The `get_campaign_report` view. -/
def Storage.getCampaignReport (overflowChecks : Bool) (s : Storage) (campaignId : ℕ) :
    Except Failure (Option CampaignReport) :=
  match s.campaign campaignId with
  | none => .ok none
  | some campaign => do
    let progress ← fundingProgress overflowChecks campaign
    pure (some
      { campaignId := campaign.id
        creator := campaign.creator
        title := campaign.title
        goal := campaign.goal
        raised := campaign.raised
        remaining := progress.2
        progressBps := progress.1
        deadline := campaign.deadline
        active := campaign.active
        donorCount := (s.getDonors campaignId).length
        donationCount := (s.getHistory campaignId).length })

/-! ### The figures over the integers -/

/-- Progress toward a goal in basis points, rounded down and capped, and what is missing. -/
structure ProgressFigures (goal raised : ℤ) (progressBps : ℕ) (remaining : ℤ) : Prop where
  progress_eq : (progressBps : ℤ) = cappedShare 10000 raised goal
  remaining_eq : remaining = max 0 (goal - raised)

/-- The raised amount is not negative, and reaches the goal or can be scaled. -/
def ProgressRepresentable (goal raised : ℤ) : Prop :=
  0 ≤ raised ∧ (goal ≤ raised ∨ raised * 10000 ≤ i128Max)

instance (goal raised : ℤ) : Decidable (ProgressRepresentable goal raised) :=
  inferInstanceAs (Decidable (_ ∧ (_ ∨ _)))

section Figures

variable {goal raised : ℤ}

/-- Where the goal is reached. -/
theorem progressFigures_reached (hgoal : 0 < goal) (h : goal ≤ raised) :
    ProgressFigures goal raised 10000 0 where
  progress_eq := (cappedShare_of_le (by decide) hgoal h).symm
  remaining_eq := (max_eq_left (sub_nonpos.mpr h)).symm

/-- Where nothing was raised. -/
theorem progressFigures_zero (hgoal : 0 < goal) : ProgressFigures goal 0 0 goal where
  progress_eq := by
    rw [cappedShare_of_lt (by decide) hgoal hgoal, share, mul_zero, Int.zero_ediv]
    rfl
  remaining_eq := by
    rw [sub_zero]
    exact (max_eq_right hgoal.le).symm

/-- Nothing published is progress toward a goal from a negative amount. -/
theorem not_progressFigures_of_neg (hgoal : 0 < goal) (h : raised < 0) (progressBps : ℕ)
    (remaining : ℤ) : ¬ ProgressFigures goal raised progressBps remaining := by
  intro hfigures
  have hneg : cappedShare 10000 raised goal < 0 := cappedShare_neg (by decide) h hgoal
  rw [← hfigures.progress_eq] at hneg
  omega

/-- The share of ten thousand fits in 32 bits. -/
theorem share_toNat_mod (hgoal : 0 < goal) (hraised : 0 ≤ raised) (h : raised < goal) :
    (((raised * 10000).tdiv goal % 2 ^ 32).toNat : ℤ) = cappedShare 10000 raised goal ∧
      (((raised * 10000).tdiv goal).toNat % 2 ^ 32 : ℕ) = cappedShare 10000 raised goal := by
  have hshare : share 10000 raised goal < 10000 := share_lt_of_lt (by decide) hgoal h
  have hnonneg : 0 ≤ share 10000 raised goal := share_nonneg (by decide) hraised hgoal
  have hdiv : (raised * 10000).tdiv goal = share 10000 raised goal := by
    rw [share, mul_comm, Int.tdiv_eq_ediv_of_nonneg (by omega)]
  rw [hdiv, cappedShare_of_lt (by decide) hgoal h]
  omega

/-- Short of the goal, what is missing is the difference, which is representable. -/
theorem remaining_of_lt (hgoal : InI128 goal) (hraised : 0 ≤ raised) (h : raised < goal) :
    InI128 (goal - raised) ∧ goal - raised = max 0 (goal - raised) :=
  ⟨.of_between inI128_zero hgoal (by omega) (by omega), (max_eq_right (by omega)).symm⟩

/-- A product that does not fit wraps to a quotient that is not the progress. -/
theorem wrapped_progress_ne {wrapped : ℤ} (hgoal : InI128 goal) (hraised : 0 < raised)
    (h : raised < goal) (hlarge : i128Max < raised * 10000) (hwrapped : InI128 wrapped)
    (hdvd : (2 ^ 128 : ℤ) ∣ wrapped - raised * 10000) :
    ((wrapped.tdiv goal % 2 ^ 32).toNat : ℤ) ≠ cappedShare 10000 raised goal := by
  have hpos : 0 < goal := hraised.trans h
  obtain ⟨-, hgoal⟩ := hgoal
  obtain ⟨hlow, hhigh⟩ := hwrapped
  rw [cappedShare_of_lt (by decide) hpos h]
  have hlt : share 10000 raised goal < 10000 := share_lt_of_lt (by decide) hpos h
  have hone : 1 ≤ share 10000 raised goal := by
    rw [share, Int.le_ediv_iff_mul_le hpos]
    omega
  unfold i128Min at hlow
  unfold i128Max at hgoal hhigh hlarge
  -- The product lost at least one multiple of `2 ^ 128`, which is worth two goals.
  have hlost : wrapped ≤ 10000 * raised - 2 * goal := by omega
  rcases le_or_gt 0 wrapped with hnonneg | hneg
  · have hquot : wrapped.tdiv goal ≤ share 10000 raised goal - 2 := by
      rw [Int.tdiv_eq_ediv_of_nonneg hnonneg, share, ← Int.sub_mul_ediv_right _ _ hpos.ne']
      exact Int.ediv_le_ediv hpos hlost
    have hquot' : 0 ≤ wrapped.tdiv goal := Int.tdiv_nonneg hnonneg hpos.le
    omega
  · -- A negative product is at most ten thousand goals below zero.
    have hquot : 0 ≤ (-wrapped).tdiv goal := Int.tdiv_nonneg (by omega) hpos.le
    have hquot' : (-wrapped).tdiv goal ≤ 10000 := by
      rw [Int.tdiv_eq_ediv_of_nonneg (by omega), ← Int.lt_add_one_iff,
        Int.ediv_lt_iff_lt_mul hpos]
      omega
    rw [Int.neg_tdiv] at hquot hquot'
    omega

end Figures

/-! ### What the view publishes -/

/-- The view computes the figures of the integers exactly where they are representable. -/
theorem fundingProgress_figures_iff {overflowChecks : Bool} {campaign : Campaign}
    (hpos : 0 < campaign.goal) (hgoal : InI128 campaign.goal) :
    (∃ progress, fundingProgress overflowChecks campaign = .ok progress ∧
        ProgressFigures campaign.goal campaign.raised progress.1 progress.2) ↔
      ProgressRepresentable campaign.goal campaign.raised := by
  unfold fundingProgress
  rw [if_neg hpos.not_ge]
  split_ifs with hreached hraised
  · have hfigures := progressFigures_reached hpos hreached
    exact ⟨fun _ ↦ ⟨hpos.le.trans hreached, .inl hreached⟩, fun _ ↦ ⟨_, rfl, hfigures⟩⟩
  · constructor
    · rintro ⟨progress, -, hfigures⟩
      have hnonneg : 0 ≤ campaign.raised :=
        not_lt.mp fun hneg ↦ not_progressFigures_of_neg hpos hneg _ _ hfigures
      exact ⟨hnonneg, .inr (by unfold i128Max; omega)⟩
    · rintro ⟨hnonneg, -⟩
      refine ⟨_, rfl, ?_⟩
      rw [le_antisymm hraised hnonneg]
      exact progressFigures_zero hpos
  · rw [not_le] at hreached hraised
    obtain ⟨hrange, hmax⟩ := remaining_of_lt hgoal hraised.le hreached
    simp only [bind_eq_ok_iff, pure_eq_ok_iff, uncheckedI128_of_inI128 hrange,
      Except.ok.injEq]
    constructor
    · rintro ⟨_, ⟨wrapped, hwrapped, _, rfl, rfl⟩, hfigures⟩
      refine ⟨hraised.le, .inr (not_lt.mp fun hlarge ↦ ?_)⟩
      obtain ⟨hin, hdvd⟩ := uncheckedI128_ok hwrapped
      exact wrapped_progress_ne hgoal hraised hreached hlarge hin hdvd hfigures.progress_eq
    · rintro ⟨-, hscaled⟩
      have hin : InI128 (campaign.raised * 10000) :=
        ⟨by unfold i128Min; omega, hscaled.resolve_left hreached.not_ge⟩
      exact ⟨_, ⟨_, uncheckedI128_of_inI128 hin, _, rfl, rfl⟩,
        (share_toNat_mod hpos hraised.le hreached).1, hmax⟩

end OrbitChain.Core
