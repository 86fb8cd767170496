import OrbitChain.Campaign.Reports

/-!
# Initialization

The `initialize` entrypoint, once for each contract instance. It stores the campaign record with
nothing raised and the milestones as they were passed in, one by one; on a fresh contract they
end up as the milestone vector (`storeMilestones_of_fresh`).
-/

set_option autoImplicit false
set_option relaxedAutoImplicit false

namespace OrbitChain.Campaign

open Foundations

/-- Store milestones at consecutive indices. -/
def Storage.storeMilestones (s : Storage) : ℕ → List MilestoneData → Storage
  | _, [] => s
  | i, m :: rest => (s.setMilestone i m).storeMilestones (i + 1) rest

/-- With the vector in place, storing at its end appends. -/
theorem Storage.storeMilestones_of_vec {s : Storage} {v : List MilestoneData}
    (hv : s.milestonesVec = some v) (milestones : List MilestoneData) :
    s.storeMilestones v.length milestones =
      { s with milestonesVec := some (v ++ milestones) } := by
  induction milestones generalizing s v with
  | nil => simp [storeMilestones, ← hv]
  | cons m rest ih =>
    have hnext := ih (s := { s with milestonesVec := some (v ++ [m]) }) (v := v ++ [m]) rfl
    rw [List.length_append, List.length_singleton] at hnext
    rw [storeMilestones, setMilestone_push hv, hnext, List.append_assoc]
    rfl

/-- On a fresh contract the stored milestones are the vector. -/
theorem Storage.storeMilestones_of_fresh {s : Storage} (hvec : s.milestonesVec = none)
    (hentries : ∀ i, s.milestoneData i = none) {milestones : List MilestoneData}
    (hnonempty : milestones ≠ []) :
    s.storeMilestones 0 milestones = { s with milestonesVec := some milestones } := by
  obtain ⟨m, rest, rfl⟩ := List.exists_cons_of_ne_nil hnonempty
  have hget : s.getMilestonesVec = [] := by
    simp [getMilestonesVec, hvec, indexSpace, gatherMilestones, hentries]
  have hfirst : s.setMilestone 0 m = { s with milestonesVec := some [m] } := by
    simp [setMilestone, hget, setMilestonesVec]
  rw [storeMilestones, hfirst]
  exact storeMilestones_of_vec (v := [m]) rfl rest

namespace CampaignContract

/-- The campaign record `initialize` writes. -/
def initialCampaign (env : Env) (creator : Address) (goalAmount : ℤ) (endTime : ℕ)
    (acceptedAssets : List StellarAsset) (milestones : List MilestoneData)
    (minDonationAmount : ℤ) : CampaignData where
  creator := creator
  goalAmount := goalAmount
  raisedAmount := 0
  endTime := endTime
  status := .active
  acceptedAssets := acceptedAssets
  milestoneCount := milestones.length
  minDonationAmount := minDonationAmount
  createdAtLedger := env.sequence
  createdAtTime := env.timestamp
  concludedAtLedger := none

/-- The `initialize` entrypoint: create the campaign. -/
def initializeCampaign (env : Env) (creator : Address) (goalAmount : ℤ) (endTime : ℕ)
    (acceptedAssets : List StellarAsset) (milestones : List MilestoneData)
    (minDonationAmount : ℤ) (w : World) : Except Failure World := do
  env.requireAuth creator
  failIf (w.storage.getCampaign.isSome = true) (.contract .alreadyInitialized)
  failIf (goalAmount ≤ 0) (.contract .invalidGoalAmount)
  failIf (endTime ≤ env.timestamp) (.contract .invalidEndTime)
  failIf (acceptedAssets = []) (.contract .invalidAssets)
  validateAssets acceptedAssets
  failIf (milestones.length = 0 ∨ maxMilestones < milestones.length)
    (.contract .invalidMilestoneCount)
  validateMilestones milestones goalAmount
  let s := w.storage.setCampaign (initialCampaign env creator goalAmount endTime acceptedAssets
    milestones minDonationAmount)
  let s ← refreshReportCache (s.storeMilestones 0 milestones)
  pure (w.commit s [.initialized creator goalAmount endTime acceptedAssets.length
    milestones.length env.sequence])

/-! ### What a successful initialization checked and wrote -/

/-- A successful initialization of a contract without milestones in storage. -/
structure Initialized (env : Env) (creator : Address) (goalAmount : ℤ) (endTime : ℕ)
    (acceptedAssets : List StellarAsset) (milestones : List MilestoneData)
    (minDonationAmount : ℤ) (w next : World) : Prop where
  authorised : env.Authorised creator
  fresh : w.storage.campaignData = none
  goal_pos : 0 < goalAmount
  future : env.timestamp < endTime
  assets_nonempty : acceptedAssets ≠ []
  codes_nonempty : ∀ a ∈ acceptedAssets, a.assetCode ≠ ""
  milestones_nonempty : milestones ≠ []
  milestones_bounded : milestones.length ≤ maxMilestones
  schedule : ValidSchedule milestones goalAmount
  storage : ∃ report, next.storage =
    { w.storage with
      campaignData := some (initialCampaign env creator goalAmount endTime acceptedAssets
        milestones minDonationAmount)
      milestonesVec := some milestones
      cachedReport := some report }
  ledger : next.ledger = w.ledger
  wasmHash : next.wasmHash = w.wasmHash

/-- Every successful initialization of a fresh contract is one of these. -/
theorem initializeCampaign_ok {env : Env} {creator : Address} {goalAmount : ℤ} {endTime : ℕ}
    {acceptedAssets : List StellarAsset} {milestones : List MilestoneData}
    {minDonationAmount : ℤ} {w next : World}
    (h : initializeCampaign env creator goalAmount endTime acceptedAssets milestones
      minDonationAmount w = .ok next)
    (hvec : w.storage.milestonesVec = none) (hentries : ∀ i, w.storage.milestoneData i = none) :
    Initialized env creator goalAmount endTime acceptedAssets milestones minDonationAmount
      w next := by
  simp only [initializeCampaign, bind_eq_ok_iff, Env.requireAuth_eq_ok_iff, failIf_eq_ok_iff,
    not_le, not_or, not_lt, validateAssets, validateMilestones_eq_ok_iff, pure_eq_ok_iff] at h
  obtain ⟨_, hauth, _, hfresh, _, hgoal, _, hfuture, _, hassets, _, hcodes, _,
    ⟨hnonempty, hbounded⟩, _, hschedule, s, hreport, rfl⟩ := h
  have hmilestones : milestones ≠ [] := fun hnil ↦ hnonempty (by rw [hnil]; rfl)
  have hstore := Storage.storeMilestones_of_fresh
    (s := w.storage.setCampaign (initialCampaign env creator goalAmount endTime acceptedAssets
      milestones minDonationAmount)) hvec hentries hmilestones
  rw [hstore, refreshReportCache_eq_ok_iff _ rfl] at hreport
  obtain ⟨report, -, rfl⟩ := hreport
  exact
    { authorised := hauth
      fresh := by simpa [Storage.getCampaign] using hfresh
      goal_pos := hgoal
      future := hfuture
      assets_nonempty := hassets
      codes_nonempty := by simpa using hcodes
      milestones_nonempty := hmilestones
      milestones_bounded := hbounded
      schedule := hschedule
      storage := ⟨report, rfl⟩
      ledger := rfl
      wasmHash := rfl }

end CampaignContract

end OrbitChain.Campaign
