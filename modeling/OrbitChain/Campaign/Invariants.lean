import OrbitChain.Campaign.Contract
import OrbitChain.Campaign.Unlocking

/-!
# The state of an initialized contract

`Established` is what every reachable storage satisfies once there is a campaign: the milestones
are in the vector and form a valid schedule of the right length, no lock is held, and the raised
amount is a representable nonnegative amount whose report can be built. Each entrypoint's lemma
says which campaign record and which vector it leaves, so that later invariants can speak about
records and vectors instead of storage.
-/

set_option autoImplicit false
set_option relaxedAutoImplicit false

namespace OrbitChain.Campaign

open Foundations

/-! ### Schedules -/

/-- A schedule is valid by its targets alone. -/
theorem ValidSchedule.of_targets {v v' : List MilestoneData} {goalAmount : ℤ}
    (h : ValidSchedule v goalAmount)
    (htargets : v'.map MilestoneData.targetAmount = v.map MilestoneData.targetAmount) :
    ValidSchedule v' goalAmount := by
  constructor
  · have hascending := h.ascending
    rw [← List.pairwise_map (f := MilestoneData.targetAmount) (R := (· < ·))] at hascending ⊢
    rwa [htargets]
  · obtain ⟨m, hlast, hgoal⟩ := h.last
    have hmap : (v'.map MilestoneData.targetAmount).getLast? = some goalAmount := by
      rw [htargets, List.getLast?_map, hlast, Option.map_some, hgoal]
    rw [List.getLast?_map, Option.map_eq_some_iff] at hmap
    exact hmap

/-- Targets are at most the goal. -/
theorem ValidSchedule.target_le {v : List MilestoneData} {goalAmount : ℤ}
    (h : ValidSchedule v goalAmount) {m : MilestoneData} (hm : m ∈ v) :
    m.targetAmount ≤ goalAmount := by
  obtain ⟨last, hlast, hgoal⟩ := h.last
  obtain ⟨front, rfl⟩ := List.getLast?_eq_some_iff.mp hlast
  rcases List.mem_append.mp hm with hm | hm
  · have hlt := (List.pairwise_append.mp h.ascending).2.2 m hm last (List.mem_singleton_self last)
    rw [← hgoal]
    exact hlt.le
  · rw [List.mem_singleton.mp hm, hgoal]

/-- Unlocking milestones keeps the targets. -/
theorem map_unlock_targets (raised : ℤ) (v : List MilestoneData) :
    (v.map (MilestoneData.unlock raised)).map MilestoneData.targetAmount =
      v.map MilestoneData.targetAmount :=
  map_map_unlock _ (fun _ _ ↦ rfl) raised v

/-- Replacing a milestone by one with the same target keeps the targets. -/
theorem map_set_targets {v : List MilestoneData} {index : ℕ} {m m' : MilestoneData}
    (hm : v[index]? = some m) (htarget : m'.targetAmount = m.targetAmount) :
    (v.set index m').map MilestoneData.targetAmount = v.map MilestoneData.targetAmount := by
  have hindex := (List.getElem?_eq_some_iff.mp hm).1
  refine List.ext_getElem? fun i ↦ ?_
  rw [List.getElem?_map, List.getElem?_map, List.getElem?_set]
  split_ifs with hi
  · rw [← hi, hm, Option.map_some, Option.map_some, htarget]
  · rfl

/-! ### Established storage -/

/-- The storage of an initialized contract with its campaign record and milestone vector. -/
structure Established (s : Storage) (campaign : CampaignData) (v : List MilestoneData) :
    Prop where
  found : s.campaignData = some campaign
  vec : s.milestonesVec = some v
  sparse : ∀ i, s.milestoneData i = none
  lock_free : s.reentrancyLock = false
  count : campaign.milestoneCount = v.length
  nonempty : v ≠ []
  bounded : v.length ≤ maxMilestones
  schedule : ValidSchedule v campaign.goalAmount
  goal_pos : 0 < campaign.goalAmount
  assets_nonempty : campaign.acceptedAssets ≠ []
  raised_nonneg : 0 ≤ campaign.raisedAmount
  raised_range : InI128 campaign.raisedAmount
  reportable : campaign.Reportable

namespace Established

variable {s : Storage} {campaign : CampaignData} {v : List MilestoneData}

theorem getMilestone (h : Established s campaign v) (index : ℕ) :
    s.getMilestone index = v[index]? :=
  Storage.getMilestone_of_vec h.vec h.sparse index

theorem untouched (h : Established s campaign v) : Untouched s :=
  fun hnone ↦ absurd (h.found.symm.trans hnone) (Option.some_ne_none campaign)

/-- On an established schedule the scan unlocks every milestone that is due. -/
theorem unlockScan_fst (h : Established s campaign v) {raised : ℤ} :
    (Storage.unlockScan raised 0 v).1 = v.map (MilestoneData.unlock raised) := by
  rw [Storage.unlockScan_eq h.schedule.ascending]

/-- The campaign an entrypoint found is the campaign record. -/
theorem campaign_eq (h : Established s campaign v) {other : CampaignData}
    (hother : s.campaignData = some other) : other = campaign :=
  Option.some.inj (hother.symm.trans h.found)

theorem milestone_found (h : Established s campaign v) {index : ℕ} {milestone : MilestoneData}
    (hm : s.getMilestone index = some milestone) : v[index]? = some milestone :=
  (h.getMilestone index).symm.trans hm

/-- Replacing one milestone of the vector replaces what is read at its index. -/
theorem getMilestone_of_set (h : Established s campaign v) {s' : Storage}
    {campaign' : CampaignData} {index : ℕ} {m data : MilestoneData} (hm : v[index]? = some m)
    (h' : Established s' campaign' (v.set index data)) (i : ℕ) :
    s'.getMilestone i = if index = i then some data else s.getMilestone i := by
  rw [h'.getMilestone, h.getMilestone, List.getElem?_set]
  split_ifs with hi hlength
  · rfl
  · exact absurd (List.getElem?_eq_some_iff.mp hm).1 hlength
  · rfl

theorem vecAfterSet (h : Established s campaign v) {index : ℕ} {milestone : MilestoneData}
    (hm : v[index]? = some milestone) (data : MilestoneData) :
    s.vecAfterSet index data = some (v.set index data) :=
  Storage.vecAfterSet_of_vec h.vec (List.getElem?_eq_some_iff.mp hm).1 data

theorem entriesAfterSet (h : Established s campaign v) {index : ℕ} {milestone : MilestoneData}
    (hm : v[index]? = some milestone) (data : MilestoneData) :
    s.entriesAfterSet index data = s.milestoneData :=
  Storage.entriesAfterSet_of_vec h.vec (List.getElem?_eq_some_iff.mp hm).1 data

/-- A storage with the same campaign record, milestones and lock is as established. -/
theorem congr (h : Established s campaign v) {s' : Storage} {v' : List MilestoneData}
    (hcampaign : s'.campaignData = s.campaignData) (hvec : s'.milestonesVec = some v')
    (hsparse : s'.milestoneData = s.milestoneData) (hlock : s'.reentrancyLock = false)
    (htargets : v'.map MilestoneData.targetAmount = v.map MilestoneData.targetAmount) :
    Established s' campaign v' := by
  have hlength : v'.length = v.length := by simpa using congrArg List.length htargets
  exact
    { found := hcampaign.trans h.found
      vec := hvec
      sparse := hsparse ▸ h.sparse
      lock_free := hlock
      count := h.count.trans hlength.symm
      nonempty := fun hnil ↦ h.nonempty (List.length_eq_zero_iff.mp (by rw [← hlength, hnil]; rfl))
      bounded := hlength ▸ h.bounded
      schedule := h.schedule.of_targets htargets
      goal_pos := h.goal_pos
      assets_nonempty := h.assets_nonempty
      raised_nonneg := h.raised_nonneg
      raised_range := h.raised_range
      reportable := h.reportable }

/-- A storage whose flags, report and record's status, end time and conclusion are written is as
established. -/
theorem of_amended (h : Established s campaign v) (status : CampaignStatus)
    (endTime : ℕ) (concluded : Option ℕ) (frozen : Option Bool)
    (blockedAsset : Address → Option Bool) (cachedReport : Option CampaignReport) :
    Established
      { s with
        campaignData := some { campaign with
          status := status, endTime := endTime, concludedAtLedger := concluded }
        frozen := frozen
        blockedAsset := blockedAsset
        cachedReport := cachedReport }
      { campaign with status := status, endTime := endTime, concludedAtLedger := concluded } v where
  found := rfl
  vec := h.vec
  sparse := h.sparse
  lock_free := h.lock_free
  count := h.count
  nonempty := h.nonempty
  bounded := h.bounded
  schedule := h.schedule
  goal_pos := h.goal_pos
  assets_nonempty := h.assets_nonempty
  raised_nonneg := h.raised_nonneg
  raised_range := h.raised_range
  reportable := h.reportable

/-! ### What each entrypoint leaves -/

section Steps

variable {env : Env} {w next : World}

/-- Initialization establishes its own record and schedule. -/
theorem of_initialized {creator : Address} {goalAmount : ℤ} {endTime : ℕ}
    {acceptedAssets : List StellarAsset} {milestones : List MilestoneData}
    {minDonationAmount : ℤ}
    (h : CampaignContract.Initialized env creator goalAmount endTime acceptedAssets milestones
      minDonationAmount w next) (hempty : w.storage = .empty) :
    Established next.storage (CampaignContract.initialCampaign env creator goalAmount endTime
      acceptedAssets milestones minDonationAmount) milestones := by
  obtain ⟨report, hstorage⟩ := h.storage
  rw [hempty] at hstorage
  rw [hstorage]
  exact
    { found := rfl
      vec := rfl
      sparse := fun _ ↦ rfl
      lock_free := rfl
      count := rfl
      nonempty := h.milestones_nonempty
      bounded := h.milestones_bounded
      schedule := h.schedule
      goal_pos := h.goal_pos
      assets_nonempty := h.assets_nonempty
      raised_nonneg := le_rfl
      raised_range := inI128_zero
      reportable := .inr (.inl le_rfl) }

variable {campaign : CampaignData} {v : List MilestoneData}
  (hw : Established w.storage campaign v)
include hw

/-- A donation raises the amount and unlocks the milestones that are due. -/
theorem of_donated {donor : Address} {amount : ℤ} {asset : AssetInfo} {token : Address}
    {found : CampaignData}
    (h : CampaignContract.Donated env donor amount asset w next found token) :
    found = campaign ∧
      Established next.storage (campaign.withRaised (campaign.raisedAmount + amount))
        (v.map (MilestoneData.unlock (campaign.raisedAmount + amount))) := by
  obtain rfl := hw.campaign_eq h.found
  obtain ⟨report, hreport, -⟩ := h.cachedReport
  have hlength : (v.map (MilestoneData.unlock (found.raisedAmount + amount))).length = v.length :=
    List.length_map _
  exact ⟨rfl,
    { found := h.campaignData
      vec := by
        rw [h.milestonesVec, Storage.unlockedVec_of_vec hw.vec, hw.unlockScan_fst]
      sparse := fun i ↦ by rw [h.milestoneData, hw.sparse]
      lock_free := h.reentrancyLock
      count := hw.count.trans hlength.symm
      nonempty := fun hnil ↦ hw.nonempty (List.map_eq_nil_iff.mp hnil)
      bounded := hlength ▸ hw.bounded
      schedule := hw.schedule.of_targets (map_unlock_targets _ v)
      goal_pos := hw.goal_pos
      assets_nonempty := hw.assets_nonempty
      raised_nonneg := add_nonneg hw.raised_nonneg h.amount_pos.le
      raised_range := h.raised_range
      reportable := reportable_of_report hreport }⟩

/-- A claim keeps the record and the milestones. -/
theorem of_claimed {donor : Address} {found : CampaignData} {record : DonorRecord}
    {numerator : ℤ}
    (h : CampaignContract.Claimed env donor w next found record numerator) :
    found = campaign ∧ Established next.storage campaign v := by
  obtain ⟨report, -, hstorage⟩ := h.storage
  exact ⟨hw.campaign_eq h.found, hw.congr (by rw [hstorage]) (by rw [hstorage]; exact hw.vec)
    (by rw [hstorage]) (by rw [hstorage]) rfl⟩

/-- A single-asset release marks its milestone. -/
theorem of_released {index : ℕ} {recipient : Address} {found : CampaignData}
    {milestone : MilestoneData} {primary : StellarAsset}
    (h : ReleaseMilestone.Released env index recipient w next found milestone primary) :
    found = campaign ∧ v[index]? = some milestone ∧
      Established next.storage campaign
        (v.set index (ReleaseMilestone.releasedRecord env recipient milestone)) := by
  obtain ⟨report, -, hstorage⟩ := h.storage
  have hm := hw.milestone_found h.milestone_found
  rw [hw.vecAfterSet hm, hw.entriesAfterSet hm] at hstorage
  exact ⟨hw.campaign_eq h.found, hm, hw.congr (by rw [hstorage]) (by rw [hstorage])
    (by rw [hstorage]) (by rw [hstorage]) (map_set_targets hm rfl)⟩

/-- A multi-asset release marks its milestone. -/
theorem of_multiReleased {index : ℕ} {recipient : Address} {found : CampaignData}
    {milestone : MilestoneData}
    (h : MultiAssetRelease.Released env index recipient w next found milestone) :
    found = campaign ∧ v[index]? = some milestone ∧
      Established next.storage campaign
        (v.set index (MultiAssetRelease.releasedRecord milestone milestone.targetAmount)) := by
  obtain ⟨report, -, hstorage⟩ := h.storage
  have hm := hw.milestone_found h.milestone_found
  rw [hw.vecAfterSet hm, hw.entriesAfterSet hm] at hstorage
  exact ⟨hw.campaign_eq h.found, hm, hw.congr (by rw [hstorage]) (by rw [hstorage])
    (by rw [hstorage]) (by rw [hstorage]) (map_set_targets hm rfl)⟩

/-- Administration changes the record's status, end time and conclusion at most. -/
theorem of_administered {found : CampaignData} {status : CampaignStatus} {endTime : ℕ}
    {concluded : Option ℕ}
    (h : CampaignContract.Administered env w next found status endTime concluded) :
    found = campaign ∧
      Established next.storage { campaign with
        status := status, endTime := endTime, concludedAtLedger := concluded } v := by
  obtain rfl := hw.campaign_eq h.found
  obtain ⟨frozen, blocked, report, hstorage⟩ := h.storage
  rw [hstorage]
  exact ⟨rfl, hw.of_amended status endTime concluded frozen blocked report⟩

end Steps

end Established

/-- A contract is either not yet initialized or established. -/
def Sound (s : Storage) : Prop := s = .empty ∨ ∃ campaign v, Established s campaign v

theorem Sound.established {s : Storage} (h : Sound s) {campaign : CampaignData}
    (hfound : s.campaignData = some campaign) : ∃ v, Established s campaign v := by
  rcases h with rfl | ⟨campaign', v, h⟩
  · exact absurd hfound (by simp [Storage.empty])
  · obtain rfl := h.campaign_eq hfound
    exact ⟨v, h⟩

theorem Sound.untouched {s : Storage} (h : Sound s) : Untouched s := by
  rcases h with hempty | ⟨campaign, v, h⟩
  · exact fun _ ↦ hempty
  · exact h.untouched

/-- Every step keeps the contract sound. -/
theorem Step.sound {host : Host} {action : Action} {w next : World}
    (h : Step host action w next) (hw : Sound w.storage) : Sound next.storage := by
  cases h with
  | transferred _ _ hstorage => rwa [hstorage]
  | initialized _ _ hempty h => exact .inr ⟨_, _, .of_initialized h hempty⟩
  | donated _ _ h =>
    obtain ⟨v, hw⟩ := hw.established h.found
    exact .inr ⟨_, _, (hw.of_donated h).2⟩
  | claimed _ _ h =>
    obtain ⟨v, hw⟩ := hw.established h.found
    exact .inr ⟨_, _, (hw.of_claimed h).2⟩
  | released _ _ h =>
    obtain ⟨v, hw⟩ := hw.established h.found
    exact .inr ⟨_, _, (hw.of_released h).2.2⟩
  | multiReleased _ _ h =>
    obtain ⟨v, hw⟩ := hw.established h.found
    exact .inr ⟨_, _, (hw.of_multiReleased h).2.2⟩
  | administered _ _ h =>
    obtain ⟨v, hw⟩ := hw.established h.found
    exact .inr ⟨_, _, (hw.of_administered h).2⟩

/-! ### Concluded campaigns -/

/-- The campaign has been ended or cancelled. -/
def Concluded (s : Storage) : Prop :=
  ∃ campaign, s.campaignData = some campaign ∧ campaign.status.isTerminal = true

/-- A concluded campaign stays concluded. -/
theorem Step.concluded {host : Host} {action : Action} {w next : World}
    (h : Step host action w next) (hw : Concluded w.storage) : Concluded next.storage := by
  obtain ⟨campaign, hfound, hterminal⟩ := hw
  cases h with
  | transferred _ _ hstorage => exact ⟨campaign, by rw [hstorage]; exact hfound, hterminal⟩
  | initialized _ _ _ h => exact absurd h.fresh (by simp [hfound])
  | donated _ _ h =>
    obtain rfl : campaign = _ := Option.some.inj (hfound.symm.trans h.found)
    exact absurd (h.isTerminal_eq.symm.trans hterminal) Bool.false_ne_true
  | claimed _ _ h | released _ _ h | multiReleased _ _ h =>
    obtain ⟨report, -, hstorage⟩ := h.storage
    exact ⟨campaign, by rw [hstorage]; exact hfound, hterminal⟩
  | administered _ _ h =>
    obtain rfl : campaign = _ := Option.some.inj (hfound.symm.trans h.found)
    obtain ⟨frozen, blocked, report, hstorage⟩ := h.storage
    refine ⟨_, by rw [hstorage], ?_⟩
    rcases h.status_eq with ⟨hsame, -⟩ | ⟨-, hterminal', -⟩
    · rw [hsame]
      exact hterminal
    · exact hterminal'

/-- A concluded campaign accepts no donations. -/
theorem Step.isDonation_of_concluded {host : Host} {action : Action} {w next : World}
    (h : Step host action w next) (hw : Concluded w.storage) :
    action.invokes Call.isDonation = false := by
  cases action with
  | transfer => rfl
  | invoke inv =>
    obtain ⟨timestamp, sequence, authorisers, call⟩ := inv
    cases call with
    | donate donor amount asset =>
      obtain ⟨campaign, hfound, hterminal⟩ := hw
      obtain ⟨found, token, hdonated⟩ := h.of_donate rfl
      obtain rfl : campaign = found := Option.some.inj (hfound.symm.trans hdonated.found)
      exact absurd (hdonated.isTerminal_eq.symm.trans hterminal) Bool.false_ne_true
    | _ => rfl

/-- Every reachable state is sound. -/
theorem CampaignRun.sound {contract : Address} {overflowChecks : Bool}
    {ledger : Ledger Address Address} {wasmHash : BitVec 256}
    {history : List (Receipt Action World)} {w : World}
    (run : CampaignRun contract overflowChecks ledger wasmHash history w) : Sound w.storage :=
  CampaignRun.induction (I := fun _ w ↦ Sound w.storage) (.inl rfl)
    (fun _ _ _ _ _ hw hstep ↦ hstep.sound hw) run

end OrbitChain.Campaign
