import OrbitChain.Campaign.Administration
import OrbitChain.Campaign.Invariants

/-!
# The report cache

The dashboard report is stored beside the records it is computed from. A storage is `ReportCached`
when the stored report is the one its campaign record and its counters give. Every entrypoint that
writes one of them refreshes the report after its last write, and the others write none of them, so
the two report views agree in every reachable state of an initialized contract
(`report_cache_coherent`).
-/

set_option autoImplicit false
set_option relaxedAutoImplicit false

namespace OrbitChain.Campaign

open Foundations

/-- The stored report is the report of the stored campaign and counters. -/
def ReportCached (s : Storage) : Prop :=
  ∀ campaign, s.campaignData = some campaign →
    ∃ report, buildCampaignReport s campaign = .ok report ∧ s.cachedReport = some report

/-- A report is computed from the campaign record and three counters. -/
theorem buildCampaignReport_congr {s s' : Storage} (campaign : CampaignData)
    (hdonors : s'.uniqueDonorCount = s.uniqueDonorCount)
    (hdonations : s'.donationCount = s.donationCount)
    (hreleases : s'.releaseCount = s.releaseCount) :
    buildCampaignReport s' campaign = buildCampaignReport s campaign := by
  simp only [buildCampaignReport, Storage.getUniqueDonorCount, Storage.getDonationCount,
    Storage.getReleaseCount, hdonors, hdonations, hreleases]

namespace ReportCached

variable {s s' : Storage}

/-- A stored report of the stored record is coherent. -/
theorem of_built {campaign : CampaignData} {report : CampaignReport}
    (hfound : s.campaignData = some campaign)
    (hreport : buildCampaignReport s campaign = .ok report)
    (hcached : s.cachedReport = some report) : ReportCached s := by
  intro campaign' hfound'
  obtain rfl := Option.some.inj (hfound.symm.trans hfound')
  exact ⟨report, hreport, hcached⟩

/-- A refreshed report is coherent. -/
theorem of_refresh {campaign : CampaignData} (hfound : s.campaignData = some campaign)
    (h : refreshReportCache s = .ok s') : ReportCached s' := by
  obtain ⟨report, hreport, rfl⟩ := (refreshReportCache_eq_ok_iff campaign hfound).mp h
  exact .of_built hfound hreport rfl

/-- What the report is computed from and the report itself are all that coherence speaks of. -/
theorem congr (h : ReportCached s) (hcampaign : s'.campaignData = s.campaignData)
    (hdonors : s'.uniqueDonorCount = s.uniqueDonorCount)
    (hdonations : s'.donationCount = s.donationCount)
    (hreleases : s'.releaseCount = s.releaseCount) (hcached : s'.cachedReport = s.cachedReport) :
    ReportCached s' := by
  intro campaign hfound
  rw [buildCampaignReport_congr campaign hdonors hdonations hreleases, hcached]
  exact h campaign (hcampaign.symm.trans hfound)

end ReportCached

/-- Storing milestones leaves the campaign record. -/
theorem Storage.storeMilestones_campaignData (s : Storage) (i : ℕ)
    (milestones : List MilestoneData) :
    (s.storeMilestones i milestones).campaignData = s.campaignData := by
  induction milestones generalizing s i with
  | nil => rfl
  | cons m rest ih => rw [storeMilestones, ih, setMilestone_eq]

/-- Initialization stores the report of the campaign it creates. -/
theorem reportCached_of_initialize {env : Env} {creator : Address} {goalAmount : ℤ} {endTime : ℕ}
    {acceptedAssets : List StellarAsset} {milestones : List MilestoneData}
    {minDonationAmount : ℤ} {w next : World}
    (h : CampaignContract.initializeCampaign env creator goalAmount endTime acceptedAssets
      milestones minDonationAmount w = .ok next) : ReportCached next.storage := by
  simp only [CampaignContract.initializeCampaign, bind_eq_ok_iff, pure_eq_ok_iff] at h
  obtain ⟨-, -, -, -, -, -, -, -, -, -, -, -, -, -, -, -, s, hrefresh, rfl⟩ := h
  exact .of_refresh (Storage.storeMilestones_campaignData _ _ _) hrefresh

section Standard

variable {contract : Address} {overflowChecks : Bool} {ledger : Ledger Address Address}
  {wasmHash : BitVec 256} {history : List (Receipt Action World)} {action : Action}
  {w next : World}

/-- Every step keeps the stored report coherent. -/
theorem ReportCached.of_exec (hw : ReportCached w.storage) (huntouched : Untouched w.storage)
    (h : (chain (standardHost contract overflowChecks)).exec action w = .ok next) :
    ReportCached next.storage := by
  cases step_of_exec huntouched h with
  | transferred _ _ hstorage => rwa [hstorage]
  | initialized _ hcall _ _ =>
    have hinvoke := (exec_invoke_eq_ok_iff.mp h).2
    rw [hcall] at hinvoke
    exact reportCached_of_initialize hinvoke
  | donated _ _ h =>
    obtain ⟨report, hreport, hcached⟩ := h.cachedReport
    exact .of_built h.campaignData hreport hcached
  | claimed _ _ h =>
    obtain ⟨report, hreport, hstorage⟩ := h.storage
    rw [hstorage]
    exact .of_built h.found hreport rfl
  | released _ _ h | multiReleased _ _ h =>
    obtain ⟨report, hreport, hstorage⟩ := h.storage
    exact .of_built (by rw [hstorage]; exact h.found) hreport (by rw [hstorage])
  | @administered inv _ _ _ _ _ _ hadministrative _ =>
    obtain ⟨campaign, hflagged | hamended⟩ :=
      CampaignContract.flagged_or_amended hadministrative (exec_invoke_eq_ok_iff.mp h).2
    · obtain ⟨frozen, blocked, hflags⟩ := inv.call.flagged_eq w.storage
      rw [hflagged.storage, hflags]
      exact hw.congr rfl rfl rfl rfl rfl
    · obtain ⟨report, hreport, hstorage⟩ := hamended.storage
      exact .of_built hamended.campaignData_eq hreport (by rw [hstorage])

/-- In every reachable state of an initialized contract, the stored report is the report of the
current campaign and counters, and both views return it. -/
theorem report_cache_coherent
    (run : CampaignRun contract overflowChecks ledger wasmHash history w)
    {campaign : CampaignData} (hfound : w.storage.campaignData = some campaign) :
    ∃ report, buildCampaignReport w.storage campaign = .ok report ∧
      w.storage.cachedReport = some report ∧
      CampaignContract.getCachedReport w = .ok (some report) ∧
      CampaignContract.getCampaignReport w = .ok (some report) := by
  have hcached := run.invariant (I := fun _ w ↦ ReportCached w.storage)
    (fun _ hnone ↦ absurd hnone (by simp [World.deployed, Storage.empty]))
    fun _ _ _ _ prior hw hexec ↦ hw.of_exec (CampaignRun.untouched prior) hexec
  obtain ⟨report, hreport, hstored⟩ := hcached campaign hfound
  refine ⟨report, hreport, hstored, ?_, ?_⟩
  · rw [CampaignContract.getCachedReport, hstored]
  · rw [CampaignContract.getCampaignReport, Storage.getCampaign, hfound]
    simp only [hreport, ok_bind]
    rfl

end Standard

/-- A donor gives half the goal, a release is rejected and the creator moves the deadline. -/
def Sample.halfway : List Action :=
  [Sample.opening [⟨"XLM", some Sample.token⟩] [Sample.milestone 1000] 1000,
    Sample.giving Sample.donor 500 Sample.token,
    Sample.call Sample.creator (.releaseMilestone 0 Sample.recipient),
    Sample.call Sample.creator (.extendDeadline 2000)]

theorem report_cache_coherent_halfway :
    ∃ campaign report, (Sample.reached Sample.halfway).storage.campaignData = some campaign ∧
      buildCampaignReport (Sample.reached Sample.halfway).storage campaign = .ok report ∧
      (Sample.reached Sample.halfway).storage.cachedReport = some report ∧
      CampaignContract.getCachedReport (Sample.reached Sample.halfway) = .ok (some report) ∧
      CampaignContract.getCampaignReport (Sample.reached Sample.halfway) = .ok (some report) := by
  have hsome : (Sample.reached Sample.halfway).storage.campaignData.isSome = true := by
    decide +kernel
  obtain ⟨campaign, hfound⟩ := Option.isSome_iff_exists.mp hsome
  obtain ⟨report, hviews⟩ := report_cache_coherent (Sample.run Sample.halfway) hfound
  exact ⟨campaign, report, hfound, hviews⟩

end OrbitChain.Campaign
