import OrbitChain.Campaign.Counters
import OrbitChain.Campaign.Deadlines
import OrbitChain.Campaign.RefundWindow
import OrbitChain.Campaign.StatusTransitions

/-!
# The analytics views of a campaign

The summary, the dashboard and the status of a campaign, as functions of its run. The summary counts
what happened: initializations, donations and releases, and a campaign is active until a call
concludes it (`summary_of_run`). The status view counts the whole days between the ledger time and
the deadline that the run set last, towards zero, so that the day on either side of the deadline is
day zero (`status_of_run`).
-/

set_option autoImplicit false
set_option relaxedAutoImplicit false

namespace OrbitChain.Campaign

open Foundations

/-- The summary of the contract instance. -/
structure PlatformSummary where
  totalCampaigns : ℕ
  activeCampaigns : ℕ
  totalDonations : ℕ
  totalReleases : ℕ
  totalTransactions : ℕ
  deriving DecidableEq

/-- The metrics of the dashboard. -/
structure DashboardMetrics where
  totalCampaigns : ℕ
  activeCampaigns : ℕ
  totalDonations : ℕ
  totalReleases : ℕ
  totalTransactions : ℕ
  deriving DecidableEq

/-- The dashboard shows the fields of the summary. -/
def PlatformSummary.metrics (summary : PlatformSummary) : DashboardMetrics where
  totalCampaigns := summary.totalCampaigns
  activeCampaigns := summary.activeCampaigns
  totalDonations := summary.totalDonations
  totalReleases := summary.totalReleases
  totalTransactions := summary.totalTransactions

/-- The reply of the status view. -/
structure CampaignStatusResponse where
  status : CampaignStatus
  daysRemaining : ℤ
  deriving DecidableEq

/-- A 64-bit word read as a signed one. -/
def asI64 (x : ℕ) : ℤ := Int.bmod x (2 ^ 64)

namespace CampaignContract

/-- One if there is a campaign and it accepts donations. -/
def activeCampaignCount (w : World) : ℕ :=
  match w.storage.getCampaign with
  | some campaign => if campaign.status.acceptsDonations then 1 else 0
  | none => 0

/-- The `get_total_tx_count` view. -/
def getTotalTxCount (w : World) : Except Failure ℕ :=
  orFail (checkedCounter u64Max (w.storage.getDonationCount + w.storage.getReleaseCount))
    (.contract .overflow)

/-- The `get_platform_summary` view. -/
def getPlatformSummary (w : World) : Except Failure PlatformSummary := do
  let totalCampaigns := if w.storage.getCampaign.isSome then 1 else 0
  let totalDonations := w.storage.getDonationCount
  let totalReleases := w.storage.getReleaseCount
  let totalTransactions ← orFail (checkedCounter u64Max (totalDonations + totalReleases))
    (.contract .overflow)
  pure ⟨totalCampaigns, activeCampaignCount w, totalDonations, totalReleases, totalTransactions⟩

/-- The `get_dashboard_metrics` view. -/
def getDashboardMetrics (w : World) : Except Failure DashboardMetrics := do
  let summary ← getPlatformSummary w
  pure summary.metrics

/-- The `get_campaign_status` view at a ledger time. -/
def getCampaignStatus (now : ℕ) (w : World) : Except Failure CampaignStatusResponse := do
  let campaign ← orFail w.storage.getCampaign (.contract .notInitialized)
  let daysRemaining := if now < campaign.endTime then asI64 ((campaign.endTime - now) / 86400)
    else - asI64 ((now - campaign.endTime) / 86400)
  pure ⟨campaign.status, daysRemaining⟩

end CampaignContract

/-! ### What a history did to the campaign -/

/-- The number of initializations of a history. -/
def initializations (history : List (Receipt Action World)) : ℕ :=
  history.countP fun r ↦ r.label.initialization.isSome

/-- Some call of a history concluded the campaign. -/
def concluded (history : List (Receipt Action World)) : Bool :=
  history.any fun r ↦ r.label.invokes Call.concludes

/-- The summary of what a history did. -/
def summaryOf (history : List (Receipt Action World)) : PlatformSummary where
  totalCampaigns := initializations history
  activeCampaigns := if concluded history then 0 else initializations history
  totalDonations := donations history
  totalReleases := releases history
  totalTransactions := donations history + releases history

section Runs

variable {contract : Address} {overflowChecks : Bool} {ledger : Ledger Address Address}
  {wasmHash : BitVec 256} {history : List (Receipt Action World)} {w : World}

/-- There is a campaign, and one only, once a call initialized it. -/
theorem CampaignRun.initializations_eq
    (run : CampaignRun contract overflowChecks ledger wasmHash history w) :
    initializations history = if w.storage.campaignData.isSome then 1 else 0 := by
  refine run.invariant (I := fun history w ↦ initializations history =
    if w.storage.campaignData.isSome then 1 else 0) rfl ?_
  intro history w action next prior ih hexec
  cases action with
  | transfer token source target amount =>
    cases step_of_exec (CampaignRun.untouched prior) hexec with
    | transferred _ _ hstorage =>
      rw [hstorage]
      exact ih
  | invoke inv =>
    have hstep := step_of_exec (CampaignRun.untouched prior) hexec
    obtain ⟨campaign, hafter⟩ := Option.ne_none_iff_exists'.mp hstep.campaign_isSome
    rw [hafter]
    cases hbefore : w.storage.campaignData with
    | none =>
      -- the first call that succeeds is the initialization
      obtain ⟨_, _, _, _, _, _, hcall⟩ := hstep.initialize_of_fresh hbefore
      rw [hbefore] at ih
      have hinit : (Action.invoke inv).initialization.isSome = true := by
        rw [Action.initialization, hcall]
        rfl
      have hcons : initializations (⟨.invoke inv, w, next⟩ :: history) =
        initializations history + 1 := List.countP_cons_of_pos hinit
      rw [hcons, ih]
      rfl
    | some found =>
      rw [hbefore] at ih
      have hinit : ¬ (Action.invoke inv).initialization.isSome = true := by
        intro hinit
        obtain ⟨⟨goalAmount, milestones⟩, hinit⟩ := Option.isSome_iff_exists.mp hinit
        obtain ⟨_, _, _, _, _, hinv, hcall⟩ := Action.initialization_eq_some hinit
        cases hinv
        rw [(hstep.of_initialize hcall).2.fresh] at hbefore
        cases hbefore
      have hcons : initializations (⟨.invoke inv, w, next⟩ :: history) =
        initializations history := List.countP_cons_of_neg hinit
      rw [hcons, ih]
      rfl

/-- The campaign is concluded once a call concluded it. -/
theorem CampaignRun.concluded_eq
    (run : CampaignRun contract overflowChecks ledger wasmHash history w) :
    concluded history = w.storage.campaignData.any fun campaign ↦ campaign.status.isTerminal := by
  refine run.invariant (I := fun history w ↦ concluded history =
    w.storage.campaignData.any fun campaign ↦ campaign.status.isTerminal) rfl ?_
  intro history w action next prior ih hexec
  have hcons : concluded (⟨action, w, next⟩ :: history) =
      (action.invokes Call.concludes || concluded history) := List.any_cons
  rw [hcons, ih]
  cases recordStep_of_exec (CampaignRun.untouched prior) hexec with
  | kept hcall hsame => rw [hcall, hsame, Bool.false_or]
  | created _ hcall hfresh hleft =>
    rw [Action.invokes_of_call hcall, hfresh, hleft]
    rfl
  | @donated inv _ _ campaign amount hcall hfound hopen hleft =>
    have hconcludes : inv.call.concludes = false := by
      cases hname : inv.call with
      | endCampaign | cancelCampaign =>
        rw [hname] at hcall
        cases hcall
      | _ => rfl
    rw [hfound, hleft, Option.any_some, Option.any_some, withRaised_isTerminal, hopen,
      Action.invokes, hconcludes]
    rfl
  | @amended inv _ _ campaign _ h =>
    rw [h.found, h.campaignData_eq, Option.any_some, Option.any_some, Action.invokes]
    cases inv.call <;> rfl

open CampaignContract

/-- A campaign is active until it is concluded. -/
theorem CampaignRun.activeCampaignCount_eq
    (run : CampaignRun contract overflowChecks ledger wasmHash history w) :
    activeCampaignCount w = if concluded history then 0 else initializations history := by
  rw [run.initializations_eq, run.concluded_eq, activeCampaignCount, Storage.getCampaign]
  cases w.storage.campaignData with
  | none => rfl
  | some campaign =>
    dsimp only
    rw [Option.any_some, campaign.status.acceptsDonations_eq_not_isTerminal]
    cases campaign.status.isTerminal <;> rfl

/-- In every state of every run, which initialized at most once, the summary and the dashboard are
those of what the run did, as long as its donations and releases together are a 64-bit number.
Otherwise the views fail. -/
theorem summary_of_run (run : CampaignRun contract overflowChecks ledger wasmHash history w) :
    initializations history ≤ 1 ∧ if donations history + releases history ≤ u64Max then
      getPlatformSummary w = .ok (summaryOf history) ∧
        getDashboardMetrics w = .ok (summaryOf history).metrics ∧
        getTotalTxCount w = .ok (donations history + releases history)
    else
      getPlatformSummary w = .error (.contract .overflow) ∧
        getDashboardMetrics w = .error (.contract .overflow) ∧
        getTotalTxCount w = .error (.contract .overflow) := by
  have hcounted := CampaignRun.counted run
  have hfirst : initializations history ≤ 1 := by
    rw [run.initializations_eq]
    split_ifs <;> decide
  have hcampaigns : (if w.storage.getCampaign.isSome then 1 else 0) = initializations history :=
    run.initializations_eq.symm
  have htotal : getTotalTxCount w = orFail (checkedCounter u64Max
      (donations history + releases history)) (.contract .overflow) := by
    rw [getTotalTxCount, hcounted.donationCount, hcounted.releaseCount]
  have hsummary : getPlatformSummary w = getTotalTxCount w >>= fun total ↦
      pure { summaryOf history with totalTransactions := total } := by
    rw [htotal]
    unfold getPlatformSummary
    rw [hcounted.donationCount, hcounted.releaseCount, hcampaigns, run.activeCampaignCount_eq]
    rfl
  refine ⟨hfirst, ?_⟩
  split_ifs with hfits
  · rw [checkedCounter, if_pos hfits] at htotal
    rw [getDashboardMetrics, hsummary, htotal]
    exact ⟨rfl, rfl, rfl⟩
  · rw [checkedCounter, if_neg hfits] at htotal
    rw [getDashboardMetrics, hsummary, htotal]
    exact ⟨rfl, rfl, rfl⟩

/-- A difference of 64-bit times in days is a 63-bit number. -/
theorem asI64_days {time : ℕ} (htime : time ≤ u64Max) :
    asI64 (time / 86400) = (time / 86400 : ℕ) := by
  unfold u64Max at htime
  unfold asI64
  rw [Int.bmod_eq_of_le] <;> omega

/-- The status view finds the campaign once it is initialized, says that it is concluded when a call
concluded it, and counts the whole days from the ledger time to the deadline set last, towards
zero. -/
theorem status_of_run (run : CampaignRun contract overflowChecks ledger wasmHash history w)
    {now : ℕ} (hnow : now ≤ u64Max) :
    match lastDeadline history with
    | none => getCampaignStatus now w = .error (.contract .notInitialized)
    | some (endTime, _) => ∃ status, getCampaignStatus now w =
        .ok ⟨status, ((endTime : ℤ) - now).tdiv 86400⟩ ∧ status.isTerminal = concluded history := by
  have hlast := CampaignRun.lastDeadline_eq run
  have hconcluded := run.concluded_eq
  cases hset : lastDeadline history with
  | none =>
    rw [hset, Option.map_none] at hlast
    have hnone : w.storage.campaignData = none := Option.map_eq_none_iff.mp hlast.symm
    dsimp only
    rw [getCampaignStatus, Storage.getCampaign, hnone]
    rfl
  | some deadline =>
    obtain ⟨endTime, timestamp⟩ := deadline
    rw [hset, Option.map_some] at hlast
    obtain ⟨campaign, hfound, rfl⟩ := Option.map_eq_some_iff.mp hlast.symm
    rw [hfound, Option.any_some] at hconcluded
    refine ⟨campaign.status, ?_, hconcluded.symm⟩
    have hend := CampaignRun.deadlineTyped run campaign hfound
    have hdays : (if now < campaign.endTime then asI64 ((campaign.endTime - now) / 86400)
        else - asI64 ((now - campaign.endTime) / 86400)) =
          ((campaign.endTime : ℤ) - now).tdiv 86400 := by
      rw [asI64_days (by omega), asI64_days (by omega)]
      split_ifs with hbefore
      · rw [Int.tdiv_eq_ediv_of_nonneg (by omega)]
        omega
      · -- past the deadline the difference is negative, and rounded up
        rw [← neg_sub, Int.neg_tdiv, Int.tdiv_eq_ediv_of_nonneg (by omega)]
        omega
    rw [getCampaignStatus, Storage.getCampaign, hfound]
    exact congrArg (fun days ↦ Except.ok (CampaignStatusResponse.mk campaign.status days)) hdays

end Runs

open CampaignContract in
/-- The summary of two donations. -/
theorem summary_of_run_twiceGiven :
    getPlatformSummary (Sample.reached Sample.twiceGiven) =
        .ok (summaryOf (Sample.history Sample.twiceGiven)) ∧
      (summaryOf (Sample.history Sample.twiceGiven)).totalDonations = 2 := by
  have hfits : donations (Sample.history Sample.twiceGiven) +
      releases (Sample.history Sample.twiceGiven) ≤ u64Max := by decide +kernel
  have hviews := (summary_of_run (Sample.run Sample.twiceGiven)).2
  rw [if_pos hfits] at hviews
  exact ⟨hviews.1, by decide +kernel⟩

open CampaignContract in
/-- Two days after its deadline, an open campaign has minus two days left. -/
theorem status_of_run_twiceGiven : ∃ status,
    getCampaignStatus 173800 (Sample.reached Sample.twiceGiven) = .ok ⟨status, -2⟩ ∧
      status.isTerminal = false := by
  have hset : lastDeadline (Sample.history Sample.twiceGiven) = some (1000, 20) := by
    decide +kernel
  have hopen : concluded (Sample.history Sample.twiceGiven) = false := by decide +kernel
  have hstatus := status_of_run (Sample.run Sample.twiceGiven) (show 173800 ≤ u64Max by decide)
  rw [hset, hopen] at hstatus
  exact hstatus

end OrbitChain.Campaign
