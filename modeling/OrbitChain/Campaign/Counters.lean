import OrbitChain.Campaign.MilestoneSchedule
import OrbitChain.Foundations.StoredEntries
import Mathlib.Data.Set.Card

/-!
# The counters

A donation counts itself, counts itself in its donor's record, and counts its donor when the donor
is new; a release counts itself. `Counted` says that the stored counters are the counts of the
history and of the stored records. Every step keeps it: a claim rewrites a donor's record without
touching its count, and nothing else writes a counter or a record.

Releases are counted a third time by the milestones: no milestone is released twice, so the
releases of a run are as many as the milestones that moved to `Released` in it.
-/

set_option autoImplicit false
set_option relaxedAutoImplicit false

namespace OrbitChain.Campaign

open Foundations

/-- The number of donations of a history. -/
def donations (history : List (Receipt Action World)) : ℕ :=
  history.countP fun r ↦ r.label.invokes Call.isDonation

/-- The number of releases of a history, by either entrypoint. -/
def releases (history : List (Receipt Action World)) : ℕ :=
  history.countP fun r ↦ r.label.invokes Call.isRelease

/-- The milestone moved to `Released` in a step of an initialized contract. -/
def MovedToReleased (history : List (Receipt Action World)) (index : ℕ) : Prop :=
  ∃ r ∈ history, r.before.storage.campaignData ≠ none ∧ ¬ IsReleased r.before.storage index ∧
    IsReleased r.after.storage index

/-- The stored counters are the counts of the history and of the donor records. -/
structure Counted (history : List (Receipt Action World)) (s : Storage) : Prop where
  donationCount : s.getDonationCount = donations history
  donorRecords : storedTotal DonorRecord.donationCount s.donorData = s.getDonationCount
  uniqueDonorCount : s.getUniqueDonorCount = (storedKeys s.donorData).card
  releaseCount : s.getReleaseCount = releases history

namespace Counted

variable {history : List (Receipt Action World)} {s : Storage}

theorem start : Counted [] .empty where
  donationCount := rfl
  donorRecords := by
    rw [Storage.empty, storedTotal_none]
    rfl
  uniqueDonorCount := by
    rw [Storage.empty, storedKeys_none]
    rfl
  releaseCount := rfl

/-- A step that neither donates nor releases keeps the counts when it keeps the counters and the
counts of the records. -/
theorem keep (h : Counted history s) {r : Receipt Action World}
    (hdonation : r.label.invokes Call.isDonation = false)
    (hrelease : r.label.invokes Call.isRelease = false) {s' : Storage}
    (hdonations : s'.donationCount = s.donationCount)
    (hunique : s'.uniqueDonorCount = s.uniqueDonorCount)
    (hreleases : s'.releaseCount = s.releaseCount)
    (hkeys : storedKeys s'.donorData = storedKeys s.donorData)
    (htotal : storedTotal DonorRecord.donationCount s'.donorData =
      storedTotal DonorRecord.donationCount s.donorData) : Counted (r :: history) s' := by
  have hcounted : donations (r :: history) = donations history :=
    List.countP_cons_of_neg (by simp [hdonation])
  have hcounted' : releases (r :: history) = releases history :=
    List.countP_cons_of_neg (by simp [hrelease])
  refine ⟨?_, ?_, ?_, ?_⟩
  · rw [Storage.getDonationCount, hdonations, hcounted]
    exact h.donationCount
  · rw [Storage.getDonationCount, hdonations, htotal]
    exact h.donorRecords
  · rw [Storage.getUniqueDonorCount, hunique, hkeys]
    exact h.uniqueDonorCount
  · rw [Storage.getReleaseCount, hreleases, hcounted']
    exact h.releaseCount

/-- A release counts itself. -/
theorem release (h : Counted history s) {r : Receipt Action World}
    (hdonation : r.label.invokes Call.isDonation = false)
    (hrelease : r.label.invokes Call.isRelease = true) {s' : Storage}
    (hdonations : s'.donationCount = s.donationCount)
    (hunique : s'.uniqueDonorCount = s.uniqueDonorCount) (hdonors : s'.donorData = s.donorData)
    (hreleases : s'.releaseCount = some (s.getReleaseCount + 1)) :
    Counted (r :: history) s' := by
  have hcounted : donations (r :: history) = donations history :=
    List.countP_cons_of_neg (by simp [hdonation])
  have hcounted' : releases (r :: history) = releases history + 1 :=
    List.countP_cons_of_pos hrelease
  refine ⟨?_, ?_, ?_, ?_⟩
  · rw [Storage.getDonationCount, hdonations, hcounted]
    exact h.donationCount
  · rw [Storage.getDonationCount, hdonations, hdonors]
    exact h.donorRecords
  · rw [Storage.getUniqueDonorCount, hunique, hdonors]
    exact h.uniqueDonorCount
  · rw [Storage.getReleaseCount, hreleases, hcounted', ← h.releaseCount]
    rfl

end Counted

/-! ### What the entrypoints count -/

section Steps

variable {env : Env} {w next : World} {history : List (Receipt Action World)}

/-- A donation counts itself, in its donor's record as well, and a new donor. -/
theorem Counted.of_donated {donor : Address} {amount : ℤ} {asset : AssetInfo}
    {campaign : CampaignData} {token : Address}
    (h : CampaignContract.Donated env donor amount asset w next campaign token)
    (hw : Counted history w.storage) {r : Receipt Action World}
    (hdonation : r.label.invokes Call.isDonation = true)
    (hrelease : r.label.invokes Call.isRelease = false) :
    Counted (r :: history) next.storage := by
  have hcounted : donations (r :: history) = donations history + 1 :=
    List.countP_cons_of_pos hdonation
  have hcounted' : releases (r :: history) = releases history :=
    List.countP_cons_of_neg (by simp [hrelease])
  obtain ⟨record, hrecord, hdonors⟩ := h.donorData
  have hcount := (DonorRecord.applyDonation_ok hrecord).2.1
  have hold : ((w.storage.donorData donor).getD (.newFor donor asset)).donationCount =
      ((w.storage.donorData donor).map DonorRecord.donationCount).getD 0 := by
    cases w.storage.donorData donor <;> rfl
  have hnext : next.storage.getDonationCount = w.storage.getDonationCount + 1 := by
    rw [Storage.getDonationCount, h.donationCount]
    rfl
  refine ⟨?_, ?_, ?_, ?_⟩
  · rw [hnext, hw.donationCount, hcounted]
  · have htotal := storedTotal_update w.storage.donorData donor record DonorRecord.donationCount
    rw [hdonors, hnext, ← hw.donorRecords]
    omega
  · have hcard := card_storedKeys_update w.storage.donorData donor record
    rw [hdonors, hcard, ← hw.uniqueDonorCount, Storage.getUniqueDonorCount, h.uniqueDonorCount]
    split_ifs <;> rfl
  · rw [Storage.getReleaseCount, h.releaseCount, hcounted']
    exact hw.releaseCount

/-- A claim rewrites a record that exists and keeps its count. -/
theorem Counted.of_claimed {donor : Address} {campaign : CampaignData} {record : DonorRecord}
    {numerator : ℤ} (h : CampaignContract.Claimed env donor w next campaign record numerator)
    (hw : Counted history w.storage) {r : Receipt Action World}
    (hdonation : r.label.invokes Call.isDonation = false)
    (hrelease : r.label.invokes Call.isRelease = false) :
    Counted (r :: history) next.storage := by
  obtain ⟨report, -, hstorage⟩ := h.storage
  apply hw.keep hdonation hrelease
  · rw [hstorage]
  · rw [hstorage]
  · rw [hstorage]
  · have hstored : donor ∈ storedKeys w.storage.donorData := by simp [h.donor_found]
    rw [hstorage, storedKeys_update, Finset.insert_eq_of_mem hstored]
  · have htotal := storedTotal_update w.storage.donorData donor
      { record with refundClaimed := true } DonorRecord.donationCount
    rw [h.donor_found] at htotal
    rw [hstorage]
    exact Nat.add_right_cancel htotal

end Steps

/-- Administrative calls count nothing. -/
theorem Call.counts_nothing {call : Call} (h : call.isAdministrative = true) :
    call.isDonation = false ∧ call.isRelease = false := by
  cases call with
  | donate | releaseMilestone | releaseMilestoneMultiAsset => exact absurd h Bool.false_ne_true
  | _ => exact ⟨rfl, rfl⟩

/-- Every step keeps the counters the counts. -/
theorem Step.counted {host : Host} {action : Action} {w next : World}
    {history : List (Receipt Action World)} (h : Step host action w next)
    (hw : Counted history w.storage) : Counted (⟨action, w, next⟩ :: history) next.storage := by
  cases h with
  | transferred _ _ hstorage =>
    rw [hstorage]
    exact hw.keep rfl rfl rfl rfl rfl rfl rfl
  | initialized _ hcall hempty h =>
    obtain ⟨report, hstorage⟩ := h.storage
    apply hw.keep
    · exact Action.invokes_of_call hcall _
    · exact Action.invokes_of_call hcall _
    all_goals rw [hstorage]
  | donated _ hcall h =>
    apply hw.of_donated h
    all_goals
      exact Action.invokes_of_call hcall _
  | claimed _ hcall h =>
    apply hw.of_claimed h
    all_goals
      exact Action.invokes_of_call hcall _
  | released _ hcall h | multiReleased _ hcall h =>
    obtain ⟨report, -, hstorage⟩ := h.storage
    apply hw.release
    · exact Action.invokes_of_call hcall _
    · exact Action.invokes_of_call hcall _
    all_goals rw [hstorage]
  | administered _ hcall h =>
    obtain ⟨frozen, blocked, report, hstorage⟩ := h.storage
    obtain ⟨hdonation, hrelease⟩ := Call.counts_nothing hcall
    apply hw.keep
    · exact hdonation
    · exact hrelease
    all_goals rw [hstorage]

/-! ### The counters along a run -/

section Runs

variable {contract : Address} {overflowChecks : Bool} {ledger : Ledger Address Address}
  {wasmHash : BitVec 256} {history : List (Receipt Action World)} {w : World}

theorem CampaignRun.counted
    (run : CampaignRun contract overflowChecks ledger wasmHash history w) :
    Counted history w.storage :=
  CampaignRun.induction (I := fun history w ↦ Counted history w.storage) Counted.start
    (fun _ _ _ _ _ hw hstep ↦ hstep.counted hw) run

/-- The milestones that moved to `Released` are those that the run's releases name. -/
theorem movedToReleased_iff
    (run : CampaignRun contract overflowChecks ledger wasmHash history w) (index : ℕ) :
    MovedToReleased history index ↔ ∃ r ∈ history, r.label.releasedIndex = some index := by
  refine exists_congr fun r ↦ and_congr_right fun hr ↦ ?_
  obtain ⟨hstep, earlier, hearlier⟩ := CampaignRun.step_of_mem run hr
  constructor
  · rintro ⟨hcampaign, hbefore, hafter⟩
    rw [hstep.isReleased_iff (CampaignRun.sound hearlier) hcampaign] at hafter
    exact hafter.resolve_right hbefore
  · intro hindex
    refine ⟨fun hfresh ↦ ?_, hstep.not_isReleased hindex,
      hstep.isReleased_of_releasedIndex (CampaignRun.sound hearlier) hindex⟩
    rw [hstep.releasedIndex_of_fresh hfresh] at hindex
    cases hindex

/-- As many milestones moved to `Released` as there were releases. -/
theorem ncard_movedToReleased
    (run : CampaignRun contract overflowChecks ledger wasmHash history w) :
    {index | MovedToReleased history index}.ncard = releases history := by
  have hnodup := run.keys_nodup (marksOnce_releases contract overflowChecks ledger wasmHash)
  have hmoved : {index | MovedToReleased history index} =
      ((history.filterMap fun r ↦ r.label.releasedIndex).toFinset : Set ℕ) := by
    ext index
    rw [Set.mem_ofPred_eq, movedToReleased_iff run]
    simp
  calc {index | MovedToReleased history index}.ncard
      = (history.filterMap fun r ↦ r.label.releasedIndex).length := by
        rw [hmoved, Set.ncard_coe_finset, List.toFinset_card_of_nodup hnodup]
    _ = history.countP fun r ↦ r.label.releasedIndex.isSome := List.length_filterMap_eq_countP
    _ = releases history := by
        apply List.countP_congr
        intro r _
        rw [Action.isRelease_eq_isSome]

/-- In every state of every run, the counters are the counts of the run's donations and releases,
of the donor records, and of the milestones that moved to `Released`. -/
theorem counters_count (run : CampaignRun contract overflowChecks ledger wasmHash history w) :
    w.storage.getDonationCount = storedTotal DonorRecord.donationCount w.storage.donorData ∧
      w.storage.getDonationCount = donations history ∧
      w.storage.getUniqueDonorCount = (storedKeys w.storage.donorData).card ∧
      w.storage.getReleaseCount = releases history ∧
      {index | MovedToReleased history index}.ncard = releases history := by
  have hcounted := CampaignRun.counted run
  exact ⟨hcounted.donorRecords.symm, hcounted.donationCount, hcounted.uniqueDonorCount,
    hcounted.releaseCount, ncard_movedToReleased run⟩

end Runs

/-- A donor gives half of the goal in two donations, and the first half is released. -/
def Sample.twiceGiven : List Action :=
  [opening [⟨"XLM", some token⟩] [milestone 500, milestone 1000] 1000, giving donor 200 token,
    giving donor 300 token, .transfer token donor contract 500,
    call creator (.releaseMilestone 0 recipient)]

theorem counters_count_twiceGiven :
    donations (Sample.history Sample.twiceGiven) = 2 ∧
      (Sample.reached Sample.twiceGiven).storage.getDonationCount =
        donations (Sample.history Sample.twiceGiven) ∧
      {index | MovedToReleased (Sample.history Sample.twiceGiven) index}.ncard =
        releases (Sample.history Sample.twiceGiven) :=
  have hcount := counters_count (Sample.run Sample.twiceGiven)
  ⟨by decide +kernel, hcount.2.1, hcount.2.2.2.2⟩

end OrbitChain.Campaign
