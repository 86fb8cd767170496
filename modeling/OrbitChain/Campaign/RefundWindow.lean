import OrbitChain.Campaign.Administration
import OrbitChain.Campaign.MilestoneOrder

/-!
# The refund window

Refunds are documented to be open for thirty days from the end or the cancellation of the campaign.
The contract counts the days from the campaign's deadline, with a plain sum, and the creator
concludes the campaign at any time. `EligibleThroughout` is what the documentation promises a donor
from a time on; the promise is kept from the conclusion on exactly when the deadline is not before
it, or at the very top of the clock, and no release closes refunds again (`refund_window_iff`).
-/

set_option autoImplicit false
set_option relaxedAutoImplicit false

namespace OrbitChain.Campaign

open Foundations

/-- The donor is eligible for a refund at every ledger time of the window opened at a time. -/
def EligibleThroughout (host : Host) (donor : Address) (opened : ℕ) (w : World) : Prop :=
  ∀ env : Env, env.host = host → opened ≤ env.timestamp →
    env.timestamp ≤ opened + refundWindow → env.timestamp ≤ u64Max →
      CampaignContract.isRefundEligible env donor w = .ok true

/-- The window after a deadline is representable and lasts as long as the one opened at a time: the
deadline is not before it, or no later time exists. -/
def DeadlineCovers (endTime opened : ℕ) : Prop :=
  endTime + refundWindow ≤ u64Max ∧ (opened ≤ endTime ∨ endTime + refundWindow = u64Max)

instance (endTime opened : ℕ) : Decidable (DeadlineCovers endTime opened) :=
  inferInstanceAs (Decidable (_ ∧ _))

/-- After its conclusion the campaign is cancelled, or no milestone is released. -/
def StaysRefundable (conclusion : Receipt Action World)
    (later : List (Receipt Action World)) : Prop :=
  (∃ r ∈ conclusion :: later, r.label.invokes Call.cancels = true) ∨
    ∀ r ∈ later, r.label.invokes Call.isRelease = false

/-- The contract's window contains the promised one exactly when the deadline covers it. -/
theorem withinRefundWindow_throughout_iff {contract : Address} {overflowChecks : Bool}
    {campaign : CampaignData} {opened : ℕ} (hend : campaign.endTime ≤ u64Max)
    (hopened : opened ≤ u64Max) :
    (∀ env : Env, env.host = standardHost contract overflowChecks → opened ≤ env.timestamp →
      env.timestamp ≤ opened + refundWindow → env.timestamp ≤ u64Max →
        WithinRefundWindow env campaign) ↔ DeadlineCovers campaign.endTime opened := by
  constructor
  · intro hwithin
    -- the last ledger time of the promised window decides
    obtain ⟨closing, hclosing, htime⟩ := hwithin
      ⟨standardHost contract overflowChecks, min (opened + refundWindow) u64Max, 0, []⟩ rfl
      (le_min (Nat.le_add_right _ _) hopened) (min_le_left _ _) (min_le_right _ _)
    dsimp only at htime
    unfold uncheckedU64 at hclosing
    split_ifs at hclosing with hrange
    · obtain rfl : campaign.endTime + refundWindow = closing := by simpa using hclosing
      refine ⟨hrange, ?_⟩
      omega
    · obtain rfl : (campaign.endTime + refundWindow) % 2 ^ 64 = closing := by simpa using hclosing
      unfold u64Max refundWindow at *
      omega
  · rintro ⟨hrange, hcovers⟩ env - - hlast htop
    rw [withinRefundWindow_iff hrange]
    omega

/-! ### A concluded campaign along a run -/

/-- The deadline of a campaign is a 64-bit time. -/
def DeadlineTyped (s : Storage) : Prop :=
  ∀ campaign, s.campaignData = some campaign → campaign.endTime ≤ u64Max

theorem RecordStep.deadlineTyped {host : Host} {action : Action} {w next : World}
    (h : RecordStep host action w next) (hw : DeadlineTyped w.storage) :
    DeadlineTyped next.storage := by
  intro campaign hfound
  cases h with
  | kept _ hsame => exact hw campaign (hsame.symm.trans hfound)
  | created htyped hcall _ hleft =>
    obtain rfl := Option.some.inj (hleft.symm.trans hfound)
    have hcall' := htyped.2.2
    rw [hcall] at hcall'
    exact hcall'.2.1
  | donated _ hfound' _ hleft =>
    obtain rfl := Option.some.inj (hleft.symm.trans hfound)
    have hbefore := hw _ hfound'
    exact hbefore
  | @amended inv _ _ before htyped h =>
    obtain rfl := Option.some.inj (h.campaignData_eq.symm.trans hfound)
    have hcall := htyped.2.2
    have hbefore := hw before h.found
    cases hname : inv.call with
    | extendDeadline newEndTime =>
      rw [hname] at hcall
      exact hcall
    | _ => exact hbefore

/-- A concluded campaign keeps its deadline and stays concluded, and it is cancelled afterwards
when it was before or the step cancels it. -/
theorem RecordStep.of_concluded {host : Host} {action : Action} {w next : World}
    (h : RecordStep host action w next) {before : CampaignData}
    (hfound : w.storage.campaignData = some before) (hterminal : before.status.isTerminal = true) :
    ∃ after, next.storage.campaignData = some after ∧ after.endTime = before.endTime ∧
      after.status.isTerminal = true ∧
      (after.status = .cancelled ↔
        before.status = .cancelled ∨ action.invokes Call.cancels = true) := by
  cases h with
  | kept hcall hsame =>
    refine ⟨before, hsame.trans hfound, rfl, hterminal, (or_iff_left fun hcancels ↦ ?_).symm⟩
    rw [Action.invokes_of_invokes Call.concludes_of_cancels hcancels] at hcall
    exact absurd hcall.symm Bool.false_ne_true
  | created _ _ hfresh _ => exact absurd (hfresh.symm.trans hfound) (by simp)
  | donated _ hfound' hopen _ =>
    obtain rfl := Option.some.inj (hfound'.symm.trans hfound)
    exact absurd (hopen.symm.trans hterminal) Bool.false_ne_true
  | @amended inv _ _ campaign _ h =>
    obtain rfl := Option.some.inj (h.found.symm.trans hfound)
    rcases h.permitted with hopen | ⟨hcall, -⟩
    · rw [CampaignStatus.acceptsDonations_eq_not_isTerminal, hterminal] at hopen
      exact absurd hopen Bool.false_ne_true
    · refine ⟨_, h.campaignData_eq, ?_⟩
      rw [Action.invokes, hcall]
      exact ⟨rfl, rfl, iff_of_true rfl (.inr rfl)⟩

/-- A conclusion keeps the deadline, and cancels the campaign when it is a cancellation. -/
theorem RecordStep.of_conclusion {host : Host} {inv : Invocation} {w next : World}
    (h : RecordStep host (.invoke inv) w next) (hcall : inv.call.concludes = true)
    {before concluded : CampaignData} (hbefore : w.storage.campaignData = some before)
    (hconcluded : next.storage.campaignData = some concluded) :
    concluded.endTime = before.endTime ∧
      (concluded.status = .cancelled ↔ inv.call.cancels = true) := by
  cases h with
  | kept hkept _ => exact absurd (hkept.symm.trans hcall) Bool.false_ne_true
  | created _ _ hfresh _ => exact absurd (hfresh.symm.trans hbefore) (by simp)
  | donated hdonation _ _ _ =>
    cases hname : inv.call <;> simp_all [Call.concludes, Call.isDonation]
  | amended _ h =>
    obtain rfl := Option.some.inj (h.found.symm.trans hbefore)
    obtain rfl := Option.some.inj (h.campaignData_eq.symm.trans hconcluded)
    cases hname : inv.call with
    | endCampaign => exact ⟨rfl, iff_of_false (fun h ↦ nomatch h) Bool.false_ne_true⟩
    | cancelCampaign => exact ⟨rfl, iff_of_true rfl rfl⟩
    | _ =>
      rw [hname] at hcall
      exact absurd hcall Bool.false_ne_true

/-- A donor who has not claimed is eligible throughout a window exactly when refunds are open and
the deadline covers the window. -/
theorem eligibleThroughout_iff {contract : Address} {overflowChecks : Bool} {donor : Address}
    {opened : ℕ} {w : World} {campaign : CampaignData} {record : DonorRecord}
    (hcampaign : w.storage.campaignData = some campaign)
    (hdonor : w.storage.donorData donor = some record) (hclaimed : record.refundClaimed = false)
    (hend : campaign.endTime ≤ u64Max) (hopened : opened ≤ u64Max) :
    EligibleThroughout (standardHost contract overflowChecks) donor opened w ↔
      DeadlineCovers campaign.endTime opened ∧ RefundsOpen w.storage campaign := by
  rw [← withinRefundWindow_throughout_iff hend hopened]
  unfold EligibleThroughout
  simp only [CampaignContract.isRefundEligible_eq_ok_true_iff hcampaign hdonor, hclaimed, and_true]
  constructor
  · intro heligible
    refine ⟨fun env hhost hfirst hlast htop ↦ (heligible env hhost hfirst hlast htop).2, ?_⟩
    exact (heligible ⟨standardHost contract overflowChecks, opened, 0, []⟩ rfl le_rfl
      (Nat.le_add_right _ _) hopened).1
  · rintro ⟨hwithin, hopen⟩ env hhost hfirst hlast htop
    exact ⟨hopen, hwithin env hhost hfirst hlast htop⟩

section Standard

variable {contract : Address} {overflowChecks : Bool} {ledger : Ledger Address Address}
  {wasmHash : BitVec 256} {history earlier later : List (Receipt Action World)} {middle w : World}

theorem CampaignRun.deadlineTyped
    (run : CampaignRun contract overflowChecks ledger wasmHash history w) :
    DeadlineTyped w.storage :=
  run.invariant (I := fun _ w ↦ DeadlineTyped w.storage)
    (fun _ hfound ↦ absurd hfound (by simp [World.deployed, Storage.empty]))
    fun _ _ _ _ prior htyped hexec ↦
      (recordStep_of_exec (CampaignRun.untouched prior) hexec).deadlineTyped htyped

/-- What the rest of a run does to a campaign that has been concluded. -/
theorem CampaignRun.of_concluded
    (prior : CampaignRun contract overflowChecks ledger wasmHash earlier middle)
    (rest : Run (chain (standardHost contract overflowChecks)) middle later w)
    {concluded : CampaignData} (hfound : middle.storage.campaignData = some concluded)
    (hterminal : concluded.status.isTerminal = true) :
    ∃ campaign, w.storage.campaignData = some campaign ∧
      campaign.endTime = concluded.endTime ∧ campaign.status.isTerminal = true ∧
      (campaign.status = .cancelled ↔
        concluded.status = .cancelled ∨ ∃ r ∈ later, r.label.invokes Call.cancels = true) ∧
      ∀ i, IsReleased w.storage i ↔
        IsReleased middle.storage i ∨ ∃ r ∈ later, r.label.releasedIndex = some i := by
  refine rest.invariant (I := fun later w ↦ ∃ campaign, w.storage.campaignData = some campaign ∧
      campaign.endTime = concluded.endTime ∧ campaign.status.isTerminal = true ∧
      (campaign.status = .cancelled ↔
        concluded.status = .cancelled ∨ ∃ r ∈ later, r.label.invokes Call.cancels = true) ∧
      ∀ i, IsReleased w.storage i ↔
        IsReleased middle.storage i ∨ ∃ r ∈ later, r.label.releasedIndex = some i) ?_ ?_
  · exact ⟨concluded, hfound, rfl, hterminal, by simp, by simp⟩
  · rintro later w action next hlater ⟨campaign, hcampaign, hend, hstatus, hcancelled, hreleased⟩
      hexec
    have hrun := prior.append hlater
    have hstep := step_of_exec (CampaignRun.untouched hrun) hexec
    obtain ⟨after, hafter, hend', hstatus', hcancelled'⟩ :=
      (recordStep_of_exec (CampaignRun.untouched hrun) hexec).of_concluded hcampaign hstatus
    refine ⟨after, hafter, hend'.trans hend, hstatus', ?_, fun i ↦ ?_⟩
    · rw [hcancelled', hcancelled, List.exists_mem_cons_iff, or_assoc]
      exact or_congr_right or_comm
    · rw [hstep.isReleased_iff (CampaignRun.sound hrun) (by simp [hcampaign]), hreleased,
        List.exists_mem_cons_iff]
      exact or_left_comm

/-- A cancellation one second after the refund window of a deadline. -/
def Sample.lateCancel : Invocation :=
  ⟨1000 + refundWindow + 1, 3, [Sample.creator], .cancelCampaign⟩

/-- The creator cancels a funded campaign too late. -/
def Sample.lateCancellation : List Action :=
  [Sample.opening [⟨"XLM", some Sample.token⟩] [Sample.milestone 1000] 1000,
    Sample.giving Sample.donor 1000 Sample.token,
    .transfer Sample.token Sample.donor Sample.contract 1000, .invoke Sample.lateCancel]

/-- In every state after a conclusion that opened refunds, a donor who has not claimed is eligible
for thirty days from the conclusion exactly when the deadline covers them and refunds stay open. -/
theorem refund_window_iff {r : Receipt Action World} {inv : Invocation}
    {before concluded : CampaignData} {donor : Address} {record : DonorRecord}
    (run : CampaignRun contract overflowChecks ledger wasmHash (later ++ r :: earlier) w)
    (hlabel : r.label = .invoke inv) (hcall : inv.call.concludes = true)
    (hbefore : r.before.storage.campaignData = some before)
    (hconcluded : r.after.storage.campaignData = some concluded)
    (hopen : concluded.status = .cancelled ∨
      concluded.status = .ended ∧ ∀ i, ¬ IsReleased r.after.storage i)
    (hdonor : w.storage.donorData donor = some record) (hclaimed : record.refundClaimed = false) :
    EligibleThroughout (standardHost contract overflowChecks) donor inv.timestamp w ↔
      DeadlineCovers before.endTime inv.timestamp ∧ StaysRefundable r later := by
  obtain ⟨hearlier, hexec, hlater⟩ := run.split
  have hmiddle := hearlier.accept hexec
  rw [hlabel] at hexec
  obtain ⟨hend, hcancels⟩ := (recordStep_of_exec (CampaignRun.untouched hearlier)
    hexec).of_conclusion hcall hbefore hconcluded
  have hterminal : concluded.status.isTerminal = true := by
    rcases hopen with hstatus | ⟨hstatus, -⟩ <;> rw [hstatus] <;> rfl
  obtain ⟨campaign, hfound, hend', hterminal', hcancelled, hreleased⟩ :=
    CampaignRun.of_concluded hmiddle hlater hconcluded hterminal
  obtain ⟨v, hw⟩ := (CampaignRun.sound run).established hfound
  rw [eligibleThroughout_iff hfound hdonor hclaimed (CampaignRun.deadlineTyped run campaign hfound)
    (exec_invoke_eq_ok_iff.mp hexec).1.1, hend', hend]
  refine and_congr_right fun _ ↦ ?_
  have hcancels' : campaign.status = .cancelled ↔
      ∃ r' ∈ r :: later, r'.label.invokes Call.cancels = true := by
    rw [hcancelled, hcancels, List.exists_mem_cons_iff, hlabel]
    rfl
  rw [hw.refundsOpen_iff, StaysRefundable, ← hcancels']
  constructor
  · refine Or.imp_right fun ⟨_, hnone⟩ r' hr' ↦ ?_
    rw [Action.isRelease_eq_isSome, Bool.eq_false_iff, Ne, Option.isSome_iff_exists]
    rintro ⟨i, hi⟩
    exact hnone i ((hreleased i).mpr (.inr ⟨r', hr', hi⟩))
  · intro hstays
    by_cases hstatus : campaign.status = .cancelled
    · exact .inl hstatus
    · have hended : campaign.status = .ended := by
        cases hcampaign : campaign.status <;> simp_all [CampaignStatus.isTerminal]
      have hnone := (hopen.resolve_left fun h ↦ hstatus (hcancelled.mpr (.inl h))).2
      refine .inr ⟨hended, fun i hi ↦ ?_⟩
      rcases (hreleased i).mp hi with hi | ⟨r', hr', hi⟩
      · exact hnone i hi
      · have hrelease := hstays.resolve_left hstatus r' hr'
        rw [Action.isRelease_eq_isSome, hi] at hrelease
        exact absurd hrelease.symm Bool.false_ne_true

end Standard

/-- The last step of the sample run cancels the campaign, and the donor has not claimed. -/
theorem Sample.lateCancellation_last : ∃ r earlier before concluded record,
    Sample.history Sample.lateCancellation = [] ++ r :: earlier ∧
      r.label = .invoke Sample.lateCancel ∧ r.before.storage.campaignData = some before ∧
      r.after.storage.campaignData = some concluded ∧
      (Sample.reached Sample.lateCancellation).storage.donorData Sample.donor = some record ∧
      before.endTime = 1000 ∧ concluded.status = .cancelled ∧ record.refundClaimed = false := by
  have hlast : (Sample.history Sample.lateCancellation).head?.any (fun r ↦
      r.label = .invoke Sample.lateCancel ∧
        r.before.storage.campaignData.any (fun campaign ↦ campaign.endTime = 1000) = true ∧
        r.after.storage.campaignData.any (fun campaign ↦ campaign.status = .cancelled) = true)
      = true := by decide +kernel
  have hdonor : ((Sample.reached Sample.lateCancellation).storage.donorData Sample.donor).any
      (fun record ↦ record.refundClaimed = false) = true := by decide +kernel
  simp only [Option.any_eq_true, decide_eq_true_eq] at hlast hdonor
  obtain ⟨r, hhead, hlabel, ⟨before, hbefore, hend⟩, concluded, hconcluded, hstatus⟩ := hlast
  obtain ⟨record, hrecord, hclaimed⟩ := hdonor
  obtain ⟨earlier, hhistory⟩ := List.head?_eq_some_iff.mp hhead
  exact ⟨r, earlier, before, concluded, record, hhistory, hlabel, hbefore, hconcluded, hrecord,
    hend, hstatus, hclaimed⟩

theorem refund_window_iff_lateCancellation :
    ¬ EligibleThroughout (standardHost Sample.contract true) Sample.donor
      Sample.lateCancel.timestamp (Sample.reached Sample.lateCancellation) := by
  obtain ⟨r, earlier, before, concluded, record, hhistory, hlabel, hbefore, hconcluded, hrecord,
    hend, hstatus, hclaimed⟩ := Sample.lateCancellation_last
  have hrun := Sample.run Sample.lateCancellation
  rw [hhistory] at hrun
  rw [refund_window_iff hrun hlabel rfl hbefore hconcluded (.inl hstatus) hrecord hclaimed, hend]
  exact fun h ↦ absurd h.1 (by decide)

/-- A campaign can be cancelled too late for its donors to be refunded. -/
theorem cancelled_too_late :
    ¬ ∀ (contract : Address) (overflowChecks : Bool) (ledger : Ledger Address Address)
      (wasmHash : BitVec 256) (later earlier : List (Receipt Action World))
      (r : Receipt Action World) (w : World) (inv : Invocation) (concluded : CampaignData)
      (donor : Address) (record : DonorRecord),
      CampaignRun contract overflowChecks ledger wasmHash (later ++ r :: earlier) w →
        r.label = .invoke inv → r.after.storage.campaignData = some concluded →
        concluded.status = .cancelled → w.storage.donorData donor = some record →
        record.refundClaimed = false →
        EligibleThroughout (standardHost contract overflowChecks) donor inv.timestamp w := by
  intro h
  obtain ⟨r, earlier, before, concluded, record, hhistory, hlabel, -, hconcluded, hrecord, -,
    hstatus, hclaimed⟩ := Sample.lateCancellation_last
  have hrun := Sample.run Sample.lateCancellation
  rw [hhistory] at hrun
  have heligible := h _ _ _ _ _ _ _ _ _ _ _ _ hrun hlabel hconcluded hstatus hrecord hclaimed
    ⟨standardHost Sample.contract true, Sample.lateCancel.timestamp, 3, []⟩ rfl le_rfl
    (Nat.le_add_right _ _) (by decide)
  revert heligible
  decide +kernel

end OrbitChain.Campaign
