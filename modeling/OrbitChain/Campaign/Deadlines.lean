import OrbitChain.Campaign.RefundArithmetic

/-!
# Deadlines

Two entrypoints set the deadline of the campaign. `extend_deadline` compares the new deadline with
the ledger time and with the ten years after it, but not with the deadline it replaces; `initialize`
compares its deadline with the ledger time only. So a run keeps its deadlines, never earlier and at
most ten years after they were set, exactly when every initialization of it stays within the ten
years and no extension of it names an earlier deadline (`deadlines_kept_iff`).
-/

set_option autoImplicit false
set_option relaxedAutoImplicit false

namespace OrbitChain.Campaign

open Foundations

/-- The deadline that a call sets. -/
def Call.newDeadline : Call → Option ℕ
  | .initializeCampaign _ _ endTime _ _ _ => some endTime
  | .extendDeadline newEndTime => some newEndTime
  | _ => none

/-- The deadline that an action sets and the ledger time at which it does. -/
def Action.setsDeadline : Action → Option (ℕ × ℕ)
  | .invoke inv => inv.call.newDeadline.map fun endTime ↦ (endTime, inv.timestamp)
  | .transfer _ _ _ _ => none

/-- The deadline that a history set last and the ledger time at which it did. -/
def lastDeadline (history : List (Receipt Action World)) : Option (ℕ × ℕ) :=
  history.findSome? fun r ↦ r.label.setsDeadline

/-- The deadline of the campaign, if there is one, was set by the history, to at most ten years
after the ledger time at which it was. -/
def DeadlineBounded (history : List (Receipt Action World)) (s : Storage) : Prop :=
  ∀ campaign, s.campaignData = some campaign →
    ∃ timestamp, lastDeadline history = some (campaign.endTime, timestamp) ∧
      campaign.endTime ≤ timestamp + maxDeadlineGapSeconds

/-- A step does not bring the deadline forward and leaves it bounded. -/
def KeepsDeadline (earlier : List (Receipt Action World)) (r : Receipt Action World) : Prop :=
  r.before.storage.endTime ≤ r.after.storage.endTime ∧
    DeadlineBounded (r :: earlier) r.after.storage

/-- The condition on a call made at a ledger time: the deadline of a new campaign is at most ten
years away, and an extension is not to an earlier deadline. -/
def Call.ExtendsDeadline (call : Call) (timestamp : ℕ) (s : Storage) : Prop :=
  match call with
  | .initializeCampaign _ _ endTime _ _ _ => endTime ≤ timestamp + maxDeadlineGapSeconds
  | .extendDeadline newEndTime => s.endTime ≤ newEndTime
  | _ => True

instance (call : Call) (timestamp : ℕ) (s : Storage) :
    Decidable (call.ExtendsDeadline timestamp s) :=
  match call with
  | .initializeCampaign _ _ endTime _ _ _ =>
    inferInstanceAs (Decidable (endTime ≤ timestamp + maxDeadlineGapSeconds))
  | .extendDeadline newEndTime => inferInstanceAs (Decidable (s.endTime ≤ newEndTime))
  | .donate _ _ _ | .claimRefund _ | .endCampaign | .cancelCampaign | .releaseMilestone _ _
  | .releaseMilestoneMultiAsset _ _ | .upgrade _ | .freeze | .unfreeze | .blockAsset _
  | .unblockAsset _ | .bumpStorage => inferInstanceAs (Decidable True)

/-- The condition on a step of a run. -/
def ExtendsDeadline (r : Receipt Action World) : Prop :=
  match r.label with
  | .invoke inv => inv.call.ExtendsDeadline inv.timestamp r.before.storage
  | .transfer _ _ _ _ => True

instance (r : Receipt Action World) : Decidable (ExtendsDeadline r) :=
  match r with
  | ⟨.transfer _ _ _ _, _, _⟩ => inferInstanceAs (Decidable True)
  | ⟨.invoke inv, before, _⟩ =>
    inferInstanceAs (Decidable (inv.call.ExtendsDeadline inv.timestamp before.storage))

/-! ### What a step does to the deadline -/

theorem Storage.endTime_of_found {s : Storage} {campaign : CampaignData}
    (h : s.campaignData = some campaign) : s.endTime = campaign.endTime := by
  rw [endTime, h]
  rfl

/-- Only initializations and extensions set a deadline or have a condition to meet. -/
theorem extendsDeadline_of_silent {r : Receipt Action World}
    (h : r.label.setsDeadline = none) : ExtendsDeadline r := by
  obtain ⟨⟨timestamp, sequence, authorisers, call⟩ | _, before, after⟩ := r
  · cases call with
    | initializeCampaign | extendDeadline => exact absurd h (Option.some_ne_none _)
    | _ => trivial
  · trivial

theorem lastDeadline_cons (r : Receipt Action World) (earlier : List (Receipt Action World)) :
    lastDeadline (r :: earlier) = r.label.setsDeadline.or (lastDeadline earlier) := by
  rw [lastDeadline, List.findSome?_cons]
  cases r.label.setsDeadline <;> rfl

/-- An extension stays within ten years. -/
theorem newEndTime_le_of_extendDeadline {env : Env} {newEndTime : ℕ} {w next : World}
    (h : CampaignContract.extendDeadline env newEndTime w = .ok next) :
    newEndTime ≤ env.timestamp + maxDeadlineGapSeconds := by
  simp only [CampaignContract.extendDeadline, bind_eq_ok_iff, failIf_eq_ok_iff, not_or, not_lt]
    at h
  obtain ⟨_, -, _, -, _, -, _, -, _, hend, -⟩ := h
  exact hend.2.trans (min_le_left _ _)

section Standard

variable {contract : Address} {overflowChecks : Bool} {ledger : Ledger Address Address}
  {wasmHash : BitVec 256} {history : List (Receipt Action World)} {action : Action}
  {w next : World}

/-- The end time a step leaves is the deadline it sets, or the one it found. -/
theorem endTime_of_exec (hw : Sound w.storage)
    (h : (chain (standardHost contract overflowChecks)).exec action w = .ok next) :
    next.storage.endTime = (action.setsDeadline.map Prod.fst).getD w.storage.endTime := by
  refine (congrArg RefundTerms.endTime (refundTerms_of_exec hw h)).trans ?_
  obtain ⟨timestamp, sequence, authorisers, call⟩ | _ := action
  · cases call <;> rfl
  · rfl

/-- A step that sets no deadline finds the campaign that it leaves, if any. -/
theorem campaign_of_silent (huntouched : Untouched w.storage)
    (h : (chain (standardHost contract overflowChecks)).exec action w = .ok next)
    (hsilent : action.setsDeadline = none) :
    w.storage.campaignData = none ↔ next.storage.campaignData = none := by
  have hstep := step_of_exec huntouched h
  cases action with
  | transfer =>
    cases hstep with
    | transferred _ _ hstorage => rw [hstorage]
  | invoke inv =>
    refine iff_of_false (fun hfresh ↦ ?_) hstep.campaign_isSome
    obtain ⟨_, _, _, _, _, _, hcall⟩ := hstep.initialize_of_fresh hfresh
    rw [Action.setsDeadline, hcall] at hsilent
    exact absurd hsilent (Option.some_ne_none _)

/-- The deadline of the campaign is the one that the run set last. -/
theorem CampaignRun.lastDeadline_eq
    (run : CampaignRun contract overflowChecks ledger wasmHash history w) :
    (lastDeadline history).map Prod.fst = w.storage.campaignData.map CampaignData.endTime := by
  refine run.invariant (I := fun history w ↦ (lastDeadline history).map Prod.fst =
    w.storage.campaignData.map CampaignData.endTime) rfl ?_
  intro history w action next prior ih hexec
  have hw := CampaignRun.sound prior
  have hend := endTime_of_exec hw hexec
  have hfound : ∀ {s : Storage}, s.campaignData ≠ none →
      s.campaignData.map CampaignData.endTime = some s.endTime := by
    intro s hs
    obtain ⟨campaign, hcampaign⟩ := Option.ne_none_iff_exists'.mp hs
    rw [Storage.endTime_of_found hcampaign, hcampaign, Option.map_some]
  rw [lastDeadline_cons]
  cases hset : action.setsDeadline with
  | none =>
    have hcampaign := campaign_of_silent hw.untouched hexec hset
    rw [hset, Option.map_none, Option.getD_none] at hend
    rw [Option.none_or, ih]
    by_cases hfresh : w.storage.campaignData = none
    · rw [hfresh, hcampaign.mp hfresh]
    · rw [hfound hfresh, hfound (hcampaign.not.mp hfresh), hend]
  | some set =>
    rw [hset, Option.map_some, Option.getD_some] at hend
    cases action with
    | transfer => exact absurd hset.symm (Option.some_ne_none set)
    | invoke inv =>
      rw [hfound (step_of_exec hw.untouched hexec).campaign_isSome, hend]
      rfl

/-- A run leaves the deadline bounded exactly when it set it to a time that is. -/
theorem CampaignRun.deadlineBounded_iff
    (run : CampaignRun contract overflowChecks ledger wasmHash history w) :
    DeadlineBounded history w.storage ↔ ∀ endTime timestamp,
      lastDeadline history = some (endTime, timestamp) →
        endTime ≤ timestamp + maxDeadlineGapSeconds := by
  have hlast := CampaignRun.lastDeadline_eq run
  constructor
  · intro hbounded endTime timestamp hset
    rw [hset, Option.map_some] at hlast
    obtain ⟨campaign, hcampaign, rfl⟩ := Option.map_eq_some_iff.mp hlast.symm
    obtain ⟨found, hfound, hle⟩ := hbounded campaign hcampaign
    obtain ⟨-, rfl⟩ := Prod.mk.inj (Option.some.inj (hset.symm.trans hfound))
    exact hle
  · intro hbounded campaign hcampaign
    rw [hcampaign, Option.map_some] at hlast
    obtain ⟨⟨endTime, timestamp⟩, hset, rfl⟩ := Option.map_eq_some_iff.mp hlast
    exact ⟨timestamp, hset, hbounded _ _ hset⟩

/-- After a run that kept its deadlines, the deadline it set last is bounded. -/
theorem CampaignRun.lastDeadline_bounded
    (run : CampaignRun contract overflowChecks ledger wasmHash history w)
    (hkept : Throughout KeepsDeadline history) {endTime timestamp : ℕ}
    (hset : lastDeadline history = some (endTime, timestamp)) :
    endTime ≤ timestamp + maxDeadlineGapSeconds := by
  cases history with
  | nil => exact absurd hset.symm (Option.some_ne_none _)
  | cons r earlier =>
    have hwhole : CampaignRun contract overflowChecks ledger wasmHash ([] ++ r :: earlier) w := run
    obtain ⟨hearlier, hexec, -⟩ := hwhole.split
    have hafter := hearlier.accept hexec
    exact (CampaignRun.deadlineBounded_iff hafter).mp hkept.1.2 endTime timestamp hset

/-- A step after such a run keeps the deadline exactly when it meets its condition. -/
theorem keepsDeadline_iff
    (prior : CampaignRun contract overflowChecks ledger wasmHash history w)
    (hkept : Throughout KeepsDeadline history)
    (hexec : (chain (standardHost contract overflowChecks)).exec action w = .ok next) :
    KeepsDeadline history ⟨action, w, next⟩ ↔ ExtendsDeadline ⟨action, w, next⟩ := by
  have hw := CampaignRun.sound prior
  have hend := endTime_of_exec hw hexec
  have hbounded := CampaignRun.deadlineBounded_iff (prior.accept hexec)
  unfold KeepsDeadline
  rw [hbounded]
  cases hset : action.setsDeadline with
  | none =>
    rw [hset] at hend
    refine iff_of_true ⟨hend.ge, fun endTime timestamp hlast ↦ ?_⟩
      (extendsDeadline_of_silent hset)
    rw [lastDeadline_cons, hset, Option.none_or] at hlast
    exact CampaignRun.lastDeadline_bounded prior hkept hlast
  | some set =>
    rw [lastDeadline_cons, hset, Option.some_or]
    rw [hset, Option.map_some, Option.getD_some] at hend
    obtain ⟨inv⟩ | _ := action
    · obtain ⟨timestamp, sequence, authorisers, call⟩ := inv
      cases call with
      | initializeCampaign creator goalAmount endTime acceptedAssets milestones minimum =>
        obtain rfl := Option.some.inj hset
        have hstep := step_of_exec hw.untouched hexec
        obtain ⟨hempty, -⟩ := hstep.of_initialize rfl
        have hnothing : w.storage.endTime = 0 := by rw [hempty]; rfl
        constructor
        · rintro ⟨-, hgap⟩
          exact hgap endTime timestamp rfl
        · intro hgap
          refine ⟨hnothing ▸ Nat.zero_le _, fun _ _ hlast ↦ ?_⟩
          obtain ⟨rfl, rfl⟩ := Prod.mk.inj (Option.some.inj hlast)
          exact hgap
      | extendDeadline newEndTime =>
        obtain rfl := Option.some.inj hset
        have hgap := newEndTime_le_of_extendDeadline (exec_invoke_eq_ok_iff.mp hexec).2
        constructor
        · rintro ⟨hle, -⟩
          exact hle.trans_eq hend
        · intro hle
          refine ⟨hle.trans_eq hend.symm, fun _ _ hlast ↦ ?_⟩
          obtain ⟨rfl, rfl⟩ := Prod.mk.inj (Option.some.inj hlast)
          exact hgap
      | _ => exact absurd hset.symm (Option.some_ne_none set)
    · exact absurd hset.symm (Option.some_ne_none set)

/-- A run keeps its deadlines, never earlier and at most ten years after they were set, exactly
when its initializations stay within the ten years and its extensions name no earlier deadline. -/
theorem deadlines_kept_iff
    (run : CampaignRun contract overflowChecks ledger wasmHash history w) :
    Throughout KeepsDeadline history ↔ Throughout (fun _ r ↦ ExtendsDeadline r) history :=
  run.throughout_iff fun _ _ _ _ prior hkept _ hexec ↦ keepsDeadline_iff prior hkept hexec

end Standard

section Examples

open Sample

/-- The creator moves the deadline of a campaign that ends at 1000. -/
def deadlineMoved (newEndTime : ℕ) : List Action :=
  [opening [⟨"XLM", some token⟩] [milestone 1000] 1000, call creator (.extendDeadline newEndTime)]

theorem deadlines_kept_iff_extended :
    (history (deadlineMoved 2000)).length = 2 ∧
      Throughout KeepsDeadline (history (deadlineMoved 2000)) :=
  ⟨by decide +kernel, (deadlines_kept_iff (run (deadlineMoved 2000))).mpr (by decide +kernel)⟩

/-- A campaign that ends one second after the ten years. -/
def farDeadline : List Action :=
  [call creator (.initializeCampaign creator 1000 (20 + maxDeadlineGapSeconds + 1)
    [⟨"XLM", some token⟩] [milestone 1000] 0)]

/-- An extension of the deadline from 1000 to 500 succeeds, and so does an initialization with a
deadline more than ten years away. -/
theorem deadlines_not_kept :
    (¬ ∀ (contract : Address) (overflowChecks : Bool) (ledger : Ledger Address Address)
      (wasmHash : BitVec 256) (history : List (Receipt Action World)) (w : World),
      CampaignRun contract overflowChecks ledger wasmHash history w →
        Throughout KeepsDeadline history) ∧
    (∃ r ∈ history (deadlineMoved 500), r.before.storage.endTime = 1000 ∧
      r.after.storage.endTime = 500) ∧
    ¬ DeadlineBounded (history farDeadline) (reached farDeadline).storage := by
  have hforward : ∃ r ∈ history (deadlineMoved 500), r.before.storage.endTime = 1000 ∧
      r.after.storage.endTime = 500 := by decide +kernel
  refine ⟨fun h ↦ ?_, hforward, fun h ↦ ?_⟩
  · obtain ⟨r, hr, hbefore, hafter⟩ := hforward
    obtain ⟨_, hle, -⟩ := (h _ _ _ _ _ _ (run (deadlineMoved 500))).of_mem hr
    rw [hbefore, hafter] at hle
    exact absurd hle (by decide)
  · have hle := (CampaignRun.deadlineBounded_iff (run farDeadline)).mp h
      (20 + maxDeadlineGapSeconds + 1) 20 (by decide +kernel)
    exact absurd hle (by decide)

end Examples

end OrbitChain.Campaign
