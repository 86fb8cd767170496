import OrbitChain.Campaign.Administration
import OrbitChain.Campaign.Invariants

/-!
# The freeze

A frozen contract should reject every write. The donation, the claim, the single-asset release,
the three calls that write the campaign record and the upgrade look at the flag. The multi-asset
release does not, so it pays out of a frozen contract; and an asset can be blocked or unblocked
while frozen. What a frozen contract keeps of its storage and its balances is therefore decided
by the call alone (`Call.HarmlessWhenFrozen`).
-/

set_option autoImplicit false
set_option relaxedAutoImplicit false

namespace OrbitChain.Campaign

open Foundations

/-- A step that stored nothing and moved nothing. -/
def Unchanged (w next : World) : Prop :=
  next.storage = w.storage ∧
    ∀ token account, next.ledger.balance token account = w.ledger.balance token account

/-- A step that found the contract frozen and did not unfreeze it left everything as it was. -/
def FreezeHolds (r : Receipt Action World) : Prop :=
  ∀ inv, r.label = .invoke inv → inv.call ≠ .unfreeze → r.before.storage.isFrozen = true →
    Unchanged r.before r.after

/-- The calls that a frozen contract rejects, or that write what is already there. -/
def Call.HarmlessWhenFrozen (call : Call) (s : Storage) : Prop :=
  match call with
  | .releaseMilestoneMultiAsset _ _ => False
  | .blockAsset asset => s.blockedAsset asset = some true
  | .unblockAsset asset => s.blockedAsset asset = some false
  | _ => True

/-- A step that found the contract frozen made a harmless call. -/
def RespectsFreeze (r : Receipt Action World) : Prop :=
  ∀ inv, r.label = .invoke inv → r.before.storage.isFrozen = true →
    inv.call.HarmlessWhenFrozen r.before.storage

/-- The contract is frozen when the flag has been set and not taken back. -/
theorem isFrozen_iff {s : Storage} : s.isFrozen = true ↔ s.frozen = some true := by
  unfold Storage.isFrozen
  cases s.frozen with
  | none => simp
  | some frozen => simp

/-- A flag that is written twice is written once. -/
theorem update_eq_self_iff {flags : Address → Option Bool} {asset : Address} {flag : Bool} :
    Function.update flags asset (some flag) = flags ↔ flags asset = some flag := by
  rw [Function.update_eq_self_iff]
  exact eq_comm

/-- On a frozen contract a flag call other than unfreezing changes nothing exactly when the flag
it writes is already there. -/
theorem Call.flagged_eq_self_iff {call : Call} {s : Storage} (hfrozen : s.isFrozen = true)
    (hadministrative : call.isAdministrative = true) (hunfreeze : call ≠ .unfreeze) :
    call.flagged s = s ↔ call.HarmlessWhenFrozen s := by
  cases call with
  | blockAsset asset =>
    show s.blockAsset asset = s ↔ s.blockedAsset asset = some true
    rw [← update_eq_self_iff]
    exact ⟨fun h ↦ congrArg Storage.blockedAsset h, fun h ↦ by rw [Storage.blockAsset, h]⟩
  | unblockAsset asset =>
    show s.unblockAsset asset = s ↔ s.blockedAsset asset = some false
    rw [← update_eq_self_iff]
    exact ⟨fun h ↦ congrArg Storage.blockedAsset h, fun h ↦ by rw [Storage.unblockAsset, h]⟩
  | freeze =>
    refine iff_of_true ?_ trivial
    show s.setFrozen true = s
    rw [Storage.setFrozen, ← isFrozen_iff.mp hfrozen]
  | unfreeze => exact absurd rfl hunfreeze
  | releaseMilestoneMultiAsset => exact absurd hadministrative Bool.false_ne_true
  | _ => exact iff_of_true rfl trivial

/-- The release counter of a frozen contract gives a multi-asset release away. -/
theorem MultiAssetRelease.Released.storage_ne {env : Env} {index : ℕ} {recipient : Address}
    {w next : World} {campaign : CampaignData} {milestone : MilestoneData}
    (h : MultiAssetRelease.Released env index recipient w next campaign milestone) :
    next.storage ≠ w.storage := by
  intro hsame
  obtain ⟨report, -, hstorage⟩ := h.storage
  have hcount := congrArg Storage.getReleaseCount (hstorage.symm.trans hsame)
  change w.storage.getReleaseCount + 1 = w.storage.getReleaseCount at hcount
  omega

section Standard

variable {contract : Address} {overflowChecks : Bool} {ledger : Ledger Address Address}
  {wasmHash : BitVec 256} {history : List (Receipt Action World)} {w next : World}

/-- A successful call other than unfreezing leaves a frozen contract as it was exactly when it is
harmless. -/
theorem unchanged_iff_of_frozen {inv : Invocation} (huntouched : Untouched w.storage)
    (hexec : (chain (standardHost contract overflowChecks)).exec (.invoke inv) w = .ok next)
    (hfrozen : w.storage.isFrozen = true) (hunfreeze : inv.call ≠ .unfreeze) :
    Unchanged w next ↔ inv.call.HarmlessWhenFrozen w.storage := by
  have hguard {P : Prop} (hnot : w.storage.isFrozen = false) : P :=
    absurd (hnot.symm.trans hfrozen) Bool.false_ne_true
  cases step_of_exec huntouched hexec with
  | initialized _ _ hempty _ => exact hguard (by rw [hempty]; rfl)
  | donated _ _ h => exact hguard h.not_frozen
  | claimed _ _ h => exact hguard h.not_frozen
  | released _ _ h => exact hguard h.not_frozen
  | multiReleased _ hcall h =>
    rw [hcall]
    exact iff_of_false (fun hsame ↦ h.storage_ne hsame.1) id
  | administered _ hadministrative _ =>
    obtain ⟨campaign, h | h⟩ := CampaignContract.flagged_or_amended hadministrative
      (exec_invoke_eq_ok_iff.mp hexec).2
    · rw [← Call.flagged_eq_self_iff hfrozen hadministrative hunfreeze, ← h.storage]
      exact and_iff_left fun token account ↦ by rw [h.ledger]
    · exact hguard h.not_frozen

/-- The creator freezes the contract of a fully funded campaign and then releases its milestone
through the multi-asset entrypoint. -/
def Sample.releaseFrozen : List Action :=
  [Sample.opening [⟨"XLM", some Sample.token⟩] [Sample.milestone 1000] 1000,
    Sample.giving Sample.donor 1000 Sample.token,
    .transfer Sample.token Sample.donor Sample.contract 1000,
    Sample.call Sample.creator .freeze,
    Sample.call Sample.creator (.releaseMilestoneMultiAsset 0 Sample.recipient)]

/-- A frozen contract is left as it was throughout a run exactly when every call the run makes to
it while frozen is harmless. -/
theorem freeze_holds_iff
    (run : CampaignRun contract overflowChecks ledger wasmHash history w) :
    (∀ r ∈ history, FreezeHolds r) ↔ ∀ r ∈ history, RespectsFreeze r := by
  refine forall₂_congr fun r hr ↦ ?_
  obtain ⟨hexec, earlier, hearlier⟩ := run.fired hr
  refine forall₂_congr fun inv hlabel ↦ ?_
  rw [hlabel] at hexec
  by_cases hunfreeze : inv.call = .unfreeze
  · rw [hunfreeze]
    exact iff_of_true (fun hne ↦ absurd rfl hne) fun _ ↦ trivial
  · rw [imp_iff_right hunfreeze]
    exact forall_congr' fun hfrozen ↦
      unchanged_iff_of_frozen (CampaignRun.untouched hearlier) hexec hfrozen hunfreeze

end Standard

/-- The multi-asset release counts a release on the frozen contract. -/
theorem Sample.not_freezeHolds_releaseFrozen :
    ¬ ∀ r ∈ Sample.history Sample.releaseFrozen, FreezeHolds r := by
  intro h
  have hreleased : ∃ r ∈ Sample.history Sample.releaseFrozen,
      r.label = Sample.call Sample.creator (.releaseMilestoneMultiAsset 0 Sample.recipient) ∧
        r.before.storage.isFrozen = true ∧
          r.after.storage.releaseCount ≠ r.before.storage.releaseCount := by decide +kernel
  obtain ⟨r, hr, hlabel, hfrozen, hcount⟩ := hreleased
  have hsame := h r hr _ hlabel (fun hcall ↦ nomatch hcall) hfrozen
  exact hcount (congrArg Storage.releaseCount hsame.1)

theorem freeze_holds_iff_releaseFrozen :
    ¬ ∀ r ∈ Sample.history Sample.releaseFrozen, RespectsFreeze r := by
  rw [← freeze_holds_iff (Sample.run Sample.releaseFrozen)]
  exact Sample.not_freezeHolds_releaseFrozen

/-- A frozen contract can be paid out of. -/
theorem frozen_contract_pays :
    ¬ ∀ (contract : Address) (overflowChecks : Bool) (ledger : Ledger Address Address)
      (wasmHash : BitVec 256) (history : List (Receipt Action World)) (w : World),
      CampaignRun contract overflowChecks ledger wasmHash history w →
        ∀ r ∈ history, FreezeHolds r :=
  fun h ↦ Sample.not_freezeHolds_releaseFrozen (h _ _ _ _ _ _ (Sample.run Sample.releaseFrozen))

end OrbitChain.Campaign
