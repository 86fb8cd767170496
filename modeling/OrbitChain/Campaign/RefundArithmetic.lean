import OrbitChain.Campaign.Administration
import OrbitChain.Campaign.IncrementalPayout

/-!
# Plain operators on the refund path

A claim adds the refund window to the end time, adds up what the milestones count as released and
subtracts that from the raised amount, all with plain operators. `RefundArithmetic` says that each
of them gives its exact result in every build and that the difference is not negative.

The operands are three terms of the storage (`RefundTerms`), and every action does something
simple to them (`Action.refundTerms`): a release puts the milestone's cumulative target in the
place of what it counted as released. The operators stay in range along a run exactly when each
step keeps the terms in range (`refund_arithmetic_iff`).
-/

set_option autoImplicit false
set_option relaxedAutoImplicit false

namespace OrbitChain.Campaign

open Foundations

/-- The plain operators of a claim give their exact results, and the last one is not negative. -/
structure RefundArithmetic (s : Storage) (campaign : CampaignData) : Prop where
  closing : ∀ overflowChecks, uncheckedU64 overflowChecks Failure.trap
    (campaign.endTime + refundWindow) = .ok (campaign.endTime + refundWindow)
  running : ∀ overflowChecks, ∀ i ≤ campaign.milestoneCount,
    CampaignContract.sumReleased overflowChecks s.getMilestone i =
      .ok (CampaignContract.releasedTotal s.getMilestone i)
  difference : ∀ overflowChecks, uncheckedI128 overflowChecks Failure.trap (campaign.raisedAmount -
      CampaignContract.releasedTotal s.getMilestone campaign.milestoneCount) =
    .ok (campaign.raisedAmount -
      CampaignContract.releasedTotal s.getMilestone campaign.milestoneCount)
  difference_nonneg : 0 ≤ campaign.raisedAmount -
    CampaignContract.releasedTotal s.getMilestone campaign.milestoneCount

/-! ### The operands -/

/-- The end time, the raised amount and what the milestones count as released. -/
structure RefundTerms where
  endTime : ℕ
  raised : ℤ
  released : List ℤ

/-- Released amounts whose running sums are representable and which leave a representable,
nonnegative rest of the raised amount. -/
def ReleasedInRange (raised : ℤ) (released : List ℤ) : Prop :=
  (∀ i ≤ released.length, InI128 (released.take i).sum) ∧ released.sum ≤ raised ∧
    raised - released.sum ≤ i128Max

instance (raised : ℤ) (released : List ℤ) : Decidable (ReleasedInRange raised released) :=
  inferInstanceAs (Decidable (_ ∧ _ ∧ _))

/-- The end of the window and the sums are in range. -/
def RefundTerms.InRange (terms : RefundTerms) : Prop :=
  terms.endTime + refundWindow ≤ u64Max ∧ ReleasedInRange terms.raised terms.released

namespace Storage

/-- What the milestones count as released. -/
def releasedAmounts (s : Storage) : List ℤ := s.getMilestonesVec.map MilestoneData.releasedAmount

def endTime (s : Storage) : ℕ := (s.campaignData.map CampaignData.endTime).getD 0

/-- The operands in a storage. -/
def refundTerms (s : Storage) : RefundTerms := ⟨s.endTime, s.raisedAmount, s.releasedAmounts⟩

end Storage

/-- The operands of an established campaign. -/
theorem Established.refundTerms_eq {s : Storage} {campaign : CampaignData}
    {v : List MilestoneData} (h : Established s campaign v) :
    s.refundTerms =
      ⟨campaign.endTime, campaign.raisedAmount, v.map MilestoneData.releasedAmount⟩ := by
  rw [Storage.refundTerms, Storage.endTime, Storage.raisedAmount, Storage.releasedAmounts, h.found,
    Storage.getMilestonesVec_of_vec h.vec]
  rfl

/-- Before there is a campaign, nothing can leave its range. -/
theorem refundTerms_empty_inRange : Storage.empty.refundTerms.InRange := by
  have hterms : Storage.empty.refundTerms = ⟨0, 0, []⟩ := by
    simp [Storage.refundTerms, Storage.endTime, Storage.raisedAmount, Storage.releasedAmounts,
      Storage.getMilestonesVec, Storage.empty, Storage.indexSpace, Storage.gatherMilestones]
  rw [hterms]
  refine ⟨by decide, ?_⟩
  decide

/-- A plain operator gives its exact result in every build exactly when the result is in
range. -/
theorem uncheckedI128_exact_iff {x : ℤ} :
    (∀ overflowChecks, uncheckedI128 overflowChecks Failure.trap x = .ok x) ↔ InI128 x :=
  ⟨fun h ↦ (uncheckedI128_ok (h true)).1, fun h _ ↦ uncheckedI128_of_inI128 h⟩

theorem uncheckedU64_exact_iff {x : ℕ} :
    (∀ overflowChecks, uncheckedU64 overflowChecks Failure.trap x = .ok x) ↔ x ≤ u64Max := by
  constructor
  · intro h
    by_contra hrange
    have htrap := h true
    rw [uncheckedU64, if_neg hrange, if_pos rfl] at htrap
    cases htrap
  · exact fun h _ ↦ uncheckedU64_of_le h

/-- The plain operators are exact when the operands are in range. -/
theorem Established.refundArithmetic_iff {s : Storage} {campaign : CampaignData}
    {v : List MilestoneData} (h : Established s campaign v) :
    RefundArithmetic s campaign ↔ s.refundTerms.InRange := by
  have htotal : ∀ i, CampaignContract.releasedTotal s.getMilestone i =
      ((v.map MilestoneData.releasedAmount).take i).sum := by
    intro i
    rw [CampaignContract.releasedTotal_of_vec h.vec h.sparse, List.map_take]
  have hall : CampaignContract.releasedTotal s.getMilestone campaign.milestoneCount =
      (v.map MilestoneData.releasedAmount).sum := by
    rw [htotal, h.count, ← List.length_map MilestoneData.releasedAmount, List.take_length]
  rw [h.refundTerms_eq]
  unfold RefundTerms.InRange ReleasedInRange
  rw [List.length_map, ← h.count]
  constructor
  · rintro ⟨hclosing, hrunning, hdifference, hnonneg⟩
    rw [hall] at hnonneg hdifference
    refine ⟨uncheckedU64_exact_iff.mp hclosing, fun i hi ↦ ?_, sub_nonneg.mp hnonneg,
      (uncheckedI128_exact_iff.mp hdifference).2⟩
    rw [← htotal]
    exact (CampaignContract.sumReleased_ok (hrunning true i hi)).1
  · rintro ⟨hclosing, hrunning, hle, hrange⟩
    refine ⟨uncheckedU64_exact_iff.mpr hclosing, fun _ i hi ↦ ?_, ?_, ?_⟩
    · apply CampaignContract.sumReleased_of_inRange
      intro j hj
      rw [htotal]
      exact hrunning j (hj.trans hi)
    · rw [hall]
      apply uncheckedI128_exact_iff.mpr
      exact ⟨le_trans (by decide) (sub_nonneg.mpr hle), hrange⟩
    · rw [hall]
      exact sub_nonneg.mpr hle

/-! ### What actions do to the operands -/

/-- The operands a call leaves. -/
def Call.refundTerms (call : Call) (s : Storage) : RefundTerms :=
  match call with
  | .initializeCampaign _ _ endTime _ milestones _ =>
    ⟨endTime, 0, milestones.map MilestoneData.releasedAmount⟩
  | .extendDeadline newEndTime => { s.refundTerms with endTime := newEndTime }
  | .donate _ amount _ => { s.refundTerms with raised := s.raisedAmount + amount }
  | .releaseMilestone index _ | .releaseMilestoneMultiAsset index _ =>
    { s.refundTerms with released := s.releasedAmounts.set index (s.target index) }
  | _ => s.refundTerms

/-- The operands an action leaves. -/
def Action.refundTerms (action : Action) (s : Storage) : RefundTerms :=
  match action with
  | .invoke inv => inv.call.refundTerms s
  | .transfer _ _ _ _ => s.refundTerms

/-- Unlocking leaves the released amounts. -/
theorem map_unlock_released (raised : ℤ) (v : List MilestoneData) :
    (v.map (MilestoneData.unlock raised)).map MilestoneData.releasedAmount =
      v.map MilestoneData.releasedAmount :=
  map_map_unlock _ (fun _ _ ↦ rfl) raised v

/-- A release counts its milestone as released up to its target. -/
theorem Established.refundTerms_of_release {s s' : Storage} {campaign : CampaignData}
    {v : List MilestoneData} (h : Established s campaign v) {index : ℕ}
    {m data : MilestoneData} (hm : v[index]? = some m)
    (hdata : data.releasedAmount = m.targetAmount)
    (h' : Established s' campaign (v.set index data)) :
    s'.refundTerms =
      { s.refundTerms with released := s.releasedAmounts.set index (s.target index) } := by
  have htarget : s.target index = data.releasedAmount := by
    rw [target_of_found ((h.getMilestone index).trans hm), hdata]
  have hamounts : s.releasedAmounts = v.map MilestoneData.releasedAmount := by
    rw [Storage.releasedAmounts, Storage.getMilestonesVec_of_vec h.vec]
  rw [h'.refundTerms_eq, h.refundTerms_eq, htarget, hamounts, List.map_set]

/-- An administrative call leaves the end time it asks for. -/
theorem refundTerms_of_administrative {env : Env} {call : Call} {w next : World}
    (hcall : call.isAdministrative = true) (h : invoke env call w = .ok next) :
    { w.storage.refundTerms with endTime := next.storage.endTime } =
      call.refundTerms w.storage := by
  obtain ⟨campaign, hflagged | hamended⟩ :=
    CampaignContract.flagged_or_amended hcall h
  · have hend : next.storage.endTime = w.storage.endTime := by
      rw [Storage.endTime, Storage.endTime, hflagged.campaignData_eq, hflagged.found]
    rw [hend]
    have hflags := hflagged.call_flags
    cases call with
    | upgrade | freeze | unfreeze | blockAsset | unblockAsset | bumpStorage => rfl
    | _ => exact absurd hflags Bool.false_ne_true
  · have hend : next.storage.endTime = (call.amended env campaign).endTime := by
      rw [Storage.endTime, hamended.campaignData_eq]
      rfl
    have hbefore : w.storage.endTime = campaign.endTime := by
      rw [Storage.endTime, hamended.found]
      rfl
    rw [hend]
    cases call with
    | initializeCampaign | donate | claimRefund | releaseMilestone | releaseMilestoneMultiAsset =>
      exact absurd hcall Bool.false_ne_true
    | extendDeadline => rfl
    | _ =>
      change { w.storage.refundTerms with endTime := campaign.endTime } = w.storage.refundTerms
      rw [← hbefore]
      rfl

section Standard

variable {contract : Address} {overflowChecks : Bool}

/-- Every successful action leaves the operands it says. -/
theorem refundTerms_of_exec {action : Action} {w next : World} (hw : Sound w.storage)
    (h : (chain (standardHost contract overflowChecks)).exec action w = .ok next) :
    next.storage.refundTerms = action.refundTerms w.storage := by
  cases step_of_exec hw.untouched h with
  | transferred _ _ hstorage =>
    rw [hstorage]
    rfl
  | initialized _ hcall hempty hinit =>
    rw [(Established.of_initialized hinit hempty).refundTerms_eq, Action.refundTerms, hcall]
    rfl
  | donated _ hcall hdonated =>
    obtain ⟨v, hv⟩ := hw.established hdonated.found
    rw [(hv.of_donated hdonated).2.refundTerms_eq, map_unlock_released, Action.refundTerms, hcall,
      Call.refundTerms, hv.refundTerms_eq, hv.raisedAmount_eq]
    rfl
  | claimed _ hcall hclaimed =>
    obtain ⟨v, hv⟩ := hw.established hclaimed.found
    rw [(hv.of_claimed hclaimed).2.refundTerms_eq, Action.refundTerms, hcall]
    exact hv.refundTerms_eq.symm
  | released _ hcall hreleased =>
    obtain ⟨v, hv⟩ := hw.established hreleased.found
    obtain ⟨-, hm, hnext⟩ := hv.of_released hreleased
    rw [Action.refundTerms, hcall]
    exact hv.refundTerms_of_release hm rfl hnext
  | multiReleased _ hcall hreleased =>
    obtain ⟨v, hv⟩ := hw.established hreleased.found
    obtain ⟨-, hm, hnext⟩ := hv.of_multiReleased hreleased
    rw [Action.refundTerms, hcall]
    exact hv.refundTerms_of_release hm rfl hnext
  | administered _ hadministrative hadministered =>
    obtain ⟨v, hv⟩ := hw.established hadministered.found
    have hnext := (hv.of_administered hadministered).2
    -- The raised amount and the milestones stay, so the end time decides.
    have hkept : next.storage.refundTerms =
        { w.storage.refundTerms with endTime := next.storage.endTime } := by
      rw [hnext.refundTerms_eq, hv.refundTerms_eq, Storage.endTime, hnext.found]
      rfl
    rw [hkept, Action.refundTerms]
    exact refundTerms_of_administrative hadministrative (exec_invoke_eq_ok_iff.mp h).2

end Standard

/-! ### Steps that keep the operands in range -/

/-- The condition on a call: an end time of a new campaign or of an extension leaves room for the
refund window, and a new campaign, a donation and a release leave released amounts in range of the
raised amount. -/
def Call.KeepsRefundRange (call : Call) (s : Storage) : Prop :=
  match call with
  | .initializeCampaign _ _ endTime _ milestones _ =>
    endTime + refundWindow ≤ u64Max ∧
      ReleasedInRange 0 (milestones.map MilestoneData.releasedAmount)
  | .extendDeadline newEndTime => newEndTime + refundWindow ≤ u64Max
  | .donate _ amount _ => s.raisedAmount + amount - s.releasedAmounts.sum ≤ i128Max
  | .releaseMilestone index _ | .releaseMilestoneMultiAsset index _ =>
    ReleasedInRange s.raisedAmount (s.releasedAmounts.set index (s.target index))
  | _ => True

instance (call : Call) (s : Storage) : Decidable (call.KeepsRefundRange s) :=
  match call with
  | .initializeCampaign _ _ _ _ _ _ => inferInstanceAs (Decidable (_ ∧ _))
  | .extendDeadline newEndTime =>
    inferInstanceAs (Decidable (newEndTime + refundWindow ≤ u64Max))
  | .donate _ amount _ =>
    inferInstanceAs (Decidable (s.raisedAmount + amount - s.releasedAmounts.sum ≤ i128Max))
  | .releaseMilestone _ _ | .releaseMilestoneMultiAsset _ _ =>
    inferInstanceAs (Decidable (ReleasedInRange _ _))
  | .claimRefund _ | .endCampaign | .cancelCampaign | .upgrade _ | .freeze | .unfreeze
  | .blockAsset _ | .unblockAsset _ | .bumpStorage => inferInstanceAs (Decidable True)

/-- The condition on a step of a run. -/
def KeepsRefundRange (r : Receipt Action World) : Prop :=
  match r.label with
  | .invoke inv => inv.call.KeepsRefundRange r.before.storage
  | .transfer _ _ _ _ => True

instance (r : Receipt Action World) : Decidable (KeepsRefundRange r) :=
  match r with
  | ⟨.transfer _ _ _ _, _, _⟩ => inferInstanceAs (Decidable True)
  | ⟨.invoke inv, before, _⟩ =>
    inferInstanceAs (Decidable (inv.call.KeepsRefundRange before.storage))

/-- A call that leaves operands in range meets the condition. -/
theorem Call.keepsRefundRange_of_inRange {call : Call} {s : Storage}
    (h : (call.refundTerms s).InRange) : call.KeepsRefundRange s := by
  cases call with
  | initializeCampaign => exact h
  | extendDeadline => exact h.1
  | donate => exact h.2.2.2
  | releaseMilestone | releaseMilestoneMultiAsset => exact h.2
  | _ => trivial

/-- A call that meets the condition keeps the operands in range; a donation can only leave more
of the raised amount. -/
theorem Call.inRange_of_keepsRefundRange {call : Call} {s : Storage} (hs : s.refundTerms.InRange)
    (hamount : ∀ donor amount asset, call = .donate donor amount asset → 0 < amount)
    (h : call.KeepsRefundRange s) : (call.refundTerms s).InRange := by
  cases call with
  | initializeCampaign => exact h
  | extendDeadline => exact ⟨h, hs.2⟩
  | donate donor amount asset =>
    have hpos := hamount donor amount asset rfl
    have hle : s.releasedAmounts.sum ≤ s.raisedAmount := hs.2.2.1
    exact ⟨hs.1, hs.2.1, by simp only [Call.refundTerms, Storage.refundTerms]; omega, h⟩
  | releaseMilestone | releaseMilestoneMultiAsset => exact ⟨hs.1, h⟩
  | _ => exact hs

/-! ### The operands along a run -/

section Runs

variable {contract : Address} {overflowChecks : Bool} {ledger : Ledger Address Address}
  {wasmHash : BitVec 256} {history : List (Receipt Action World)} {w : World}

/-- The plain operators of a claim are exact on the stored campaign, if there is one. -/
def RefundOperatorsExact (s : Storage) : Prop :=
  ∀ campaign, s.campaignData = some campaign → RefundArithmetic s campaign

theorem Sound.refundOperatorsExact_iff {s : Storage} (h : Sound s) :
    RefundOperatorsExact s ↔ s.refundTerms.InRange := by
  rcases h with rfl | ⟨campaign, v, h⟩
  · exact ⟨fun _ ↦ refundTerms_empty_inRange,
      fun _ _ hfound ↦ absurd hfound (by simp [Storage.empty])⟩
  · rw [← h.refundArithmetic_iff]
    constructor
    · exact fun hexact ↦ hexact campaign h.found
    · intro harithmetic found hfound
      rw [h.campaign_eq hfound]
      exact harithmetic

/-- A donated amount is positive. -/
theorem donated_pos_of_exec {inv : Invocation} {w next : World}
    (h : (chain (standardHost contract overflowChecks)).exec (.invoke inv) w = .ok next)
    {donor : Address} {amount : ℤ} {asset : AssetInfo}
    (hcall : inv.call = .donate donor amount asset) : 0 < amount := by
  have hdonate := (exec_invoke_eq_ok_iff.mp h).2
  rw [hcall] at hdonate
  obtain ⟨campaign, token, hdonated⟩ := CampaignContract.donate_ok hdonate
  exact hdonated.amount_pos

/-- A step that meets the condition keeps the operands in range. -/
theorem inRange_of_exec {action : Action} {w next : World} (hw : Sound w.storage)
    (h : (chain (standardHost contract overflowChecks)).exec action w = .ok next)
    (hrange : w.storage.refundTerms.InRange) (hkeeps : KeepsRefundRange ⟨action, w, next⟩) :
    next.storage.refundTerms.InRange := by
  rw [refundTerms_of_exec hw h]
  cases action with
  | transfer => exact hrange
  | invoke inv =>
    exact Call.inRange_of_keepsRefundRange hrange
      (fun _ _ _ hcall ↦ donated_pos_of_exec h hcall) hkeeps

/-- The plain operators of a claim are exact in every state of a run exactly when every step of
the run keeps the operands in range. -/
theorem refund_arithmetic_iff
    (run : CampaignRun contract overflowChecks ledger wasmHash history w) :
    (∀ r ∈ history, RefundOperatorsExact r.after.storage) ↔ ∀ r ∈ history, KeepsRefundRange r := by
  have hterms : ∀ r ∈ history, Sound r.before.storage ∧ Sound r.after.storage ∧
      r.after.storage.refundTerms = r.label.refundTerms r.before.storage := by
    intro r hr
    obtain ⟨hexec, earlier, hearlier⟩ := run.fired hr
    exact ⟨CampaignRun.sound hearlier, CampaignRun.sound (hearlier.accept hexec),
      refundTerms_of_exec (CampaignRun.sound hearlier) hexec⟩
  constructor
  · intro hexact r hr
    obtain ⟨-, hafter, hleft⟩ := hterms r hr
    have hrange := hafter.refundOperatorsExact_iff.mp (hexact r hr)
    rw [hleft] at hrange
    obtain ⟨label, before, after⟩ := r
    cases label with
    | transfer => trivial
    | invoke inv => exact Call.keepsRefundRange_of_inRange hrange
  · intro hkeeps
    have hrange : w.storage.refundTerms.InRange ∧
        ∀ r ∈ history, r.after.storage.refundTerms.InRange := by
      refine run.invariant (I := fun history w ↦ (∀ r ∈ history, KeepsRefundRange r) →
        w.storage.refundTerms.InRange ∧ ∀ r ∈ history, r.after.storage.refundTerms.InRange)
        ?_ ?_ hkeeps
      · exact fun _ ↦ ⟨refundTerms_empty_inRange, by simp⟩
      · intro history w action next prior ih hexec hkeeps
        rw [List.forall_mem_cons] at hkeeps
        obtain ⟨hw, hhistory⟩ := ih hkeeps.2
        have hnext := inRange_of_exec (CampaignRun.sound prior) hexec hw hkeeps.1
        exact ⟨hnext, List.forall_mem_cons.mpr ⟨hnext, hhistory⟩⟩
    intro r hr
    exact (hterms r hr).2.1.refundOperatorsExact_iff.mpr (hrange.2 r hr)

end Runs

section Examples

open Sample

/-- A donor gives half of the goal and the first half is released. -/
def halfReleased : List Action :=
  [opening [⟨"XLM", some token⟩] [milestone 500, milestone 1000] 1000, giving donor 500 token,
    .transfer token donor contract 500, call creator (.releaseMilestone 0 recipient)]

theorem refund_arithmetic_iff_halfReleased :
    (history halfReleased).length = 4 ∧
      ∀ r ∈ history halfReleased, RefundOperatorsExact r.after.storage :=
  ⟨by decide +kernel, (refund_arithmetic_iff (run halfReleased)).mpr (by decide +kernel)⟩

/-- A campaign that ends with the last second of the clock. -/
def endless : List Action :=
  [call creator (.initializeCampaign creator 1000 u64Max [⟨"XLM", some token⟩] [milestone 1000] 0)]

/-- A campaign of two halves, paid out completely. -/
def bothReleased : List Action :=
  [opening [⟨"XLM", some token⟩] [milestone 500, milestone 1000] 1000, giving donor 1000 token,
    .transfer token donor contract 2000, call creator (.releaseMilestone 0 recipient),
    call creator (.releaseMilestone 1 recipient)]

/-- The end of the refund window can leave its type, and after both halves of a goal of a thousand
are released they count as fifteen hundred. -/
theorem refund_arithmetic_fails :
    (¬ ∀ (contract : Address) (overflowChecks : Bool) (ledger : Ledger Address Address)
      (wasmHash : BitVec 256) (history : List (Receipt Action World)) (w : World),
      CampaignRun contract overflowChecks ledger wasmHash history w →
        RefundOperatorsExact w.storage) ∧
    (∃ campaign, (reached endless).storage.campaignData = some campaign ∧
      u64Max < campaign.endTime + refundWindow) ∧
    ∃ campaign, (reached bothReleased).storage.campaignData = some campaign ∧
      campaign.raisedAmount = 1000 ∧ campaign.raisedAmount -
        CampaignContract.releasedTotal (reached bothReleased).storage.getMilestone
          campaign.milestoneCount = -500 := by
  refine ⟨fun h ↦ ?_, ⟨_, rfl, by decide +kernel⟩, ⟨_, rfl, by decide +kernel, by decide +kernel⟩⟩
  have hexact := (h _ _ _ _ _ _ (run bothReleased) _ rfl).difference_nonneg
  revert hexact
  decide +kernel

end Examples

end OrbitChain.Campaign
