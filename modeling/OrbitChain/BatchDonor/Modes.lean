import OrbitChain.BatchDonor.Contract
import OrbitChain.Campaign.Contract

/-!
# The two modes of a batch

Both modes run the same sequence of donations, in which targets without a positive amount are
refused (`accepting`): the best-effort mode replays it, skipping what fails, and the atomic mode
executes it as a whole. The validation codes that the best-effort loop looks up by position are
those of the targets it stands at.
-/

set_option autoImplicit false
set_option relaxedAutoImplicit false

namespace OrbitChain.BatchDonor

open Foundations
open OrbitChain.Campaign (Address)

variable {S E : Type} (campaigns : System DonateTarget S E)

/-- The donations of a batch: targets without a positive amount are refused. -/
def accepting : System DonateTarget S (Failure E) :=
  (campaigns.mapFailure .invocation).guarded (fun target ↦ 0 < target.amount)
    (panicWithCode ValidationCode.invalidAmount)

/-- What the best-effort mode reports of a target it meets in a state. -/
def report (index : ℕ) (target : DonateTarget) (s : S) : BatchDonateResult :=
  if target.amount ≤ 0 then
    ⟨index, .validationFailed ValidationCode.invalidAmount, some ValidationCode.invalidAmount⟩
  else
    match campaigns.exec target s with
    | .ok _ => ⟨index, .success, none⟩
    | .error _ => ⟨index, .invocationFailed, none⟩

variable {campaigns} {targets : List DonateTarget} {target : DonateTarget} {s : S}

theorem accepting_of_pos (h : 0 < target.amount) :
    (accepting campaigns).exec target s = invokeCampaignDonate campaigns target s :=
  if_pos h

theorem accepting_of_nonpos (h : target.amount ≤ 0) :
    (accepting campaigns).exec target s = .error (panicWithCode ValidationCode.invalidAmount) :=
  if_neg (not_lt.mpr h)

/-- A target is reported successful exactly when its donation takes effect. -/
theorem report_success_iff {index : ℕ} :
    (report campaigns index target s).outcome = .success ↔
      ∃ next, (accepting campaigns).exec target s = .ok next := by
  unfold report
  by_cases h : target.amount ≤ 0
  · rw [if_pos h, accepting_of_nonpos h]
    simp
  · rw [if_neg h, accepting_of_pos (not_le.mp h), invokeCampaignDonate]
    cases campaigns.exec target s <;> simp [Except.mapError]

theorem report_of_effect {index : ℕ} (h : ∃ next, (accepting campaigns).exec target s = .ok next) :
    report campaigns index target s = ⟨index, .success, none⟩ := by
  obtain ⟨next, hexec⟩ := h
  unfold report
  by_cases hamount : target.amount ≤ 0
  · rw [accepting_of_nonpos hamount] at hexec
    simp at hexec
  · rw [accepting_of_pos (not_le.mp hamount), invokeCampaignDonate] at hexec
    rw [if_neg hamount]
    cases hdonate : campaigns.exec target s with
    | ok after => rfl
    | error failure => simp [hdonate, Except.mapError] at hexec

/-- A target is reported invalid exactly when its amount is not positive. -/
theorem report_validationFailed_iff {index : ℕ} :
    (∃ code, (report campaigns index target s).outcome = .validationFailed code) ↔
      target.amount ≤ 0 := by
  unfold report
  by_cases h : target.amount ≤ 0
  · rw [if_pos h]
    exact iff_of_true ⟨_, rfl⟩ h
  · rw [if_neg h]
    cases campaigns.exec target s <;> simp [h]

theorem report_index {index : ℕ} : (report campaigns index target s).index = index := by
  unfold report
  split_ifs
  · rfl
  · split <;> rfl

/-- The code of a report is that of its outcome. -/
theorem report_validationCode {index code : ℕ} :
    (report campaigns index target s).outcome = .validationFailed code ↔
      (report campaigns index target s).validationCode = some code := by
  unfold report
  split_ifs
  · simp
  · split <;> simp

/-! ### The loops -/

/-- The best-effort loop over the rest of a batch reports every target of it and leaves the state of
the replay. -/
theorem tryInvokeFrom_eq (done rest : List DonateTarget) (results : List BatchDonateResult)
    (s : S) :
    tryInvokeFrom campaigns ((done ++ rest).map validate) done.length rest results s =
      (results ++ ((accepting campaigns).attempts rest s).mapIdx
          (fun i a ↦ report campaigns (done.length + i) a.1 a.2),
        ((accepting campaigns).replay rest s).2) := by
  induction rest generalizing done results s with
  | nil => simp [tryInvokeFrom, System.attempts, System.replay]
  | cons target rest ih =>
    have hlookup : ((done ++ target :: rest).map validate)[done.length]? =
        some (validate target) := by
      simp
    have hnext (result : BatchDonateResult) (s : S) :
        tryInvokeFrom campaigns ((done ++ target :: rest).map validate) (done.length + 1) rest
            (results ++ [result]) s =
          (results ++ result :: ((accepting campaigns).attempts rest s).mapIdx
              (fun i a ↦ report campaigns (done.length + (i + 1)) a.1 a.2),
            ((accepting campaigns).replay rest s).2) := by
      have htail := ih (done ++ [target]) (results ++ [result]) s
      simpa [Nat.add_assoc, Nat.add_comm 1] using htail
    unfold tryInvokeFrom System.attempts
    rw [hlookup, List.mapIdx_cons, report, validate]
    by_cases hamount : target.amount ≤ 0
    · rw [if_pos hamount, if_pos hamount, accepting_of_nonpos hamount,
        System.replay_cons_of_error _ (accepting_of_nonpos hamount)]
      exact hnext _ s
    · have haccepted : (accepting campaigns).exec target s =
          invokeCampaignDonate campaigns target s :=
        accepting_of_pos (not_le.mp hamount)
      rw [if_neg hamount, if_neg hamount, haccepted]
      unfold tryInvokeCampaignDonate
      unfold invokeCampaignDonate at haccepted ⊢
      cases hexec : campaigns.exec target s with
      | ok next =>
        rw [hexec] at haccepted
        rw [System.replay_cons_of_ok _ haccepted]
        exact hnext _ next
      | error failure =>
        rw [hexec] at haccepted
        rw [System.replay_cons_of_error _ haccepted]
        exact hnext _ s

/-- The atomic loop succeeds exactly when all the donations do, and reports them successful. -/
theorem invokeFrom_eq_ok_iff {index : ℕ} {results reported : List BatchDonateResult} {next : S} :
    invokeFrom campaigns index targets results s = .ok (reported, next) ↔
      campaigns.execAll targets s = .ok next ∧
        reported = results ++ targets.mapIdx fun i _ ↦ ⟨index + i, .success, none⟩ := by
  induction targets generalizing index results s with
  | nil =>
    simp only [invokeFrom, System.execAll, Except.ok.injEq, Prod.mk.injEq, List.mapIdx_nil,
      List.append_nil]
    exact and_comm.trans (and_congr_right fun _ ↦ eq_comm)
  | cons target rest ih =>
    unfold invokeFrom System.execAll invokeCampaignDonate
    cases hexec : campaigns.exec target s with
    | error failure => simp [Except.mapError, bind, Except.bind]
    | ok after =>
      refine ih.trans (and_congr_right fun _ ↦ ?_)
      simp [List.mapIdx_cons, Nat.add_assoc, Nat.add_comm 1]

/-! ### The gates -/

theorem forM_eq_ok_iff {ε : Type} {check : DonateTarget → Except ε Unit} {u : Unit} :
    targets.forM check = .ok u ↔ ∀ target ∈ targets, check target = .ok () := by
  induction targets with
  | nil => simp
  | cons target rest ih =>
    change (check target >>= fun _ ↦ rest.forM check) = .ok u ↔ _
    rw [bind_eq_ok_iff, List.forall_mem_cons, ← ih]
    constructor
    · rintro ⟨_, h⟩
      exact h
    · exact fun h ↦ ⟨(), h⟩

section Gates

variable (hne : 1 ≤ targets.length) (hle : targets.length ≤ maxBatchSize)

include hne hle

/-- A batch of allowed size passes the gate when all its amounts are positive. -/
theorem preValidate_eq_ok_iff {u : Unit} :
    (preValidate targets : Except (Failure E) Unit) = .ok u ↔
      ∀ target ∈ targets, 0 < target.amount := by
  simp only [preValidate, bind_eq_ok_iff, failIf_eq_ok_iff, exists_const, forM_eq_ok_iff, not_le,
    not_lt]
  exact ⟨fun h ↦ h.2.2, fun h ↦ ⟨List.ne_nil_of_length_pos hne, hle, h⟩⟩

/-- A batch of allowed size passes the collecting gate. -/
theorem preValidateCollect_eq :
    (preValidateCollect targets : Except (Failure E) _) = .ok (targets.map validate) := by
  unfold preValidateCollect failIf
  rw [if_neg (List.ne_nil_of_length_pos hne), if_neg (not_lt.mpr hle)]
  rfl

end Gates

/-! ### The modes -/

/-- The state that a batch has reached before a target, the failed targets before it skipped. -/
def stateBefore (campaigns : System DonateTarget S E) (targets : List DonateTarget) (s : S)
    (i : ℕ) : S :=
  ((accepting campaigns).replay (targets.take i) s).2

/-- The result of a target: at its index, successful when its donation takes effect and invalid when
its amount is not positive. -/
structure ReportedAt (campaigns : System DonateTarget S E) (i : ℕ) (target : DonateTarget)
    (before : S) (result : BatchDonateResult) : Prop where
  index : result.index = i
  success : result.outcome = .success ↔ ∃ next, (accepting campaigns).exec target before = .ok next
  validationFailed : (∃ code, result.outcome = .validationFailed code) ↔ target.amount ≤ 0
  code : ∀ code, result.outcome = .validationFailed code ↔ result.validationCode = some code

/-- The results of a batch. -/
def reports (campaigns : System DonateTarget S E) (targets : List DonateTarget) (s : S) :
    List BatchDonateResult :=
  ((accepting campaigns).attempts targets s).mapIdx fun i a ↦ report campaigns i a.1 a.2

theorem getElem?_reports (i : ℕ) :
    (reports campaigns targets s)[i]? =
      targets[i]?.map fun target ↦
        report campaigns i target (stateBefore campaigns targets s i) := by
  rw [reports, List.getElem?_mapIdx, System.getElem?_attempts, Option.map_map]
  rfl

theorem length_reports : (reports campaigns targets s).length = targets.length := by
  rw [reports, List.length_mapIdx, System.length_attempts]

/-- Every target of a batch is reported in its place. -/
theorem reportedAt {i : ℕ} (htarget : targets[i]? = some target) :
    ∃ result, (reports campaigns targets s)[i]? = some result ∧
      ReportedAt campaigns i target (stateBefore campaigns targets s i) result := by
  refine ⟨_, (getElem?_reports i).trans (congrArg _ htarget), ?_⟩
  exact ⟨report_index, report_success_iff, report_validationFailed_iff,
    fun _ ↦ report_validationCode⟩

/-- Where every donation takes effect, every target is reported successful. -/
theorem reports_of_execAll {final : S} (h : (accepting campaigns).execAll targets s = .ok final) :
    reports campaigns targets s = targets.mapIdx fun i _ ↦ ⟨i, .success, none⟩ := by
  refine List.ext_getElem? fun i ↦ ?_
  rw [getElem?_reports, List.getElem?_mapIdx]
  cases htarget : targets[i]? with
  | none => rfl
  | some target =>
    have hattempt := System.getElem?_attempts (accepting campaigns) targets s i
    rw [htarget] at hattempt
    have heffect := ((accepting campaigns).replay_of_execAll h).2 _
      (List.mem_of_getElem? hattempt)
    exact congrArg some (report_of_effect heffect)

/-- The sequence of a batch succeeds when all its amounts are positive and its donations succeed in
sequence. -/
theorem execAll_accepting_eq_ok_iff {final : S} :
    (accepting campaigns).execAll targets s = .ok final ↔
      (∀ target ∈ targets, 0 < target.amount) ∧ campaigns.execAll targets s = .ok final := by
  rw [accepting, System.execAll_guarded_eq_ok_iff, System.execAll_mapFailure_eq_ok_iff]

/-- A batch that succeeds, in either mode, is of allowed size and signed by its operator. -/
theorem gate_of_batchDonate {authorisers : List Address} {operator : Address}
    {answer : List BatchDonateResult × S}
    (h : batchDonate campaigns authorisers operator targets s = .ok answer) :
    operator ∈ authorisers ∧ 1 ≤ targets.length ∧ targets.length ≤ maxBatchSize := by
  simp only [batchDonate, requireAuth, batchDonateAtomic, preValidate, bind_eq_ok_iff,
    failIf_eq_ok_iff, not_not, not_lt] at h
  obtain ⟨_, hsigned, _, ⟨_, hne, _, hle, -⟩, -⟩ := h
  exact ⟨hsigned, List.length_pos_of_ne_nil hne, hle⟩

theorem gate_of_batchDonateContinueOnError {authorisers : List Address} {operator : Address}
    {answer : List BatchDonateResult × S}
    (h : batchDonateContinueOnError campaigns authorisers operator targets s = .ok answer) :
    operator ∈ authorisers ∧ 1 ≤ targets.length ∧ targets.length ≤ maxBatchSize := by
  simp only [batchDonateContinueOnError, requireAuth, batchDonateBestEffort, preValidateCollect,
    bind_eq_ok_iff, failIf_eq_ok_iff, not_not, not_lt] at h
  obtain ⟨_, hsigned, _, ⟨_, hne, _, hle, -⟩, -⟩ := h
  exact ⟨hsigned, List.length_pos_of_ne_nil hne, hle⟩

section Entrypoints

variable {authorisers : List Address} {operator : Address} (signed : operator ∈ authorisers)
  (hne : 1 ≤ targets.length) (hle : targets.length ≤ maxBatchSize)

include signed hne hle

/-- The best-effort mode replays the batch and reports it. -/
theorem batchDonateContinueOnError_eq :
    batchDonateContinueOnError campaigns authorisers operator targets s =
      .ok (reports campaigns targets s, ((accepting campaigns).replay targets s).2) := by
  have hloop := @tryInvokeFrom_eq S E campaigns [] targets [] s
  simp only [List.nil_append, List.length_nil, Nat.zero_add] at hloop
  simp only [batchDonateContinueOnError, requireAuth, failIf, signed, if_false,
    batchDonateBestEffort, preValidateCollect_eq hne hle, not_true_eq_false, ok_bind]
  exact congrArg Except.ok hloop

/-- The atomic mode executes the batch as a whole. -/
theorem batchDonate_eq_ok_iff {results : List BatchDonateResult} {final : S} :
    batchDonate campaigns authorisers operator targets s = .ok (results, final) ↔
      (accepting campaigns).execAll targets s = .ok final ∧
        results = reports campaigns targets s := by
  have hatomic : batchDonate campaigns authorisers operator targets s = .ok (results, final) ↔
      (∀ target ∈ targets, 0 < target.amount) ∧ campaigns.execAll targets s = .ok final ∧
        results = targets.mapIdx fun i _ ↦ ⟨i, .success, none⟩ := by
    simp only [batchDonate, requireAuth, batchDonateAtomic, bind_eq_ok_iff, failIf_eq_ok_iff,
      not_not, signed, preValidate_eq_ok_iff hne hle, invokeFrom_eq_ok_iff, List.nil_append,
      Nat.zero_add, true_and, exists_const]
  rw [hatomic, ← and_assoc, ← execAll_accepting_eq_ok_iff]
  refine and_congr_right fun h ↦ ?_
  rw [reports_of_execAll h]

/-- A batch of allowed size under the operator's signature: the best-effort mode skips what fails
and reports every target in its place; the atomic mode succeeds exactly when all amounts are
positive and all donations succeed in sequence, then with the state and the results of the
best-effort mode, all successful, and otherwise leaves the state untouched. -/
theorem batch_modes (campaigns : System DonateTarget S E) (s : S) :
    ∃ results,
      batchDonateContinueOnError campaigns authorisers operator targets s =
        .ok (results, ((accepting campaigns).replay targets s).2) ∧
      results.length = targets.length ∧
      (∀ i target, targets[i]? = some target → ∃ result, results[i]? = some result ∧
        ReportedAt campaigns i target (stateBefore campaigns targets s i) result) ∧
      ((∃ answer, batchDonate campaigns authorisers operator targets s = .ok answer) ↔
        (∀ target ∈ targets, 0 < target.amount) ∧
          ∃ final, campaigns.execAll targets s = .ok final) ∧
      (∀ answer, batchDonate campaigns authorisers operator targets s = .ok answer →
        answer = (results, ((accepting campaigns).replay targets s).2) ∧
          ∀ result ∈ results, result.outcome = .success) ∧
      ∀ failure, batchDonate campaigns authorisers operator targets s = .error failure →
        stateAfter (batchDonate campaigns authorisers operator targets) s = s := by
  refine ⟨reports campaigns targets s, batchDonateContinueOnError_eq signed hne hle,
    length_reports, fun i target htarget ↦ reportedAt htarget, ?_, ?_, ?_⟩
  · rw [← exists_and_left]
    constructor
    · rintro ⟨⟨results, final⟩, hok⟩
      have hexec := ((batchDonate_eq_ok_iff signed hne hle).mp hok).1
      exact ⟨final, execAll_accepting_eq_ok_iff.mp hexec⟩
    · rintro ⟨final, hall⟩
      have hexec := execAll_accepting_eq_ok_iff.mpr hall
      exact ⟨(reports campaigns targets s, final),
        (batchDonate_eq_ok_iff signed hne hle).mpr ⟨hexec, rfl⟩⟩
  · rintro ⟨results, final⟩ hok
    obtain ⟨hexec, rfl⟩ := (batchDonate_eq_ok_iff signed hne hle).mp hok
    refine ⟨by rw [((accepting campaigns).replay_of_execAll hexec).1], fun result hresult ↦ ?_⟩
    rw [reports_of_execAll hexec] at hresult
    obtain ⟨i, -, rfl⟩ := List.mem_mapIdx.mp hresult
    rfl
  · intro failure herror
    rw [stateAfter, herror]

end Entrypoints

/-! ### A batch on one campaign -/

/-- An asset as the campaign contract reads it. -/
def AssetInfo.toCampaign : AssetInfo → Campaign.AssetInfo
  | .native => .native
  | .stellar address => .stellar address

/-- The donations where one campaign contract is all there is to call. -/
def campaignDonations (host : Campaign.Host) (timestamp sequence : ℕ)
    (authorisers : List Address) : System DonateTarget Campaign.World Campaign.Failure where
  exec target w :=
    if target.campaign = host.contract then
      (Campaign.chain host).exec (.invoke ⟨timestamp, sequence, authorisers,
        .donate target.donor target.amount target.asset.toCampaign⟩) w
    else .error .malformed

namespace Sample

/-- A campaign that has been opened, called by a transaction that both donors signed. -/
def donations : System DonateTarget Campaign.World Campaign.Failure :=
  campaignDonations (Campaign.standardHost Campaign.Sample.contract true) 21 3
    [Campaign.Sample.donor, Campaign.Sample.secondDonor]

def opened : Campaign.World :=
  Campaign.Sample.reached [Campaign.Sample.opening [⟨"XLM", some Campaign.Sample.token⟩]
    [Campaign.Sample.milestone 1000] 1000]

def give (campaign donor : Address) (amount : ℤ) : DonateTarget :=
  ⟨campaign, donor, amount, .stellar Campaign.Sample.token⟩

/-- Two good targets with an empty amount and a wrong address between them. -/
def batch : List DonateTarget :=
  [give Campaign.Sample.contract Campaign.Sample.donor 100,
    give Campaign.Sample.contract Campaign.Sample.donor 0,
    give Campaign.Sample.token Campaign.Sample.donor 100,
    give Campaign.Sample.contract Campaign.Sample.secondDonor 50]

example : ((accepting donations).replay batch opened).2.storage.getTotalRaised = 150 := by
  decide +kernel

end Sample

/-- The best-effort mode reports all four targets of the sample batch. -/
theorem batch_modes_sample :
    ∃ results,
      batchDonateContinueOnError Sample.donations [Campaign.Sample.creator]
        Campaign.Sample.creator Sample.batch Sample.opened =
          .ok (results, ((accepting Sample.donations).replay Sample.batch Sample.opened).2) ∧
      results.length = 4 := by
  have signed : Campaign.Sample.creator ∈ [Campaign.Sample.creator] := by decide
  have hne : 1 ≤ Sample.batch.length := by decide
  have hle : Sample.batch.length ≤ maxBatchSize := by decide
  obtain ⟨results, hrun, hlength, -⟩ := batch_modes signed hne hle Sample.donations Sample.opened
  exact ⟨results, hrun, hlength⟩

end OrbitChain.BatchDonor
