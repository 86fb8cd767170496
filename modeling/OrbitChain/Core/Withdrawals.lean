import OrbitChain.Core.Identity

/-!
# The withdrawal protocol of the core contract

A campaign has one slot for a request, which the creator fills and the admin moves on. What the
slot held over a history, newest first, is the list of the requests as the steps left them
(`withdrawals`). In every run the requests take turns: each begins where the one before was
submitted and goes through the three statuses with its recipient and amount untouched. The raised
amount falls at the approval and nowhere else, so that no more is approved than was given.
-/

set_option autoImplicit false
set_option relaxedAutoImplicit false

namespace OrbitChain.Core

open Foundations OrbitChainContract
open OrbitChain.Campaign (Address)

/-- The requests of a campaign as the steps of a history left them, newest first. -/
def withdrawals (overflowChecks : Bool) (campaignId : ℕ)
    (history : List (Receipt Invocation World)) : List WithdrawalRequest :=
  history.filterMap (withdrawalStep overflowChecks campaignId)

/-- What a step may leave in the slot, given what it found there. -/
def FollowsOn (request : WithdrawalRequest) (last : Option WithdrawalRequest) : Prop :=
  match request.status with
  | .pending => ∀ existing, last = some existing → existing.status = .submitted
  | .approved => last = some (request.withStatus .pending)
  | .submitted => last = some (request.withStatus .approved)

/-- Every request follows on the one before, in a list with the newest first. -/
def TakeTurns : List WithdrawalRequest → Prop
  | [] => True
  | request :: earlier => FollowsOn request earlier.head? ∧ TakeTurns earlier

/-- How often a request was given a status. -/
def timesGiven (status : WithdrawalStatus) (requests : List WithdrawalRequest) : ℕ :=
  requests.countP fun request ↦ request.status = status

/-- The party that a status needs was the one that signed the step, with its campaign and data. -/
def SignedBy (campaignId : ℕ) (request : WithdrawalRequest) (r : Receipt Invocation World) : Prop :=
  match request.status with
  | .pending => ∃ campaign, r.before.storage.getCampaign campaignId = some campaign ∧
      campaign.creator ∈ r.label.authorisers ∧
      r.label.call = .withdraw campaign.creator campaignId request.recipient request.amount
  | .approved => ∃ admin, r.before.storage.admin = some admin ∧ admin ∈ r.label.authorisers ∧
      r.label.call = .approveWithdrawal admin campaignId
  | .submitted => ∃ admin, r.before.storage.admin = some admin ∧ admin ∈ r.label.authorisers ∧
      r.label.call = .submitTransaction admin campaignId

/-- What a receipt's invocation gave to a campaign, net of the fee. -/
def donatedBy (campaignId : ℕ) (r : Receipt Invocation World) : ℤ :=
  match r.label.call with
  | .donate _ id amount _ _ => if id = campaignId then amount - baseFee else 0
  | _ => 0

/-- The total given to a campaign, net of fees. -/
def donatedTotal (campaignId : ℕ) (history : List (Receipt Invocation World)) : ℤ :=
  (history.map (donatedBy campaignId)).sum

/-! ### Turns -/

section Turns

variable {requests : List WithdrawalRequest}

theorem timesGiven_cons (status : WithdrawalStatus) (request : WithdrawalRequest) :
    timesGiven status (request :: requests) =
      timesGiven status requests + if request.status = status then 1 else 0 := by
  simp [timesGiven, List.countP_cons]

/-- Requests that take turns are made one at a time: as many as were submitted, and one more while
the last is open. -/
theorem TakeTurns.timesGiven_pending (h : TakeTurns requests) :
    timesGiven .pending requests = timesGiven .submitted requests +
      if ∃ last, requests.head? = some last ∧ last.status ≠ .submitted then 1 else 0 := by
  induction requests with
  | nil => simp [timesGiven]
  | cons request earlier ih =>
    obtain ⟨hfollows, hearlier⟩ := h
    have hprior := ih hearlier
    rw [timesGiven_cons, timesGiven_cons, hprior]
    unfold FollowsOn at hfollows
    cases hstatus : request.status with
    | pending =>
      rw [hstatus] at hfollows
      rw [if_neg (by simpa using hfollows)]
      simp [hstatus]
    | approved | submitted =>
      rw [hstatus] at hfollows
      rw [if_pos ⟨_, hfollows, by simp [WithdrawalRequest.withStatus]⟩]
      simp [hstatus]

/-- At most one request is open. -/
theorem TakeTurns.pending_le (h : TakeTurns requests) :
    timesGiven .pending requests ≤ timesGiven .submitted requests + 1 := by
  rw [h.timesGiven_pending]
  split_ifs <;> omega

end Turns

/-! ### Steps -/

section Steps

variable {overflowChecks : Bool} {history : List (Receipt Invocation World)} {inv : Invocation}
  {w next : World} {replied : Reply} {id : ℕ}

theorem WithdrawalRequest.withStatus_withStatus {request : WithdrawalRequest}
    {status status' : WithdrawalStatus} (h : request.status = status') :
    (request.withStatus status).withStatus status' = request := by
  cases request
  cases h
  rfl

/-- The slot holds what the step left, or what it held before. -/
theorem Step.slot (hstep : Step overflowChecks inv w replied next)
    (hreply : reply overflowChecks ⟨inv, w, next⟩ = some replied) :
    next.storage.pendingWithdrawal id =
      (withdrawalStep overflowChecks id ⟨inv, w, next⟩).or
        (w.storage.pendingWithdrawal id) := by
  have hupdate (campaignId : ℕ) (request : WithdrawalRequest) :
      Function.update w.storage.pendingWithdrawal campaignId (some request) id =
        (if campaignId = id then some request else none).or
          (w.storage.pendingWithdrawal id) := by
    rw [Function.update_apply]
    by_cases hid : id = campaignId
    · simp [hid]
    · simp [hid, Ne.symm hid]
  cases hstep with
  | initialized hcall => simp only [withdrawalStep, hcall, Option.none_or]
  | created hcall | donated hcall =>
    simp only [withdrawalStep, hcall, Option.none_or]
    rfl
  | requested hcall =>
    rw [withdrawalStep_requested hcall hreply]
    exact hupdate _ _
  | approved hcall =>
    rw [withdrawalStep_approved hcall hreply]
    exact hupdate _ _
  | submitted hcall =>
    rw [withdrawalStep_submitted hcall hreply]
    exact hupdate _ _

/-- A step that moves a request follows on what the slot held, and the right party signed it. -/
theorem Step.followsOn (hstep : Step overflowChecks inv w replied next)
    (hreply : reply overflowChecks ⟨inv, w, next⟩ = some replied) {request : WithdrawalRequest}
    (hmoved : withdrawalStep overflowChecks id ⟨inv, w, next⟩ = some request) :
    FollowsOn request (w.storage.pendingWithdrawal id) ∧ SignedBy id request ⟨inv, w, next⟩ := by
  cases hstep with
  | initialized hcall => simp [withdrawalStep, hcall] at hmoved
  | created hcall => simp [withdrawalStep, hcall] at hmoved
  | donated hcall => simp [withdrawalStep, hcall] at hmoved
  | requested hcall signed _ found owner _ free =>
    rw [withdrawalStep_requested hcall hreply] at hmoved
    obtain ⟨rfl, hrequest⟩ := Option.ite_none_right_eq_some.mp hmoved
    cases hrequest
    exact ⟨free, _, found, owner ▸ signed, owner ▸ hcall⟩
  | approved hcall signed isAdmin open_request pending =>
    rw [withdrawalStep_approved hcall hreply] at hmoved
    obtain ⟨rfl, hrequest⟩ := Option.ite_none_right_eq_some.mp hmoved
    cases hrequest
    refine ⟨?_, _, isAdmin, signed, hcall⟩
    rw [FollowsOn, WithdrawalRequest.withStatus_withStatus pending]
    exact open_request
  | submitted hcall signed isAdmin open_request approved =>
    rw [withdrawalStep_submitted hcall hreply] at hmoved
    obtain ⟨rfl, hrequest⟩ := Option.ite_none_right_eq_some.mp hmoved
    cases hrequest
    refine ⟨?_, _, isAdmin, signed, hcall⟩
    rw [FollowsOn, WithdrawalRequest.withStatus_withStatus approved]
    exact open_request

/-- A step changes a stored campaign by what it approves only, unless it gives to the campaign or
stores another under its number. -/
theorem Step.deducted (hstep : Step overflowChecks inv w replied next)
    (hreply : reply overflowChecks ⟨inv, w, next⟩ = some replied)
    (wellFormed : WellFormed w.storage) {campaign : Campaign}
    (found : w.storage.campaign id = some campaign)
    (hdonate : ∀ donor amount asset memo, inv.call ≠ .donate donor id amount asset memo)
    (hcreated : createdId overflowChecks ⟨inv, w, next⟩ ≠ some id) :
    next.storage.campaign id =
      some (campaign.withRaised
        (campaign.raised - approvedBy overflowChecks id ⟨inv, w, next⟩)) := by
  have hunchanged (hcall : ∀ admin campaignId, inv.call ≠ .approveWithdrawal admin campaignId) :
      some (campaign.withRaised
        (campaign.raised - approvedBy overflowChecks id ⟨inv, w, next⟩)) = some campaign := by
    rw [hstep.approvedBy_eq_zero hreply hcall, sub_zero]
    rfl
  cases hstep with
  | initialized hcall => rw [hunchanged (by simp [hcall]), found]
  | created hcall =>
    rw [hunchanged (by simp [hcall]), ← found]
    refine Function.update_of_ne (fun hid ↦ hcreated ?_) _ _
    rw [hid]
    exact createdId_of_created hreply
  | @donated donor campaignId amount asset memo campaign' _ _ _ _ hcall =>
    rw [hunchanged (by simp [hcall]), ← found]
    refine Function.update_of_ne (fun hid ↦ hdonate donor amount asset memo ?_) _ _
    rw [hid]
    exact hcall
  | requested hcall | submitted hcall =>
    rw [hunchanged (by simp [hcall]), ← found]
    rfl
  | @approved admin campaignId campaign' request raised hcall _ _ open_request _ found' covered
      hraised =>
    obtain rfl := wellFormed.raised_of_approved open_request found' covered hraised
    rw [approvedBy_approved hcall hreply]
    by_cases hid : campaignId = id
    · subst hid
      cases Option.some.inj (found'.symm.trans found)
      rw [if_pos rfl]
      exact Function.update_self ..
    · rw [if_neg hid, sub_zero]
      exact (Function.update_of_ne (Ne.symm hid) _ _).trans found

/-- A donation raises its campaign by the net amount, as far as the sum is representable. -/
theorem Step.given (hstep : Step overflowChecks inv w replied next) {donor : Address}
    {amount : ℤ} {asset memo : String} (hcall : inv.call = .donate donor id amount asset memo)
    {campaign : Campaign} (found : w.storage.campaign id = some campaign)
    (hrange : InI128 (campaign.raised + (amount - baseFee))) :
    next.storage.campaign id =
      some (campaign.withRaised (campaign.raised + (amount - baseFee))) := by
  cases hstep with
  | donated hthis _ _ _ found' _ hraised =>
    cases hcall.symm.trans hthis
    cases Option.some.inj (found'.symm.trans found)
    cases Except.ok.inj ((uncheckedI128_of_inI128 hrange).symm.trans hraised)
    exact Function.update_self ..
  | _ hthis => exact absurd (hcall.symm.trans hthis) (by simp)

end Steps

/-! ### Coverage -/

section Coverage

variable {overflowChecks : Bool} {history : List (Receipt Invocation World)} {inv : Invocation}
  {w next : World} {id : ℕ}

theorem donatedTotal_cons (r : Receipt Invocation World) :
    donatedTotal id (r :: history) = donatedBy id r + donatedTotal id history :=
  List.sum_cons

theorem donatedBy_donate {donor : Address} {campaignId : ℕ} {amount : ℤ} {asset memo : String}
    (hcall : inv.call = .donate donor campaignId amount asset memo) :
    donatedBy id ⟨inv, w, next⟩ = if campaignId = id then amount - baseFee else 0 := by
  simp only [donatedBy, hcall]

/-- Approvals are covered by what was given, and what is recorded as raised is what is left of it at
most. -/
structure Covered (approved donated raised : ℤ) : Prop where
  approved_le : approved ≤ donated
  raised_add_le : raised + approved ≤ donated

/-- What is given covers as much more. -/
theorem Covered.give {approved donated raised given raised' : ℤ}
    (h : Covered approved donated raised) (hgiven : 0 ≤ given)
    (hraised : raised' ≤ raised + given) :
    Covered approved (given + donated) raised' where
  approved_le := by
    have hle := h.approved_le
    omega
  raised_add_le := by
    have hle := h.raised_add_le
    omega

/-- An approval of no more than what is left takes it from there. -/
theorem Covered.approve {approved donated raised amount : ℤ} (h : Covered approved donated raised)
    (hamount : amount ≤ raised) : Covered (amount + approved) donated (raised - amount) where
  approved_le := by
    have hle := h.raised_add_le
    omega
  raised_add_le := by
    have hle := h.raised_add_le
    omega

/-- Every step keeps a campaign covered. -/
theorem Covered.step (wellFormed : WellFormed w.storage)
    (h : Covered (approvedTotal overflowChecks id history) (donatedTotal id history)
      (w.storage.raisedOf id))
    (hexec : (chain overflowChecks).exec inv w = .ok next) :
    Covered (approvedTotal overflowChecks id (⟨inv, w, next⟩ :: history))
      (donatedTotal id (⟨inv, w, next⟩ :: history)) (next.storage.raisedOf id) := by
  obtain ⟨replied, hreply, hstep⟩ := step_of_exec hexec
  have hunapproved (hcall : ∀ admin campaignId, inv.call ≠ .approveWithdrawal admin campaignId) :
      approvedTotal overflowChecks id (⟨inv, w, next⟩ :: history) =
        approvedTotal overflowChecks id history :=
    hstep.approvedTotal_eq hreply hcall history
  have hungiven (hcall : ∀ donor campaignId amount asset memo,
      inv.call ≠ .donate donor campaignId amount asset memo) :
      donatedTotal id (⟨inv, w, next⟩ :: history) = donatedTotal id history := by
    rw [donatedTotal_cons, donatedBy]
    cases hthis : inv.call with
    | donate donor campaignId amount asset memo => exact absurd hthis (hcall _ _ _ _ _)
    | _ => exact zero_add _
  cases hstep with
  | initialized hcall | requested hcall | submitted hcall =>
    rw [hunapproved (by simp [hcall]), hungiven (by simp [hcall])]
    exact h
  | created hcall =>
    rw [hunapproved (by simp [hcall]), hungiven (by simp [hcall])]
    rw [Storage.raisedOf_update (s := w.storage) rfl, Function.update_apply]
    split_ifs with hid
    · exact ⟨h.approved_le, by simpa using h.approved_le⟩
    · exact h
  | @donated donor campaignId amount asset memo campaign raised _ _ _ hcall _ _ amount_gt found _
      hsum =>
    rw [hunapproved (by simp [hcall]), donatedTotal_cons, donatedBy_donate hcall,
      Storage.raisedOf_update (s := w.storage) rfl, Function.update_apply]
    have hlow := (wellFormed.raised _ _ found).1
    have hle := uncheckedI128_le hsum (by omega)
    by_cases hid : id = campaignId
    · subst hid
      rw [Storage.raisedOf_of_found found] at h
      rw [if_pos rfl, if_pos rfl]
      exact h.give (by omega) hle
    · rw [if_neg hid, if_neg (Ne.symm hid), zero_add]
      exact h
  | @approved admin campaignId campaign request raised hcall _ _ open_request _ found covered
      hsub =>
    obtain rfl := wellFormed.raised_of_approved open_request found covered hsub
    rw [hungiven (by simp [hcall]), approvedTotal_cons, approvedBy_approved hcall hreply,
      Storage.raisedOf_update (s := w.storage) rfl, Function.update_apply]
    by_cases hid : id = campaignId
    · subst hid
      rw [Storage.raisedOf_of_found found] at h
      rw [if_pos rfl, if_pos rfl]
      exact h.approve covered
    · rw [if_neg hid, if_neg (Ne.symm hid), zero_add]
      exact h

theorem covered_of_run (run : CoreRun overflowChecks history w) (id : ℕ) :
    Covered (approvedTotal overflowChecks id history) (donatedTotal id history)
      (w.storage.raisedOf id) := by
  induction run with
  | start => exact ⟨le_rfl, le_rfl⟩
  | accept prior hexec ih => exact ih.step (wellFormed_of_run prior) hexec
  | reject _ _ ih => exact ih

end Coverage

/-! ### Runs -/

section Runs

variable {overflowChecks : Bool} {history : List (Receipt Invocation World)} {w : World}

/-- The slot of a campaign holds what the last step on it left, and the requests take turns. -/
theorem turns_of_run (run : CoreRun overflowChecks history w) (id : ℕ) :
    w.storage.getWithdrawalRequest id = (withdrawals overflowChecks id history).head? ∧
      TakeTurns (withdrawals overflowChecks id history) := by
  induction run with
  | start => exact ⟨rfl, trivial⟩
  | @accept history w next inv _ hexec ih =>
    obtain ⟨hslot, hturns⟩ := ih
    obtain ⟨replied, hreply, hstep⟩ := step_of_exec hexec
    have hnext : next.storage.getWithdrawalRequest id = _ := hstep.slot hreply
    unfold Storage.getWithdrawalRequest at hslot
    rw [hslot] at hnext
    rw [hnext]
    unfold withdrawals
    cases hmoved : withdrawalStep overflowChecks id ⟨inv, w, next⟩ with
    | none =>
      rw [List.filterMap_cons_none hmoved]
      exact ⟨rfl, hturns⟩
    | some request =>
      rw [List.filterMap_cons_some hmoved]
      have hfollows := (hstep.followsOn hreply hmoved).1
      rw [hslot] at hfollows
      exact ⟨rfl, hfollows, hturns⟩
  | reject _ _ ih => exact ih

/-- The withdrawal protocol over a history and the storage it left. -/
structure WithdrawalProtocol (overflowChecks : Bool) (history : List (Receipt Invocation World))
    (s : Storage) : Prop where
  /-- The slot holds the request that was moved last, as that step left it. -/
  slot : ∀ id, s.getWithdrawalRequest id = (withdrawals overflowChecks id history).head?
  /-- Every request starts after the last was submitted and is then approved and submitted with its
  data unchanged. -/
  turns : ∀ id, TakeTurns (withdrawals overflowChecks id history)
  one_open : ∀ id, timesGiven .pending (withdrawals overflowChecks id history) ≤
    timesGiven .submitted (withdrawals overflowChecks id history) + 1
  /-- The creator makes a request and the admin moves it on. -/
  signed : ∀ r ∈ history, ∀ id request,
    withdrawalStep overflowChecks id r = some request → SignedBy id request r
  /-- What is approved leaves the raised amount, and nothing else does. -/
  deducted : ∀ r ∈ history, ∀ id campaign, r.before.storage.getCampaign id = some campaign →
    (∀ donor amount asset memo, r.label.call ≠ .donate donor id amount asset memo) →
    createdId overflowChecks r ≠ some id →
    r.after.storage.getCampaign id =
      some (campaign.withRaised (campaign.raised - approvedBy overflowChecks id r))
  given : ∀ r ∈ history, ∀ donor id amount asset memo campaign,
    r.label.call = .donate donor id amount asset memo →
    r.before.storage.getCampaign id = some campaign →
    InI128 (campaign.raised + (amount - baseFee)) →
    r.after.storage.getCampaign id =
      some (campaign.withRaised (campaign.raised + (amount - baseFee)))
  covered : ∀ id, approvedTotal overflowChecks id history ≤ donatedTotal id history

/-- Every run, given by its calls in order, keeps to the withdrawal protocol. -/
theorem withdrawal_protocol (overflowChecks : Bool) (calls : List Invocation) :
    WithdrawalProtocol overflowChecks ((chain overflowChecks).replay calls .deployed).1
      ((chain overflowChecks).replay calls .deployed).2.storage := by
  have run := (chain overflowChecks).run_replay calls .deployed
  refine ⟨fun id ↦ (turns_of_run run id).1, fun id ↦ (turns_of_run run id).2,
    fun id ↦ (turns_of_run run id).2.pending_le, ?_, ?_, ?_,
    fun id ↦ (covered_of_run run id).approved_le⟩
  · intro r hr id request hmoved
    obtain ⟨replied, hreply, hstep⟩ := step_of_exec (run.fired hr).1
    exact (hstep.followsOn hreply hmoved).2
  · intro r hr id campaign found hdonate hcreated
    obtain ⟨hexec, earlier, prior⟩ := run.fired hr
    obtain ⟨replied, hreply, hstep⟩ := step_of_exec hexec
    exact hstep.deducted hreply (wellFormed_of_run prior) found hdonate hcreated
  · intro r hr donor id amount asset memo campaign hcall found hrange
    obtain ⟨replied, hreply, hstep⟩ := step_of_exec (run.fired hr).1
    exact hstep.given hcall found hrange

end Runs

/-- A withdrawal is requested, approved and submitted, and the next is requested. -/
def Sample.secondRequest : List Invocation :=
  [⟨0, [alice], .initializeContract alice⟩,
    ⟨0, [mallory], .createCampaign mallory "wells" 1000 10⟩,
    ⟨1, [alice], .donate alice 1 400 "XLM" "for water"⟩,
    ⟨2, [mallory], .withdraw mallory 1 mallory 200⟩,
    ⟨3, [mallory], .withdraw mallory 1 mallory 50⟩,
    ⟨4, [alice], .approveWithdrawal alice 1⟩,
    ⟨5, [alice], .submitTransaction alice 1⟩,
    ⟨6, [mallory], .withdraw mallory 1 alice 100⟩]

-- The request made while the first was open has left nothing.
example : (withdrawals true 1 ((chain true).replay Sample.secondRequest .deployed).1).map
    (fun request ↦ (request.status, request.amount)) =
      [(.pending, 100), (.submitted, 200), (.approved, 200), (.pending, 200)] := by
  decide +kernel

end OrbitChain.Core
