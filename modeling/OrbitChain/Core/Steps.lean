import OrbitChain.Core.Contract

/-!
# What an invocation of the core contract can do

`Step` lists the successful invocations: what each has checked, what it returns and the whole
storage it leaves. The rest of the development reads the entrypoints through it only. A history
keeps states and not replies, so what an invocation returned is read off its receipt by running it
again (`reply`).
-/

set_option autoImplicit false
set_option relaxedAutoImplicit false

namespace OrbitChain.Core

open Foundations OrbitChainContract
open OrbitChain.Campaign (Address)

/-- The record of a donation in the campaign's history. -/
def donationRecord (inv : Invocation) (donor : Address) (amount : ℤ) (asset : String) :
    DonationRecord where
  donor := donor
  amount := amount - baseFee
  fee := baseFee
  asset := asset
  timestamp := inv.timestamp

/-- Everything a successful invocation can do, with its reply. -/
inductive Step (overflowChecks : Bool) (inv : Invocation) (w : World) : Reply → World → Prop
  | initialized {admin : Address} (hcall : inv.call = .initializeContract admin)
      (signed : admin ∈ inv.authorisers) :
      Step overflowChecks inv w .unit
        { w with storage := { w.storage with admin := some admin, count := some 0 } }
  | created {creator : Address} {title : String} {goal : ℤ} {deadline count : ℕ}
      (hcall : inv.call = .createCampaign creator title goal deadline)
      (signed : creator ∈ inv.authorisers)
      (hcount : uncheckedU64 overflowChecks Failure.trap (w.storage.getCampaignCount + 1) =
        .ok count) :
      Step overflowChecks inv w (.campaign count) (w.commit
        { w.storage with
          campaign := Function.update w.storage.campaign count
            (some ⟨count, creator, title, goal, 0, deadline, true⟩)
          count := some count }
        (.campaignCreated creator count))
  | donated {donor : Address} {campaignId : ℕ} {amount : ℤ} {asset memo : String}
      {campaign : Campaign} {raised assetRaised : ℤ} {txCount donationCount : ℕ}
      (hcall : inv.call = .donate donor campaignId amount asset memo)
      (signed : donor ∈ inv.authorisers) (given : asset ≠ "") (amount_gt : baseFee < amount)
      (found : w.storage.campaign campaignId = some campaign) (active : campaign.active = true)
      (hraised : uncheckedI128 overflowChecks Failure.trap
        (campaign.raised + (amount - baseFee)) = .ok raised)
      (hasset : uncheckedI128 overflowChecks Failure.trap
        (w.storage.getAssetRaised campaignId asset + (amount - baseFee)) = .ok assetRaised)
      (htx : uncheckedU64 overflowChecks Failure.trap (w.storage.getTotalTxCount + 1) =
        .ok txCount)
      (hdonations : uncheckedU64 overflowChecks Failure.trap (w.storage.getTotalDonations + 1) =
        .ok donationCount) :
      Step overflowChecks inv w .unit (w.commit
        { w.storage with
          campaign := Function.update w.storage.campaign campaignId
            (some (campaign.withRaised raised))
          assetRaised := Function.update w.storage.assetRaised campaignId
            (Function.update (w.storage.assetRaised campaignId) asset (some assetRaised))
          history := Function.update w.storage.history campaignId
            (some (w.storage.getHistory campaignId ++ [donationRecord inv donor amount asset]))
          donors := registerDonor w.storage.donors campaignId donor
          donation := Function.update w.storage.donation campaignId
            (Function.update (w.storage.donation campaignId) donor
              (some ⟨campaignId, donor, amount, memo, inv.timestamp⟩))
          totalTx := some txCount
          totalDonations := some donationCount }
        (.donationReceived donor campaignId amount asset memo))
  | requested {creator : Address} {campaignId : ℕ} {recipient : Address} {amount : ℤ}
      {campaign : Campaign} {txCount withdrawalCount : ℕ}
      (hcall : inv.call = .withdraw creator campaignId recipient amount)
      (signed : creator ∈ inv.authorisers) (amount_pos : 0 < amount)
      (found : w.storage.campaign campaignId = some campaign) (owner : campaign.creator = creator)
      (covered : amount ≤ campaign.raised)
      (free : ∀ existing, w.storage.pendingWithdrawal campaignId = some existing →
        existing.status = .submitted)
      (htx : uncheckedU64 overflowChecks Failure.trap (w.storage.getTotalTxCount + 1) =
        .ok txCount)
      (hwithdrawals : uncheckedU64 overflowChecks Failure.trap
        (w.storage.getTotalWithdrawals + 1) = .ok withdrawalCount) :
      Step overflowChecks inv w .unit (w.commit
        { w.storage with
          pendingWithdrawal := Function.update w.storage.pendingWithdrawal campaignId
            (some ⟨campaignId, recipient, amount, .pending⟩)
          totalTx := some txCount
          totalWithdrawals := some withdrawalCount }
        (.withdrawalRequested creator campaignId recipient amount))
  | approved {admin : Address} {campaignId : ℕ} {campaign : Campaign}
      {request : WithdrawalRequest} {raised : ℤ}
      (hcall : inv.call = .approveWithdrawal admin campaignId) (signed : admin ∈ inv.authorisers)
      (isAdmin : w.storage.admin = some admin)
      (open_request : w.storage.pendingWithdrawal campaignId = some request)
      (pending : request.status = .pending)
      (found : w.storage.campaign campaignId = some campaign)
      (covered : request.amount ≤ campaign.raised)
      (hraised : uncheckedI128 overflowChecks Failure.trap (campaign.raised - request.amount) =
        .ok raised) :
      Step overflowChecks inv w (.request (request.withStatus .approved)) (w.commit
        { w.storage with
          campaign := Function.update w.storage.campaign campaignId
            (some (campaign.withRaised raised))
          pendingWithdrawal := Function.update w.storage.pendingWithdrawal campaignId
            (some (request.withStatus .approved)) }
        (.withdrawalApproved admin campaignId request.amount))
  | submitted {admin : Address} {campaignId : ℕ} {request : WithdrawalRequest}
      (hcall : inv.call = .submitTransaction admin campaignId) (signed : admin ∈ inv.authorisers)
      (isAdmin : w.storage.admin = some admin)
      (open_request : w.storage.pendingWithdrawal campaignId = some request)
      (approved : request.status = .approved) :
      Step overflowChecks inv w (.request (request.withStatus .submitted)) (w.commit
        { w.storage with
          pendingWithdrawal := Function.update w.storage.pendingWithdrawal campaignId
            (some (request.withStatus .submitted)) }
        (.transactionSubmitted admin campaignId request.amount))

/-! ### Inversion -/

section Inversion

variable {overflowChecks : Bool} {env : Env} {w next : World}

theorem requireAdmin_eq_ok_iff {admin : Address} {s : Storage} {u : Unit} :
    requireAdmin env admin s = .ok u ↔ admin ∈ env.authorisers ∧ s.admin = some admin := by
  simp only [requireAdmin, bind_eq_ok_iff, Env.requireAuth_eq_ok_iff, orFail_eq_ok_iff,
    failIf_eq_ok_iff, not_not, exists_const]
  constructor
  · rintro ⟨hsigned, storedAdmin, hstored, rfl⟩
    exact ⟨hsigned, hstored⟩
  · rintro ⟨hsigned, hstored⟩
    exact ⟨hsigned, admin, hstored, rfl⟩

/-- A fee can be taken off any amount above it. -/
theorem inI128_sub_baseFee {amount : ℤ} (hrange : InI128 amount) (h : baseFee < amount) :
    InI128 (amount - baseFee) :=
  .of_between inI128_zero hrange (by omega) (by simp [baseFee])

/-- Every successful invocation is one of the steps. -/
theorem Invocation.step_of_run {inv : Invocation} {reply : Reply}
    (h : inv.run overflowChecks w = .ok (reply, next)) :
    Step overflowChecks inv w reply next := by
  simp only [Invocation.run, bind_eq_ok_iff, failIf_eq_ok_iff, not_not, exists_const] at h
  obtain ⟨typed, h⟩ := h
  cases hcall : inv.call with
  | initializeContract admin =>
    simp only [hcall, invoke, initializeContract, bind_eq_ok_iff, Env.requireAuth_eq_ok_iff,
      pure_eq_ok_iff, exists_const, Prod.mk.injEq] at h
    obtain ⟨_, ⟨hsigned, rfl⟩, rfl, rfl⟩ := h
    exact .initialized hcall hsigned
  | createCampaign creator title goal deadline =>
    simp only [hcall, invoke, createCampaign, bind_eq_ok_iff, Env.requireAuth_eq_ok_iff,
      pure_eq_ok_iff, exists_const, Prod.mk.injEq] at h
    obtain ⟨⟨_, _⟩, ⟨hsigned, count, hcount, rfl, rfl⟩, rfl, rfl⟩ := h
    exact .created hcall hsigned hcount
  | donate donor campaignId amount asset memo =>
    rw [hcall] at typed
    simp only [hcall, invoke, donate, bind_eq_ok_iff, Env.requireAuth_eq_ok_iff, pure_eq_ok_iff,
      failIf_eq_ok_iff, orFail_eq_ok_iff, exists_const, Prod.mk.injEq, not_le,
      Bool.not_eq_false] at h
    obtain ⟨_, ⟨hsigned, hgiven, hamount, campaign, hfound, hactive, net, hnet, raised, hraised,
      assetRaised, hasset, txCount, htx, donationCount, hdonations, rfl⟩, rfl, rfl⟩ := h
    rw [uncheckedI128_of_inI128 (inI128_sub_baseFee typed.2 hamount)] at hnet
    cases hnet
    exact .donated hcall hsigned hgiven hamount hfound hactive hraised hasset htx hdonations
  | withdraw creator campaignId recipient amount =>
    simp only [hcall, invoke, withdraw, bind_eq_ok_iff, Env.requireAuth_eq_ok_iff, pure_eq_ok_iff,
      failIf_eq_ok_iff, orFail_eq_ok_iff, exists_const, Prod.mk.injEq, not_le, not_lt,
      not_not] at h
    obtain ⟨_, ⟨hsigned, hamount, campaign, hfound, howner, hcovered, hfree, txCount, htx,
      withdrawalCount, hwithdrawals, rfl⟩, rfl, rfl⟩ := h
    refine .requested hcall hsigned hamount hfound howner hcovered ?_ htx hwithdrawals
    intro existing hexisting
    simpa [hexisting] using hfree
  | approveWithdrawal admin campaignId =>
    simp only [hcall, invoke, approveWithdrawal, bind_eq_ok_iff, requireAdmin_eq_ok_iff,
      pure_eq_ok_iff, failIf_eq_ok_iff, orFail_eq_ok_iff, exists_const, Prod.mk.injEq, not_lt,
      not_not] at h
    obtain ⟨⟨_, _⟩, ⟨⟨hsigned, hadmin⟩, request, hrequest, hpending, campaign, hfound, hcovered,
      raised, hraised, rfl, rfl⟩, rfl, rfl⟩ := h
    exact .approved hcall hsigned hadmin hrequest hpending hfound hcovered hraised
  | submitTransaction admin campaignId =>
    simp only [hcall, invoke, submitTransaction, bind_eq_ok_iff, requireAdmin_eq_ok_iff,
      pure_eq_ok_iff, failIf_eq_ok_iff, orFail_eq_ok_iff, exists_const, Prod.mk.injEq,
      not_not] at h
    obtain ⟨⟨_, _⟩, ⟨⟨hsigned, hadmin⟩, request, hrequest, happroved, rfl, rfl⟩, rfl, rfl⟩ := h
    exact .submitted hcall hsigned hadmin hrequest happroved

end Inversion

/-! ### Receipts -/

variable {overflowChecks : Bool}

/-- What the invocation of a receipt returned. -/
def reply (overflowChecks : Bool) (r : Receipt Invocation World) : Option Reply :=
  (r.label.run overflowChecks r.before).toOption.map Prod.fst

/-- A step of the chain is a successful invocation, and its receipt tells the reply. -/
theorem step_of_exec {inv : Invocation} {w next : World}
    (h : (chain overflowChecks).exec inv w = .ok next) :
    ∃ replied, reply overflowChecks ⟨inv, w, next⟩ = some replied ∧
      Step overflowChecks inv w replied next := by
  simp only [chain, bind_eq_ok_iff, pure_eq_ok_iff] at h
  obtain ⟨⟨replied, _⟩, hrun, rfl⟩ := h
  exact ⟨replied, by simp [reply, hrun, Except.toOption], Invocation.step_of_run hrun⟩

/-- The histories and states that the contract reaches from its deployment. -/
abbrev CoreRun (overflowChecks : Bool) : List (Receipt Invocation World) → World → Prop :=
  Run (chain overflowChecks) .deployed

/-! ### Stored values -/

/-- Raised amounts are values of their type and requests are of positive amounts. -/
structure WellFormed (s : Storage) : Prop where
  raised : ∀ id campaign, s.campaign id = some campaign → InI128 campaign.raised
  request : ∀ id request, s.pendingWithdrawal id = some request → 0 < request.amount

/-- Storing one more value of a kind keeps all stored values of that kind. -/
theorem forall_update {α : Type*} {P : α → Prop} {entries : ℕ → Option α}
    (h : ∀ id value, entries id = some value → P value) (campaignId : ℕ) {value : α}
    (hvalue : P value) :
    ∀ id value', Function.update entries campaignId (some value) id = some value' → P value' := by
  intro id value' hid
  by_cases heq : id = campaignId
  · rw [heq, Function.update_self] at hid
    cases hid
    exact hvalue
  · rw [Function.update_of_ne heq] at hid
    exact h id value' hid

theorem Step.wellFormed {inv : Invocation} {w next : World} {replied : Reply}
    (hstep : Step overflowChecks inv w replied next) (h : WellFormed w.storage) :
    WellFormed next.storage := by
  cases hstep with
  | initialized => exact ⟨h.raised, h.request⟩
  | created => exact ⟨forall_update h.raised _ inI128_zero, h.request⟩
  | donated _ _ _ _ _ _ hraised =>
    exact ⟨forall_update h.raised _ (uncheckedI128_ok hraised).1, h.request⟩
  | requested _ _ amount_pos => exact ⟨h.raised, forall_update h.request _ amount_pos⟩
  | approved _ _ _ open_request _ _ _ hraised =>
    have hpos := h.request _ _ open_request
    exact ⟨forall_update h.raised _ (uncheckedI128_ok hraised).1,
      forall_update h.request _ hpos⟩
  | submitted _ _ _ open_request =>
    have hpos := h.request _ _ open_request
    exact ⟨h.raised, forall_update h.request _ hpos⟩

theorem wellFormed_of_run {history : List (Receipt Invocation World)} {w : World}
    (run : CoreRun overflowChecks history w) : WellFormed w.storage := by
  refine run.state_invariant (I := fun w ↦ WellFormed w.storage) ?_ ?_
  · exact ⟨fun _ _ h ↦ absurd h (by simp [World.deployed, Storage.empty]),
      fun _ _ h ↦ absurd h (by simp [World.deployed, Storage.empty])⟩
  · intro inv w next h hexec
    obtain ⟨replied, -, hstep⟩ := step_of_exec hexec
    exact hstep.wellFormed h

/-- An approval takes exactly the amount of the request off the raised amount. -/
theorem WellFormed.raised_of_approved {s : Storage} (h : WellFormed s) {campaignId : ℕ}
    {campaign : Campaign} {request : WithdrawalRequest} {raised : ℤ}
    (open_request : s.pendingWithdrawal campaignId = some request)
    (found : s.campaign campaignId = some campaign) (covered : request.amount ≤ campaign.raised)
    (hraised : uncheckedI128 overflowChecks Failure.trap (campaign.raised - request.amount) =
      .ok raised) : raised = campaign.raised - request.amount := by
  have hpos := h.request _ _ open_request
  have hrange : InI128 (campaign.raised - request.amount) :=
    .of_between inI128_zero (h.raised _ _ found) (by omega) (by omega)
  rw [uncheckedI128_of_inI128 hrange] at hraised
  exact (Except.ok.inj hraised).symm

/-- The raised amount of a campaign, zero where none is stored. -/
def Storage.raisedOf (s : Storage) (campaignId : ℕ) : ℤ :=
  ((s.getCampaign campaignId).map Campaign.raised).getD 0

section RaisedOf

variable {s s' : Storage} {campaignId : ℕ}

theorem Storage.raisedOf_of_found {campaign : Campaign}
    (found : s.campaign campaignId = some campaign) : s.raisedOf campaignId = campaign.raised := by
  rw [raisedOf, getCampaign, found]
  rfl

/-- Storing a campaign sets its raised amount. -/
theorem Storage.raisedOf_update {campaign : Campaign}
    (h : s'.campaign = Function.update s.campaign campaignId (some campaign)) :
    s'.raisedOf = Function.update s.raisedOf campaignId campaign.raised := by
  funext id
  unfold raisedOf getCampaign
  rw [h]
  by_cases hid : id = campaignId
  · rw [hid, Function.update_self, Function.update_self]
    rfl
  · rw [Function.update_of_ne hid, Function.update_of_ne hid]

end RaisedOf

/-! ### Withdrawals in a history -/

/-- The request of a campaign as a receipt's invocation left it, if it moved it. -/
def withdrawalStep (overflowChecks : Bool) (campaignId : ℕ) (r : Receipt Invocation World) :
    Option WithdrawalRequest :=
  match r.label.call, reply overflowChecks r with
  | .withdraw _ id recipient amount, some _ =>
    if id = campaignId then some ⟨id, recipient, amount, .pending⟩ else none
  | .approveWithdrawal _ id, some (.request request) =>
    if id = campaignId then some request else none
  | .submitTransaction _ id, some (.request request) =>
    if id = campaignId then some request else none
  | _, _ => none

/-- The amount of a campaign's withdrawal that a receipt's invocation approved. -/
def approvedBy (overflowChecks : Bool) (campaignId : ℕ) (r : Receipt Invocation World) : ℤ :=
  match withdrawalStep overflowChecks campaignId r with
  | some request => if request.status = .approved then request.amount else 0
  | none => 0

/-- The total of the approved withdrawals of a campaign. -/
def approvedTotal (overflowChecks : Bool) (campaignId : ℕ)
    (history : List (Receipt Invocation World)) : ℤ :=
  (history.map (approvedBy overflowChecks campaignId)).sum

section WithdrawalStep

variable {inv : Invocation} {w next : World} {campaignId id : ℕ} {admin : Address}
  {request : WithdrawalRequest}

theorem withdrawalStep_requested {creator recipient : Address} {amount : ℤ} {replied : Reply}
    (hcall : inv.call = .withdraw creator campaignId recipient amount)
    (hreply : reply overflowChecks ⟨inv, w, next⟩ = some replied) :
    withdrawalStep overflowChecks id ⟨inv, w, next⟩ =
      if campaignId = id then some ⟨campaignId, recipient, amount, .pending⟩ else none := by
  simp only [withdrawalStep, hcall, hreply]

theorem withdrawalStep_approved (hcall : inv.call = .approveWithdrawal admin campaignId)
    (hreply : reply overflowChecks ⟨inv, w, next⟩ = some (.request request)) :
    withdrawalStep overflowChecks id ⟨inv, w, next⟩ =
      if campaignId = id then some request else none := by
  simp only [withdrawalStep, hcall, hreply]

theorem withdrawalStep_submitted (hcall : inv.call = .submitTransaction admin campaignId)
    (hreply : reply overflowChecks ⟨inv, w, next⟩ = some (.request request)) :
    withdrawalStep overflowChecks id ⟨inv, w, next⟩ =
      if campaignId = id then some request else none := by
  simp only [withdrawalStep, hcall, hreply]

theorem approvedBy_of_none (h : withdrawalStep overflowChecks id ⟨inv, w, next⟩ = none) :
    approvedBy overflowChecks id ⟨inv, w, next⟩ = 0 := by
  rw [approvedBy, h]

theorem approvedTotal_cons (r : Receipt Invocation World)
    (history : List (Receipt Invocation World)) :
    approvedTotal overflowChecks id (r :: history) =
      approvedBy overflowChecks id r + approvedTotal overflowChecks id history :=
  List.sum_cons

/-- Only approvals approve. -/
theorem Step.approvedBy_eq_zero {replied : Reply}
    (hstep : Step overflowChecks inv w replied next)
    (hreply : reply overflowChecks ⟨inv, w, next⟩ = some replied)
    (hcall : ∀ admin campaignId, inv.call ≠ .approveWithdrawal admin campaignId) :
    approvedBy overflowChecks id ⟨inv, w, next⟩ = 0 := by
  cases hstep with
  | initialized hthis | created hthis | donated hthis =>
    exact approvedBy_of_none (by simp only [withdrawalStep, hthis])
  | requested hthis =>
    rw [approvedBy, withdrawalStep_requested hthis hreply]
    split_ifs <;> rfl
  | approved hthis => exact absurd hthis (hcall _ _)
  | submitted hthis =>
    rw [approvedBy, withdrawalStep_submitted hthis hreply]
    split_ifs <;> rfl

/-- Calls other than approvals leave what is approved as it is. -/
theorem Step.approvedTotal_eq {replied : Reply} (hstep : Step overflowChecks inv w replied next)
    (hreply : reply overflowChecks ⟨inv, w, next⟩ = some replied)
    (hcall : ∀ admin campaignId, inv.call ≠ .approveWithdrawal admin campaignId)
    (history : List (Receipt Invocation World)) :
    approvedTotal overflowChecks id (⟨inv, w, next⟩ :: history) =
      approvedTotal overflowChecks id history := by
  rw [approvedTotal_cons, hstep.approvedBy_eq_zero hreply hcall, zero_add]

/-- An approval adds the amount of the request to the total of its campaign only. -/
theorem approvedBy_approved (hcall : inv.call = .approveWithdrawal admin campaignId)
    (hreply : reply overflowChecks ⟨inv, w, next⟩ =
      some (.request (request.withStatus .approved))) :
    approvedBy overflowChecks id ⟨inv, w, next⟩ =
      if campaignId = id then request.amount else 0 := by
  rw [approvedBy, withdrawalStep_approved hcall hreply]
  split_ifs <;> rfl

end WithdrawalStep

end OrbitChain.Core
