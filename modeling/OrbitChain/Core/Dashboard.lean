import OrbitChain.Core.Accounting

/-!
# The dashboard of the core contract

The `get_platform_summary` and `get_dashboard_metrics` views. Their counters are written by plain
operators, so they are the numbers of successful calls up to a multiple of `2 ^ 64`; the campaigns
are those created since the contract was last initialized. The dashboard finds the active campaigns
by walking over the numbers up to the counter. Nothing ever closes a campaign, so the walk counts
them all, and it comes to an end exactly when its own number can pass the counter
(`dashboard_of_run`).
-/

set_option autoImplicit false
set_option relaxedAutoImplicit false

namespace OrbitChain.Core

open Foundations
open OrbitChain.Campaign (Address)

/-- The summary of the platform. -/
@[ext]
structure PlatformSummary where
  totalCampaigns : ℕ
  totalDonations : ℕ
  totalWithdrawals : ℕ
  totalTransactions : ℕ
  deriving DecidableEq

/-- The metrics of the dashboard. -/
structure DashboardMetrics where
  totalCampaigns : ℕ
  activeCampaigns : ℕ
  totalDonations : ℕ
  totalWithdrawals : ℕ
  totalTransactions : ℕ
  deriving DecidableEq

namespace Storage

variable (overflowChecks : Bool) (s : Storage)

/-- The `get_platform_summary` view. -/
def getPlatformSummary : PlatformSummary where
  totalCampaigns := s.getCampaignCount
  totalDonations := s.getTotalDonations
  totalWithdrawals := s.getTotalWithdrawals
  totalTransactions := s.getTotalTxCount

/-- At most so many rounds of the walk over the campaigns up to a number, from an identifier and a
count of active campaigns on. Nothing is found when the walk has not come to its end. -/
def walkActive (totalCampaigns : ℕ) : ℕ → ℕ → ℕ → Except Failure (Option ℕ)
  | 0, _, _ => .ok none
  | rounds + 1, id, active =>
    if id ≤ totalCampaigns then do
      let active ← if (s.campaign id).any Campaign.active then
          uncheckedU64 overflowChecks .trap (active + 1)
        else pure active
      let id ← uncheckedU64 overflowChecks .trap (id + 1)
      walkActive totalCampaigns rounds id active
    else .ok (some active)

/-- The `get_dashboard_metrics` view, given so many rounds for its walk. -/
def getDashboardMetrics (rounds : ℕ) : Except Failure (Option DashboardMetrics) := do
  let activeCampaigns ← s.walkActive overflowChecks s.getCampaignCount rounds 1 0
  pure (activeCampaigns.map fun activeCampaigns ↦
    { totalCampaigns := s.getCampaignCount
      activeCampaigns := activeCampaigns
      totalDonations := s.getTotalDonations
      totalWithdrawals := s.getTotalWithdrawals
      totalTransactions := s.getTotalTxCount })

end Storage

/-! ### The walk -/

/-- Every number up to a bound has a campaign, and it is active. -/
def AllActive (s : Storage) (totalCampaigns : ℕ) : Prop :=
  ∀ id, 1 ≤ id → id ≤ totalCampaigns → (s.campaign id).any Campaign.active = true

section Walk

variable {overflowChecks : Bool} {s : Storage} {totalCampaigns : ℕ}

/-- A wrapping counter always steps on to a counter. -/
theorem uncheckedU64_wraps (x : ℕ) :
    ∃ y ≤ u64Max, uncheckedU64 false Failure.trap x = .ok y := by
  by_cases h : x ≤ u64Max
  · exact ⟨x, h, uncheckedU64_of_le h⟩
  · refine ⟨x % 2 ^ 64, ?_, if_neg h⟩
    unfold u64Max
    omega

/-- In a build that wraps, no number passes the largest one. -/
theorem walkActive_never_ends (rounds : ℕ) {id active : ℕ} (hid : id ≤ u64Max) :
    s.walkActive false u64Max rounds id active = .ok none := by
  induction rounds generalizing id active with
  | zero => rfl
  | succ rounds ih =>
    obtain ⟨counted, -, hcounted⟩ := uncheckedU64_wraps (active + 1)
    obtain ⟨next, hnext, hstep⟩ := uncheckedU64_wraps (id + 1)
    rw [Storage.walkActive, if_pos hid]
    split_ifs <;> simp only [hcounted, hstep, ok_bind, pure_bind, ih hnext]

/-- Where all campaigns are active, the walk counts them all, unless their number is the largest
there is. -/
theorem walkActive_of_allActive (h : AllActive s totalCampaigns) (htotal : totalCampaigns ≤ u64Max)
    {rounds id active : ℕ} (hid : id = active + 1) (hle : id ≤ totalCampaigns + 1)
    (hrange : id ≤ u64Max) (hrounds : totalCampaigns + 2 ≤ id + rounds) :
    s.walkActive overflowChecks totalCampaigns rounds id active =
      if totalCampaigns = u64Max then if overflowChecks then .error .trap else .ok none
      else .ok (some totalCampaigns) := by
  induction rounds generalizing id active with
  | zero => omega
  | succ rounds ih =>
    rcases Nat.lt_or_ge totalCampaigns id with hpast | hin
    · rw [Storage.walkActive, if_neg hpast.not_ge, if_neg (by omega)]
      rw [show active = totalCampaigns by omega]
    have hcounted : uncheckedU64 overflowChecks Failure.trap (active + 1) = .ok id := by
      rw [← hid]
      exact uncheckedU64_of_le hrange
    rw [Storage.walkActive, if_pos hin, if_pos (h id (by omega) hin), hcounted]
    simp only [ok_bind]
    rcases Nat.lt_or_ge id u64Max with hlt | hlargest
    · rw [uncheckedU64_of_le hlt, ok_bind]
      exact ih rfl (by omega) hlt (by omega)
    · -- the number of this round is the last one there is
      obtain rfl : totalCampaigns = u64Max := by omega
      rw [if_pos rfl]
      cases overflowChecks with
      | true =>
        rw [uncheckedU64, if_neg (by omega)]
        rfl
      | false =>
        obtain ⟨next, hnext, hstep⟩ := uncheckedU64_wraps (id + 1)
        rw [hstep, ok_bind, walkActive_never_ends rounds hnext]
        rfl

/-- Where all campaigns are active, fewer rounds than there are numbers to come do not finish. -/
theorem walkActive_of_few (h : AllActive s totalCampaigns) {rounds id active : ℕ}
    (hid : id = active + 1) (hfew : id + rounds ≤ totalCampaigns + 1)
    (hrange : id + rounds ≤ u64Max) :
    s.walkActive overflowChecks totalCampaigns rounds id active = .ok none := by
  induction rounds generalizing id active with
  | zero => rfl
  | succ rounds ih =>
    have hin : id ≤ totalCampaigns := by omega
    have hcounted : uncheckedU64 overflowChecks Failure.trap (active + 1) = .ok id := by
      rw [← hid]
      exact uncheckedU64_of_le (by omega)
    rw [Storage.walkActive, if_pos hin, if_pos (h id (by omega) hin), hcounted]
    simp only [ok_bind]
    rw [uncheckedU64_of_le (by omega), ok_bind]
    exact ih rfl (by omega) (by omega)

end Walk

/-! ### What the counters count -/

/-- The call sets the counter of campaigns back. -/
def Call.initializes : Call → Bool
  | .initializeContract _ => true
  | _ => false

/-- The call counts a campaign. -/
def Call.creates : Call → Bool
  | .createCampaign .. => true
  | _ => false

/-- The call counts a donation. -/
def Call.donates : Call → Bool
  | .donate .. => true
  | _ => false

/-- The call counts a request of a withdrawal. -/
def Call.requests : Call → Bool
  | .withdraw .. => true
  | _ => false

/-- The number of successful calls of a kind. -/
def callCount (kind : Call → Bool) (history : List (Receipt Invocation World)) : ℕ :=
  history.countP fun r ↦ kind r.label.call

/-- The part of a history since the contract was last initialized. -/
def sinceInitialized (history : List (Receipt Invocation World)) :
    List (Receipt Invocation World) :=
  history.takeWhile fun r ↦ !r.label.call.initializes

/-- The summary that a history calls for: its calls counted by counters of 64 bits. -/
def summaryOf (history : List (Receipt Invocation World)) : PlatformSummary where
  totalCampaigns := callCount Call.creates (sinceInitialized history) % 2 ^ 64
  totalDonations := callCount Call.donates history % 2 ^ 64
  totalWithdrawals := callCount Call.requests history % 2 ^ 64
  totalTransactions :=
    (callCount Call.donates history + callCount Call.requests history) % 2 ^ 64

section Counting

variable {overflowChecks : Bool} {kind : Call → Bool} {history : List (Receipt Invocation World)}
  {r : Receipt Invocation World} {inv : Invocation} {w next : World}

theorem callCount_cons :
    callCount kind (r :: history) = callCount kind history + (kind r.label.call).toNat := by
  rw [callCount, List.countP_cons]
  cases kind r.label.call <;> rfl

/-- What a call adds to the counters when it does not initialize. -/
theorem summaryOf_cons (h : r.label.call.initializes = false) :
    summaryOf (r :: history) =
      ⟨(callCount Call.creates (sinceInitialized history) + r.label.call.creates.toNat) % 2 ^ 64,
        (callCount Call.donates history + r.label.call.donates.toNat) % 2 ^ 64,
        (callCount Call.requests history + r.label.call.requests.toNat) % 2 ^ 64,
        (callCount Call.donates history + r.label.call.donates.toNat +
          (callCount Call.requests history + r.label.call.requests.toNat)) % 2 ^ 64⟩ := by
  have hsince : sinceInitialized (r :: history) = r :: sinceInitialized history :=
    List.takeWhile_cons_of_pos (by simp [h])
  simp only [summaryOf, hsince, callCount_cons]

/-- An initialization takes back the campaigns only. -/
theorem summaryOf_cons_of_initializes {admin : Address}
    (h : r.label.call = .initializeContract admin) :
    summaryOf (r :: history) = { summaryOf history with totalCampaigns := 0 } := by
  have hsince : sinceInitialized (r :: history) = [] :=
    List.takeWhile_cons_of_neg (by simp [h, Call.initializes])
  simp [summaryOf, hsince, callCount, h, Call.donates, Call.requests]

/-- A plain counter counts on up to a multiple of its bound. -/
theorem counted_succ {n count : ℕ}
    (h : uncheckedU64 overflowChecks Failure.trap (n % 2 ^ 64 + 1) = .ok count) :
    count = (n + 1) % 2 ^ 64 := by
  unfold uncheckedU64 u64Max at h
  split_ifs at h with hrange <;> cases h <;> omega

/-- The counters are those of a history, every number up to the counter of campaigns has one, and
all stored campaigns are active. -/
structure Counted (history : List (Receipt Invocation World)) (s : Storage) : Prop where
  summary : s.getPlatformSummary = summaryOf history
  stored : ∀ id, 1 ≤ id → id ≤ s.getCampaignCount → s.campaign id ≠ none
  active : ∀ id campaign, s.campaign id = some campaign → campaign.active = true

theorem Counted.allActive {s : Storage} (h : Counted history s) :
    AllActive s s.getCampaignCount := by
  intro id hid hle
  cases hfound : s.campaign id with
  | none => exact absurd hfound (h.stored id hid hle)
  | some campaign => exact h.active id campaign hfound

/-- A step counts its call. -/
theorem Step.summary {replied : Reply} (hstep : Step overflowChecks inv w replied next)
    (h : w.storage.getPlatformSummary = summaryOf history) :
    next.storage.getPlatformSummary = summaryOf (⟨inv, w, next⟩ :: history) := by
  simp only [Storage.getPlatformSummary, summaryOf, PlatformSummary.mk.injEq] at h
  obtain ⟨hcampaigns, hdonations, hwithdrawals, htx⟩ := h
  cases hstep with
  | initialized hcall =>
    rw [summaryOf_cons_of_initializes hcall]
    simp only [Storage.getPlatformSummary, summaryOf, ← hdonations, ← hwithdrawals, ← htx]
    rfl
  | created hcall _ hcount =>
    rw [hcampaigns] at hcount
    rw [summaryOf_cons (by rw [hcall]; rfl), hcall]
    exact PlatformSummary.ext (counted_succ hcount) hdonations hwithdrawals htx
  | donated hcall _ _ _ _ _ _ _ htx' hdonations' =>
    rw [htx] at htx'
    rw [hdonations] at hdonations'
    rw [summaryOf_cons (by rw [hcall]; rfl), hcall]
    refine PlatformSummary.ext hcampaigns (counted_succ hdonations') hwithdrawals ?_
    exact (counted_succ htx').trans (congrArg (· % 2 ^ 64) (Nat.add_right_comm _ _ 1))
  | requested hcall _ _ _ _ _ _ htx' hwithdrawals' =>
    rw [htx] at htx'
    rw [hwithdrawals] at hwithdrawals'
    rw [summaryOf_cons (by rw [hcall]; rfl), hcall]
    exact PlatformSummary.ext hcampaigns hdonations (counted_succ hwithdrawals')
      (counted_succ htx')
  | approved hcall | submitted hcall =>
    rw [summaryOf_cons (by rw [hcall]; rfl), hcall]
    exact PlatformSummary.ext hcampaigns hdonations hwithdrawals htx

/-- Storing a campaign empties no slot. -/
theorem update_ne_none {entries : ℕ → Option Campaign} {campaignId id : ℕ} {campaign : Campaign}
    (h : entries id ≠ none) : Function.update entries campaignId (some campaign) id ≠ none := by
  by_cases heq : id = campaignId
  · rw [heq, Function.update_self]
    exact Option.some_ne_none campaign
  · rwa [Function.update_of_ne heq]

theorem Counted.step (h : Counted history w.storage)
    (hexec : (chain overflowChecks).exec inv w = .ok next) :
    Counted (⟨inv, w, next⟩ :: history) next.storage := by
  obtain ⟨replied, -, hstep⟩ := step_of_exec hexec
  have hsummary := hstep.summary h.summary
  cases hstep with
  | initialized =>
    exact ⟨hsummary, fun id hid hle ↦ absurd (hid.trans hle) (Nat.not_succ_le_zero 0), h.active⟩
  | @created creator title goal deadline count _ _ hcount =>
    refine ⟨hsummary, fun id hid hle ↦ ?_, forall_update h.active count rfl⟩
    have hle' : id ≤ count := hle
    rcases hle'.eq_or_lt with rfl | hlt
    · exact (Function.update_self id _ w.storage.campaign).trans_ne (Option.some_ne_none _)
    · have hbound := uncheckedU64_le hcount
      exact update_ne_none (h.stored id hid (by omega))
  | donated _ _ _ _ found | approved _ _ _ _ _ found =>
    have hactive := h.active _ _ found
    exact ⟨hsummary, fun id hid hle ↦ update_ne_none (h.stored id hid hle),
      forall_update h.active _ hactive⟩
  | requested | submitted => exact ⟨hsummary, h.stored, h.active⟩

/-- The counters count in every run. -/
theorem counted_of_run (run : CoreRun overflowChecks history w) : Counted history w.storage := by
  refine run.invariant (I := fun history w ↦ Counted history w.storage) ?_ ?_
  · exact ⟨rfl, fun id hid hle ↦ absurd (hid.trans hle) (Nat.not_succ_le_zero 0),
      fun _ _ h ↦ absurd h (by simp [World.deployed, Storage.empty])⟩
  · intro history w inv next _ h hexec
    exact h.step hexec

/-- In every run the summary of the platform counts the successful calls, the campaigns from the
last initialization on, up to a multiple of `2 ^ 64`. The dashboard adds that all campaigns are
active, given a round for each of them and one more, and with fewer rounds it is not done; only when
their number is the largest there is the walk then traps or never ends. -/
theorem dashboard_of_run (run : CoreRun overflowChecks history w) {rounds : ℕ}
    (hrounds : w.storage.getCampaignCount < rounds) :
    w.storage.getPlatformSummary = summaryOf history ∧
      (∀ fewer ≤ w.storage.getCampaignCount, fewer < u64Max →
        w.storage.getDashboardMetrics overflowChecks fewer = .ok none) ∧
      w.storage.getDashboardMetrics overflowChecks rounds =
        let summary := summaryOf history
        if summary.totalCampaigns = u64Max then if overflowChecks then .error .trap else .ok none
        else .ok (some
          { totalCampaigns := summary.totalCampaigns
            activeCampaigns := summary.totalCampaigns
            totalDonations := summary.totalDonations
            totalWithdrawals := summary.totalWithdrawals
            totalTransactions := summary.totalTransactions }) := by
  have counted := counted_of_run run
  refine ⟨counted.summary, fun fewer hfewer hlt ↦ ?_, ?_⟩
  · rw [Storage.getDashboardMetrics, walkActive_of_few counted.allActive rfl (by omega) (by omega)]
    rfl
  · have hrange : w.storage.getCampaignCount ≤ u64Max := by
      have hcampaigns := congrArg PlatformSummary.totalCampaigns counted.summary
      change w.storage.getCampaignCount = _ % 2 ^ 64 at hcampaigns
      unfold u64Max
      omega
    rw [← counted.summary, Storage.getDashboardMetrics,
      walkActive_of_allActive counted.allActive hrange rfl (Nat.le_add_left 1 _) (by decide)
        (by omega)]
    change _ = if w.storage.getCampaignCount = u64Max then _ else _
    split_ifs <;> rfl

end Counting

/-- The dashboard after the run of the two donors. -/
theorem dashboard_of_run_twoDonors :
    ((chain true).replay Sample.twoDonors .deployed).2.storage.getDashboardMetrics true 2 =
      .ok (some ⟨1, 1, 3, 1, 4⟩) :=
  (dashboard_of_run ((chain true).run_replay Sample.twoDonors .deployed)
    (by decide +kernel)).2.2.trans (by decide +kernel)

end OrbitChain.Core
