import OrbitChain.Campaign.Settlement
import OrbitChain.Campaign.IncrementalPayout
import OrbitChain.Foundations.SuccessivePayments

/-!
# Paying a funded campaign out

A campaign that starts with nothing released and is then funded by settled donations up to its
goal has all its milestones unlocked and holds what it recorded. Releasing the milestones in order
pays each one's cumulative target out of what the releases before it left, so the whole schedule
can be paid out exactly when those targets are payable one after the other.
-/

set_option autoImplicit false
set_option relaxedAutoImplicit false

namespace OrbitChain.Campaign

open Foundations

/-! ### Funding -/

/-- A schedule of locked milestones with nothing released and a positive first target. -/
def FreshSchedule (milestones : List MilestoneData) : Prop :=
  (∀ m ∈ milestones, m.status = .locked ∧ m.releasedAmount = 0) ∧
    ∀ m ∈ milestones.head?, 0 < m.targetAmount

instance (milestones : List MilestoneData) : Decidable (FreshSchedule milestones) :=
  inferInstanceAs (Decidable (_ ∧ _))

/-- The steps that fund a campaign: an initialization with a fresh schedule and distinct issuers,
and donations. -/
def FundingStep (r : Receipt Action World) : Prop :=
  match r.label with
  | .invoke ⟨_, _, _, .initializeCampaign _ _ _ acceptedAssets milestones _⟩ =>
    FreshSchedule milestones ∧ (acceptedAssets.filterMap StellarAsset.issuer).Nodup
  | .invoke ⟨_, _, _, .donate _ _ _⟩ => True
  | _ => False

instance (r : Receipt Action World) : Decidable (FundingStep r) :=
  match r with
  | ⟨.transfer _ _ _ _, _, _⟩ => inferInstanceAs (Decidable False)
  | ⟨.invoke ⟨_, _, _, call⟩, _, _⟩ =>
    match call with
    | .initializeCampaign _ _ _ _ _ _ => inferInstanceAs (Decidable (_ ∧ _))
    | .donate _ _ _ => inferInstanceAs (Decidable True)
    | .claimRefund _ | .endCampaign | .cancelCampaign | .extendDeadline _ | .releaseMilestone _ _
    | .releaseMilestoneMultiAsset _ _ | .upgrade _ | .freeze | .unfreeze | .blockAsset _
    | .unblockAsset _ | .bumpStorage => inferInstanceAs (Decidable False)

/-- A milestone of which nothing is released and that is unlocked when its target is raised. -/
structure Waiting (raised : ℤ) (m : MilestoneData) : Prop where
  released : m.releasedAmount = 0
  status : m.status = if m.targetAmount ≤ raised then .unlocked else .locked
  target_pos : 0 < m.targetAmount

/-- An unlock at a larger raised amount leaves a waiting milestone waiting. -/
theorem Waiting.unlock {raised raised' : ℤ} {m : MilestoneData} (h : Waiting raised m)
    (hle : raised ≤ raised') : Waiting raised' (m.unlock raised') where
  released := (MilestoneData.apply_unlock MilestoneData.releasedAmount (fun _ _ ↦ rfl) _ m).trans
    h.released
  status := by
    have hstatus := h.status
    rw [MilestoneData.unlock_targetAmount, MilestoneData.unlock]
    split_ifs with hdue htarget htarget
    · rfl
    · exact absurd hdue.2 htarget
    · rw [if_pos] at hstatus
      · exact hstatus
      · by_contra hraised
        rw [if_neg hraised] at hstatus
        exact hdue ⟨hstatus, htarget⟩
    · rwa [if_neg fun hraised ↦ htarget (hraised.trans hle)] at hstatus
  target_pos := (m.unlock_targetAmount raised').symm ▸ h.target_pos

/-- A campaign that has only been funded: its milestones wait for their release, its counter and
freeze flag are untouched, and the contract holds what it recorded. -/
structure Funded (contract : Address) (w : World) (campaign : CampaignData)
    (v : List MilestoneData) : Prop where
  established : Established w.storage campaign v
  issuers_nodup : campaign.issuers.Nodup
  waiting : ∀ m ∈ v, Waiting campaign.raisedAmount m
  count : w.storage.getReleaseCount = 0
  not_frozen : w.storage.isFrozen = false
  held : ∀ t, w.storage.getAssetRaised t ≤ w.ledger.balance t contract

theorem SettledStep.funded {host : Host} {action : Action} {w next : World}
    (h : SettledStep host action w next) (hfunding : FundingStep ⟨action, w, next⟩)
    (hw : w.storage = .empty ∨ ∃ campaign v, Funded host.contract w campaign v) :
    ∃ campaign v, Funded host.contract next campaign v := by
  cases h with
  | @donated inv _ middle _ donor amount asset campaign token hcall _ h hledger hstorage =>
    rcases hw with hempty | ⟨found, v, hw⟩
    · have hfound := h.found
      rw [hempty] at hfound
      exact absurd hfound (by simp [Storage.empty])
    obtain ⟨rfl, hmiddle⟩ := hw.established.of_donated h
    refine ⟨campaign.withRaised (campaign.raisedAmount + amount), _,
      ⟨hstorage ▸ hmiddle, hw.issuers_nodup, ?_, ?_, ?_, fun t ↦ ?_⟩⟩
    · intro flipped hflipped
      obtain ⟨m, hm, rfl⟩ := List.mem_map.mp hflipped
      exact (hw.waiting m hm).unlock (le_add_of_nonneg_right h.amount_pos.le)
    · rw [hstorage, Storage.getReleaseCount, h.releaseCount]
      exact hw.count
    · rw [hstorage, Storage.isFrozen, h.frozen]
      exact hw.not_frozen
    · have hheld := hw.held t
      rw [hstorage, Storage.getAssetRaised, h.assetRaised, Ledger.balance_transfer hledger]
      have hdonor : host.contract ≠ donor := h.authorised.2.symm
      simp only [hdonor, and_false, if_false, sub_zero, and_true]
      by_cases ht : t = token
      · rw [ht, Function.update_self, Option.getD_some, if_pos rfl, ← ht]
        linarith
      · rw [Function.update_of_ne ht, if_neg ht, add_zero]
        exact hheld
  | other hcall h =>
    cases action with
    | transfer => exact hfunding.elim
    | invoke inv =>
      obtain ⟨timestamp, sequence, authorisers, call⟩ := inv
      cases call with
      | initializeCampaign creator goalAmount endTime acceptedAssets milestones
          minDonationAmount =>
        obtain ⟨hempty, hinit⟩ := h.of_initialize rfl
        obtain ⟨⟨hfresh, hfirst⟩, hnodup⟩ := hfunding
        have hestablished := Established.of_initialized hinit hempty
        obtain ⟨report, hstorage⟩ := hinit.storage
        refine ⟨_, _, ⟨hestablished, hnodup, fun m hm ↦ ?_, ?_, ?_, fun t ↦ ?_⟩⟩
        · have hpos : 0 < m.targetAmount := by
            obtain ⟨head, rest, rfl⟩ := List.exists_cons_of_ne_nil hinit.milestones_nonempty
            have hhead := hfirst head rfl
            rcases List.mem_cons.mp hm with rfl | hm
            · exact hhead
            · exact hhead.trans ((List.pairwise_cons.mp hinit.schedule.ascending).1 m hm)
          refine ⟨(hfresh m hm).2, ?_, hpos⟩
          rw [(hfresh m hm).1]
          exact (if_neg (not_le.mpr hpos)).symm
        · rw [hstorage, hempty]
          rfl
        · rw [hstorage, hempty]
          rfl
        · rw [hstorage, hempty]
          exact next.ledger.balance_nonneg t host.contract
      | donate donor amount asset => exact absurd rfl (hcall _ donor amount asset rfl)
      | _ => exact hfunding.elim

/-- A run of funding steps leaves a fresh contract or a funded campaign. -/
theorem SettledRun.funded {contract : Address} {overflowChecks : Bool}
    {ledger : Ledger Address Address} {wasmHash : BitVec 256}
    {history : List (Receipt Action World)} {w : World}
    (run : SettledRun contract overflowChecks ledger wasmHash history w)
    (hfunding : ∀ r ∈ history, FundingStep r) :
    w.storage = .empty ∨ ∃ campaign v, Funded contract w campaign v := by
  refine SettledRun.induction
    (I := fun history w ↦ (∀ r ∈ history, FundingStep r) →
      w.storage = .empty ∨ ∃ campaign v, Funded contract w campaign v)
    (fun _ ↦ .inl rfl) ?_ run hfunding
  intro history w action next _ ih hstep hfunding
  have hw := ih fun r hr ↦ hfunding r (List.mem_cons_of_mem _ hr)
  have hfunded := hstep.funded (hfunding _ List.mem_cons_self)
  simp only [standardHost] at hfunded
  exact .inr (hfunded hw)

/-! ### Releasing in order -/

/-- A campaign of whose schedule the first `k` milestones have been released and the others wait
to be, each with its whole target pending. -/
structure PaidUpTo (k : ℕ) (w : World) (campaign : CampaignData) (v : List MilestoneData) :
    Prop where
  established : Established w.storage campaign v
  released : ∀ i < k, IsReleased w.storage i
  waiting : ∀ i m, k ≤ i → v[i]? = some m →
    m.status = .unlocked ∧ m.releasedAmount = 0 ∧ 0 < m.targetAmount
  count : w.storage.getReleaseCount = k
  not_frozen : w.storage.isFrozen = false

/-- A funded campaign that reached its goal can start to release. -/
theorem Funded.paidUpTo {contract : Address} {w : World} {campaign : CampaignData}
    {v : List MilestoneData} (h : Funded contract w campaign v)
    (hgoal : campaign.goalAmount ≤ campaign.raisedAmount) : PaidUpTo 0 w campaign v where
  established := h.established
  released := fun i hi ↦ absurd hi (Nat.not_lt_zero i)
  waiting := by
    intro i m _ hm
    have hmem := List.mem_of_getElem? hm
    have hwaiting := h.waiting m hmem
    refine ⟨?_, hwaiting.released, hwaiting.target_pos⟩
    rw [hwaiting.status, if_pos ((h.established.schedule.target_le hmem).trans hgoal)]
  count := h.count
  not_frozen := h.not_frozen

section Release

variable {host : Host} {inv : Invocation} {k : ℕ} {w next : World} {campaign : CampaignData}
  {v : List MilestoneData}

/-- Releasing the next milestone advances the campaign. -/
theorem PaidUpTo.advance (h : PaidUpTo k w campaign v) (hstep : Step host (.invoke inv) w next)
    (hindex : inv.call.releasedIndex = some k) :
    ∃ v', PaidUpTo (k + 1) next campaign v' ∧
      v'.map MilestoneData.targetAmount = v.map MilestoneData.targetAmount := by
  have hsound : Sound w.storage := .inr ⟨campaign, v, h.established⟩
  have hreleased : ∀ i < k + 1, IsReleased next.storage i := by
    intro i hi
    rw [hstep.isReleased_iff hsound (by simp [h.established.found])]
    rcases Nat.lt_succ_iff_lt_or_eq.mp hi with hlt | rfl
    · exact .inr (h.released i hlt)
    · exact .inl hindex
  have hwaiting : ∀ data i m, k + 1 ≤ i → (v.set k data)[i]? = some m →
      m.status = .unlocked ∧ m.releasedAmount = 0 ∧ 0 < m.targetAmount := by
    intro data i m hi hm
    rw [List.getElem?_set_ne (by omega)] at hm
    exact h.waiting i m (by omega) hm
  cases hstep with
  | released _ hcall hrelease =>
    rw [hcall] at hindex
    obtain rfl := Option.some.inj hindex
    obtain ⟨rfl, hm, hnext⟩ := h.established.of_released hrelease
    obtain ⟨report, -, hstorage⟩ := hrelease.storage
    refine ⟨_, ⟨hnext, hreleased, hwaiting _, ?_, ?_⟩, map_set_targets hm rfl⟩
    · rw [hstorage, ← h.count]
      rfl
    · rw [hstorage]
      exact h.not_frozen
  | multiReleased _ hcall hrelease =>
    rw [hcall] at hindex
    obtain rfl := Option.some.inj hindex
    obtain ⟨rfl, hm, hnext⟩ := h.established.of_multiReleased hrelease
    obtain ⟨report, -, hstorage⟩ := hrelease.storage
    refine ⟨_, ⟨hnext, hreleased, hwaiting _, ?_, ?_⟩, map_set_targets hm rfl⟩
    · rw [hstorage, ← h.count]
      rfl
    · rw [hstorage]
      exact h.not_frozen
  | administered _ hcall _ =>
    rw [Call.releasedIndex_of_administrative hcall] at hindex
    exact absurd hindex (by simp)
  | initialized _ hcall _ _ | donated _ hcall _ | claimed _ hcall _ =>
    rw [hcall] at hindex
    exact absurd hindex (by simp [Call.releasedIndex])

end Release

section Next

variable {k : ℕ} {w : World} {campaign : CampaignData} {v : List MilestoneData} {m : MilestoneData}

theorem PaidUpTo.lt_count (h : PaidUpTo k w campaign v) (hm : v[k]? = some m) :
    k < campaign.milestoneCount := by
  rw [h.established.count]
  exact (List.getElem?_eq_some_iff.mp hm).1

/-- The whole target of the next milestone is pending. -/
theorem PaidUpTo.pending_eq (h : PaidUpTo k w campaign v) (hm : v[k]? = some m) :
    m.targetAmount - m.releasedAmount = m.targetAmount := by
  rw [(h.waiting k m le_rfl hm).2.1, sub_zero]

/-- The target of the next milestone was raised, so it is in range. -/
theorem PaidUpTo.target_range (h : PaidUpTo k w campaign v) (hm : v[k]? = some m)
    (hgoal : campaign.goalAmount ≤ campaign.raisedAmount) : InI128 m.targetAmount :=
  inI128_zero.of_between h.established.raised_range (h.waiting k m le_rfl hm).2.2.le
    ((h.established.schedule.target_le (List.mem_of_getElem? hm)).trans hgoal)

/-- The release counter does not overflow before the schedule is released. -/
theorem PaidUpTo.count_range (h : PaidUpTo k w campaign v) (hm : v[k]? = some m) :
    w.storage.getReleaseCount + 1 ≤ u64Max := by
  have hlength : k < v.length := (List.getElem?_eq_some_iff.mp hm).1
  rw [h.count]
  exact le_trans (Nat.succ_le_of_lt (hlength.trans_le h.established.bounded)) (by decide)

theorem PaidUpTo.predecessor (h : PaidUpTo k w campaign v) :
    ReleaseMilestone.PredecessorReleased w.storage k := by
  rw [predecessorReleased_iff]
  rintro i rfl
  exact h.released i (Nat.lt_succ_self i)

end Next

/-- The releases of a schedule in order can be executed. -/
def PaysOut (host : Host) (make : ℕ → Invocation) (count : ℕ) (w : World) : Prop :=
  ∃ reached, (chain host).execAll ((List.range count).map fun i ↦ .invoke (make i)) w
    = .ok reached ∧ ∀ i < count, IsReleased reached.storage i

/-- How a payout goes through its schedule: `P` says when the remaining targets can be paid, and `S`
what the payments rely on besides the progress of the campaign. -/
structure PaysStepwise (contract : Address) (overflowChecks : Bool) (campaign : CampaignData)
    (make : ℕ → Invocation) (S P : List ℤ → World → Prop) : Prop where
  nil : ∀ w, P [] w
  index : ∀ {k w v m}, PaidUpTo k w campaign v → v[k]? = some m →
    (make k).call.releasedIndex = some k
  pays : ∀ {k w v m rest}, PaidUpTo k w campaign v → v[k]? = some m →
    S (m.targetAmount :: rest) w → (P (m.targetAmount :: rest) w ↔ ∃ next,
      (chain (standardHost contract overflowChecks)).exec (.invoke (make k)) w = .ok next ∧
        P rest next)
  keeps : ∀ {k w v m rest next}, PaidUpTo k w campaign v → v[k]? = some m →
    S (m.targetAmount :: rest) w →
    (chain (standardHost contract overflowChecks)).exec (.invoke (make k)) w = .ok next →
      S rest next

namespace PaysStepwise

variable {contract : Address} {overflowChecks : Bool} {campaign : CampaignData}
  {make : ℕ → Invocation} {S P : List ℤ → World → Prop} {w : World} {v : List MilestoneData}

/-- What is left of a schedule, release by release. -/
theorem execAll_iff (h : PaysStepwise contract overflowChecks campaign make S P) {rest : List ℤ}
    {k : ℕ} (hw : PaidUpTo k w campaign v)
    (hrest : (v.map MilestoneData.targetAmount).drop k = rest) (hside : S rest w) :
    (∃ reached, (chain (standardHost contract overflowChecks)).execAll
        ((List.range' k rest.length).map fun i ↦ .invoke (make i)) w = .ok reached ∧
      ∀ i < v.length, IsReleased reached.storage i) ↔ P rest w := by
  induction rest generalizing k w v with
  | nil =>
    refine iff_of_true ⟨w, rfl, fun i hi ↦ hw.released i ?_⟩ (h.nil w)
    have hlength := List.drop_eq_nil_iff.mp hrest
    rw [List.length_map] at hlength
    omega
  | cons target rest ih =>
    obtain ⟨m, hm, rfl⟩ : ∃ m, v[k]? = some m ∧ m.targetAmount = target := by
      have hhead := congrArg (fun targets ↦ targets[0]?) hrest
      simp only [List.getElem?_drop, add_zero, List.getElem?_cons_zero, List.getElem?_map,
        Option.map_eq_some_iff] at hhead
      exact hhead
    have htail : (v.map MilestoneData.targetAmount).drop (k + 1) = rest := by
      rw [← List.drop_drop, hrest]
      rfl
    have hiff {next : World} (hexec : (chain (standardHost contract overflowChecks)).exec
        (.invoke (make k)) w = .ok next) :
        (∃ reached, (chain (standardHost contract overflowChecks)).execAll
            ((List.range' (k + 1) rest.length).map fun i ↦ .invoke (make i)) next = .ok reached ∧
          ∀ i < v.length, IsReleased reached.storage i) ↔ P rest next := by
      obtain ⟨v', hv', htargets⟩ :=
        hw.advance (step_of_exec hw.established.untouched hexec) (h.index hw hm)
      have hlength : v'.length = v.length := by simpa using congrArg List.length htargets
      rw [← hlength]
      exact ih hv' (by rw [htargets]; exact htail) (h.keeps hw hm hside hexec)
    rw [h.pays hw hm hside, List.length_cons, List.range'_succ, List.map_cons]
    simp only [System.execAll, bind_eq_ok_iff]
    constructor
    · rintro ⟨reached, ⟨next, hexec, hrestexec⟩, hreleased⟩
      exact ⟨next, hexec, (hiff hexec).mp ⟨reached, hrestexec, hreleased⟩⟩
    · rintro ⟨next, hexec, hP⟩
      obtain ⟨reached, hrestexec, hreleased⟩ := (hiff hexec).mpr hP
      exact ⟨reached, ⟨next, hexec, hrestexec⟩, hreleased⟩

/-- The whole schedule from its first release. -/
theorem paysOut_iff (h : PaysStepwise contract overflowChecks campaign make S P)
    (hw : PaidUpTo 0 w campaign v) (hside : S (v.map MilestoneData.targetAmount) w) :
    PaysOut (standardHost contract overflowChecks) make campaign.milestoneCount w ↔
      P (v.map MilestoneData.targetAmount) w := by
  have hall := h.execAll_iff hw rfl hside
  rw [List.drop_zero, List.length_map] at hall
  rw [PaysOut, List.range_eq_range', hw.established.count]
  exact hall

end PaysStepwise

/-! ### Releases over several assets -/

section Shared

variable {contract : Address} {overflowChecks : Bool} {inv : Invocation} {k : ℕ} {w next : World}
  {campaign : CampaignData} {v : List MilestoneData} {m : MilestoneData} {recipient : Address}
  {book : PledgeBook Address Address}

/-- With distinct issuers and products in range, a release pays every token's share. -/
theorem paidIn_milestonePayments (hbook : Mirrors w.storage book)
    (hfound : w.storage.campaignData = some campaign) (hnodup : campaign.issuers.Nodup)
    (hreleased : m.releasedAmount = 0) (htarget : 0 < m.targetAmount)
    (htotal : 0 < w.storage.getTotalRaised)
    (hrange : ∀ t ∈ campaign.issuers.toFinset,
      InI128 (w.storage.getAssetRaised t * m.targetAmount)) (t : Address) :
    paidIn t (MultiAssetRelease.milestonePayments w.storage campaign m) =
      share (w.storage.getAssetRaised t) m.targetAmount w.storage.getTotalRaised := by
  have hlisted : MultiAssetRelease.ListedOnce w.storage.assetRaised campaign.issuers :=
    fun t _ _ ↦ List.nodup_iff_count_le_one.mp hnodup t
  have hissuers : campaign.acceptedAssets.filterMap StellarAsset.issuer = campaign.issuers := rfl
  rw [MultiAssetRelease.milestonePayments, MultiAssetRelease.paidIn_releasePayments hlisted.dueOnce,
    hreleased, sub_zero, hissuers]
  by_cases ht : t ∈ campaign.issuers
  · rw [if_pos ht]
    exact MultiAssetRelease.assetDue_eq_share (hbook.getAssetRaised_nonneg t) htarget.le htotal
      (hrange t (List.mem_toFinset.mpr ht))
  · rw [if_neg ht, hbook.getAssetRaised_of_unlisted hfound ht, share_zero_amount]

/-- The next milestone is released over several assets when its target can be shared out of what
is recorded and the contract holds what is recorded. -/
theorem PaidUpTo.exists_multiReleased {env : Env} (h : PaidUpTo k w campaign v)
    (hm : v[k]? = some m) (hgoal : campaign.goalAmount ≤ campaign.raisedAmount)
    (hbook : Mirrors w.storage book) (hauth : env.Authorised campaign.creator)
    (hrecipient : recipient ≠ env.host.contract) (htotal : 0 < w.storage.getTotalRaised)
    (hcover : ∀ t, paidIn t (MultiAssetRelease.milestonePayments w.storage campaign m) ≤
      w.storage.getAssetRaised t)
    (hheld : ∀ t, w.storage.getAssetRaised t ≤ w.ledger.balance t env.host.contract) :
    ∃ next, MultiAssetRelease.Released env k recipient w next campaign m := by
  obtain ⟨hunlocked, -, hpos⟩ := h.waiting k m le_rfl hm
  have hraised := h.established.raised_range
  have hamount := h.established.raisedAmount_eq
  have hpayments : ∀ x ∈ MultiAssetRelease.milestonePayments w.storage campaign m, 0 ≤ x.2 :=
    fun x hx ↦ zero_le_one.trans (MultiAssetRelease.releasePayments_pos x hx)
  have hpaid : MultiAssetRelease.milestonePaid w.storage campaign m ≤
      w.storage.getTotalRaised := by
    rw [MultiAssetRelease.milestonePaid, ← sum_paidIn, hbook.totalHeld, PledgeBook.totalHeld]
    refine Finset.sum_le_sum fun t _ ↦ ?_
    rw [← hbook.held]
    exact hcover t
  have hpaid_nonneg : 0 ≤ MultiAssetRelease.milestonePaid w.storage campaign m := by
    refine List.sum_nonneg fun y hy ↦ ?_
    obtain ⟨x, hx, rfl⟩ := List.mem_map.mp hy
    exact hpayments x hx
  have htotal_range : InI128 w.storage.getTotalRaised :=
    inI128_zero.of_between hraised htotal.le (hamount ▸ hbook.getTotalRaised_le)
  obtain ⟨ledger, hledger⟩ := Ledger.transferAll_isSome hrecipient.symm hpayments
    fun t ↦ (hcover t).trans (hheld t)
  have hreleasable : MultiAssetRelease.Releasable env k recipient w campaign m :=
    { lock_free := h.established.lock_free
      found := h.established.found
      authorised := hauth
      recipient_ne := hrecipient
      milestone_found := (h.established.getMilestone k).trans hm
      unlocked := hunlocked
      total_ne := htotal.ne'
      pending_range := by
        rw [h.pending_eq hm]
        exact h.target_range hm hgoal
      pending_ne := by
        rw [h.pending_eq hm]
        exact hpos.ne'
      target_range := h.target_range hm hgoal
      deductible := by
        refine MultiAssetRelease.deductible_of_covered hpayments hcover (fun t ↦ ?_) le_rfl ?_
        · exact inI128_zero.of_between hraised (hbook.getAssetRaised_nonneg t)
            (hamount ▸ hbook.getAssetRaised_le t)
        · rw [zero_add]
          exact inI128_zero.of_between htotal_range hpaid_nonneg hpaid
      total_range := inI128_zero.of_between htotal_range (sub_nonneg.mpr hpaid)
        (sub_le_self _ hpaid_nonneg)
      total_nonneg := sub_nonneg.mpr hpaid
      count_range := h.count_range hm }
  exact hreleasable.exists_released h.established.reportable hledger

/-- What the releases over several assets rely on, besides the progress of the campaign. -/
structure SharedSide (contract : Address) (campaign : CampaignData) (rest : List ℤ) (w : World) :
    Prop where
  mirrors : ∃ book, Mirrors w.storage book
  held : ∀ t, w.storage.getAssetRaised t ≤ w.ledger.balance t contract
  products : ProductsIn InI128 campaign.issuers.toFinset rest w.storage.getAssetRaised

/-- Releasing the next milestone over several assets releases what the schedule says. -/
theorem PaidUpTo.multiReleased_of_exec (h : PaidUpTo k w campaign v) (hm : v[k]? = some m)
    (hcall : inv.call = .releaseMilestoneMultiAsset k recipient)
    (hexec : (chain (standardHost contract overflowChecks)).exec (.invoke inv) w = .ok next) :
    MultiAssetRelease.Released (inv.env (standardHost contract overflowChecks)) k recipient w next
      campaign m := by
  obtain ⟨found, milestone, hmulti⟩ :=
    (step_of_exec h.established.untouched hexec).of_releaseMilestoneMultiAsset hcall
  obtain rfl := h.established.campaign_eq hmulti.found
  obtain rfl : milestone = m :=
    Option.some.inj ((h.established.milestone_found hmulti.milestone_found).symm.trans hm)
  exact hmulti

namespace SharedSide

variable {rest : List ℤ} {env : Env}

/-- With something raised, the next release pays every token's share. -/
theorem paidIn_eq (hside : SharedSide contract campaign (m.targetAmount :: rest) w)
    (h : PaidUpTo k w campaign v) (hm : v[k]? = some m) (hnodup : campaign.issuers.Nodup)
    (htotal : 0 < w.storage.getTotalRaised) (t : Address) :
    paidIn t (MultiAssetRelease.milestonePayments w.storage campaign m) =
      share (w.storage.getAssetRaised t) m.targetAmount w.storage.getTotalRaised := by
  obtain ⟨⟨book, hbook⟩, -, hrange, -⟩ := hside
  obtain ⟨-, hreleased, hpos⟩ := h.waiting k m le_rfl hm
  exact paidIn_milestonePayments hbook h.established.found hnodup hreleased hpos htotal hrange t

theorem total_pos (hside : SharedSide contract campaign (m.targetAmount :: rest) w)
    (hmulti : MultiAssetRelease.Released env k recipient w next campaign m) :
    0 < w.storage.getTotalRaised := by
  obtain ⟨book, hbook⟩ := hside.mirrors
  exact lt_of_le_of_ne hbook.getTotalRaised_nonneg hmulti.total_ne.symm

/-- What is recorded after the next release is what is left after sharing its target. -/
theorem getAssetRaised_eq (hside : SharedSide contract campaign (m.targetAmount :: rest) w)
    (h : PaidUpTo k w campaign v) (hm : v[k]? = some m) (hnodup : campaign.issuers.Nodup)
    (hmulti : MultiAssetRelease.Released env k recipient w next campaign m) :
    next.storage.getAssetRaised =
      afterPayment campaign.issuers.toFinset w.storage.getAssetRaised m.targetAmount := by
  obtain ⟨book, hbook⟩ := hside.mirrors
  obtain ⟨report, -, hstorage⟩ := hmulti.storage
  funext t
  rw [afterPayment, hbook.sum_issuers hmulti.found,
    ← hside.paidIn_eq h hm hnodup (hside.total_pos hmulti), Storage.getAssetRaised, hstorage]
  exact MultiAssetRelease.deductAll_getD _ _ t

/-- The next release leaves what the one after it relies on. -/
theorem of_multiReleased (hside : SharedSide env.host.contract campaign (m.targetAmount :: rest) w)
    (h : PaidUpTo k w campaign v) (hm : v[k]? = some m) (hnodup : campaign.issuers.Nodup)
    (hmulti : MultiAssetRelease.Released env k recipient w next campaign m)
    (hmirrors : ∃ book, Mirrors next.storage book) :
    SharedSide env.host.contract campaign rest next := by
  have hrecorded := hside.getAssetRaised_eq h hm hnodup hmulti
  obtain ⟨book, hbook⟩ := hside.mirrors
  refine ⟨hmirrors, fun t ↦ ?_, by rw [hrecorded]; exact hside.products.2⟩
  have hheld := hside.held t
  rw [hrecorded, afterPayment, hbook.sum_issuers h.established.found,
    Ledger.balance_source_transferAll hmulti.recipient_ne.symm hmulti.ledger,
    hside.paidIn_eq h hm hnodup (hside.total_pos hmulti)]
  linarith

/-- What is recorded can be shared out to the next target and then the rest exactly when the next
milestone can be released over several assets and what is left can be shared out to the rest. -/
theorem payable_iff (hside : SharedSide env.host.contract campaign (m.targetAmount :: rest) w)
    (h : PaidUpTo k w campaign v) (hm : v[k]? = some m)
    (hgoal : campaign.goalAmount ≤ campaign.raisedAmount) (hnodup : campaign.issuers.Nodup)
    (hauth : env.Authorised campaign.creator) (hrecipient : recipient ≠ env.host.contract) :
    Payable campaign.issuers.toFinset (m.targetAmount :: rest) w.storage.getAssetRaised ↔
      ∃ next, MultiAssetRelease.Released env k recipient w next campaign m ∧
        Payable campaign.issuers.toFinset rest next.storage.getAssetRaised := by
  obtain ⟨book, hbook⟩ := hside.mirrors
  have hwhole := hbook.sum_issuers h.established.found
  constructor
  · rintro ⟨htotal, hshares, hrest⟩
    rw [hwhole] at htotal
    have hcover : ∀ t, paidIn t (MultiAssetRelease.milestonePayments w.storage campaign m) ≤
        w.storage.getAssetRaised t := by
      intro t
      rw [hside.paidIn_eq h hm hnodup htotal]
      by_cases ht : t ∈ campaign.issuers
      · have hshare := hshares t (List.mem_toFinset.mpr ht)
        rw [hwhole] at hshare
        exact (share_le_self_iff htotal).mpr hshare
      · rw [hbook.getAssetRaised_of_unlisted h.established.found ht, share_zero_amount]
    obtain ⟨next, hmulti⟩ := h.exists_multiReleased hm hgoal hbook hauth hrecipient htotal hcover
      hside.held
    refine ⟨next, hmulti, ?_⟩
    rw [hside.getAssetRaised_eq h hm hnodup hmulti]
    exact hrest
  · rintro ⟨next, hmulti, hrest⟩
    have htotal := hside.total_pos hmulti
    rw [hside.getAssetRaised_eq h hm hnodup hmulti] at hrest
    refine ⟨by rw [hwhole]; exact htotal, fun t _ ↦ ?_, hrest⟩
    have hcover := hmulti.deductible.paidIn_le hbook.getAssetRaised_nonneg t
    rw [hside.paidIn_eq h hm hnodup htotal] at hcover
    rw [hwhole]
    exact (share_le_self_iff htotal).mp hcover

end SharedSide

/-- The next milestone can be released over several assets exactly when its target can be shared
out. -/
theorem PaidUpTo.multi_step (h : PaidUpTo k w campaign v) (hm : v[k]? = some m)
    (hgoal : campaign.goalAmount ≤ campaign.raisedAmount) (hnodup : campaign.issuers.Nodup)
    {rest : List ℤ} (hside : SharedSide contract campaign (m.targetAmount :: rest) w)
    (htyped : inv.WellTyped)
    (hauth : (inv.env (standardHost contract overflowChecks)).Authorised campaign.creator)
    (hrecipient : recipient ≠ contract)
    (hcall : inv.call = .releaseMilestoneMultiAsset k recipient) :
    Payable campaign.issuers.toFinset (m.targetAmount :: rest) w.storage.getAssetRaised ↔
      ∃ next, (chain (standardHost contract overflowChecks)).exec (.invoke inv) w = .ok next ∧
        Payable campaign.issuers.toFinset rest next.storage.getAssetRaised := by
  refine (hside.payable_iff h hm hgoal hnodup hauth hrecipient).trans ?_
  refine exists_congr fun next ↦ and_congr_left fun _ ↦ ?_
  constructor
  · intro hmulti
    refine exec_invoke_eq_ok_iff.mpr ⟨htyped, ?_⟩
    rw [hcall]
    exact (CampaignContract.releaseMilestoneMultiAsset_eq_ok_iff rfl).mpr ⟨campaign, m, hmulti⟩
  · exact h.multiReleased_of_exec hm hcall

/-- The release leaves what the next one relies on. -/
theorem SharedSide.of_exec {rest : List ℤ}
    (hside : SharedSide contract campaign (m.targetAmount :: rest) w)
    (h : PaidUpTo k w campaign v) (hm : v[k]? = some m) (hnodup : campaign.issuers.Nodup)
    (hcall : inv.call = .releaseMilestoneMultiAsset k recipient)
    (hexec : (chain (standardHost contract overflowChecks)).exec (.invoke inv) w = .ok next) :
    SharedSide contract campaign rest next := by
  obtain ⟨book, hbook⟩ := hside.mirrors
  obtain ⟨book', hbook', -⟩ := (step_of_exec h.established.untouched hexec).mirrors hbook
  exact hside.of_multiReleased h hm hnodup (h.multiReleased_of_exec hm hcall hexec)
    ⟨book', hbook'⟩

end Shared

/-! ### Releases in a single asset -/

section Single

variable {contract : Address} {overflowChecks : Bool} {inv : Invocation} {k : ℕ} {w next : World}
  {campaign : CampaignData} {v : List MilestoneData} {m : MilestoneData} {recipient : Address}
  {primary : StellarAsset} {issuer : Address}

/-- The next milestone passes the checks of a release in the primary asset. -/
theorem PaidUpTo.releasable (h : PaidUpTo k w campaign v) (hm : v[k]? = some m)
    (hgoal : campaign.goalAmount ≤ campaign.raisedAmount)
    (hprimary : campaign.acceptedAssets.head? = some primary) {env : Env}
    (hauth : env.Authorised campaign.creator) :
    ReleaseMilestone.Releasable env k w campaign m primary where
  lock_free := h.established.lock_free
  found := h.established.found
  authorised := hauth
  not_frozen := h.not_frozen
  milestone_found := (h.established.getMilestone k).trans hm
  unlocked := (h.waiting k m le_rfl hm).1
  predecessor := h.predecessor
  pending_range := by
    rw [h.pending_eq hm]
    exact h.target_range hm hgoal
  primary_found := hprimary
  count_range := h.count_range hm

/-- Releasing the next milestone in the primary asset releases what the schedule says. -/
theorem PaidUpTo.released_of_exec (h : PaidUpTo k w campaign v) (hm : v[k]? = some m)
    (hprimary : campaign.acceptedAssets.head? = some primary)
    (hcall : inv.call = .releaseMilestone k recipient)
    (hexec : (chain (standardHost contract overflowChecks)).exec (.invoke inv) w = .ok next) :
    ReleaseMilestone.Released (inv.env (standardHost contract overflowChecks)) k recipient w next
      campaign m primary := by
  obtain ⟨found, milestone, asset, hsingle⟩ :=
    (step_of_exec h.established.untouched hexec).of_releaseMilestone hcall
  obtain rfl := h.established.campaign_eq hsingle.found
  obtain rfl : milestone = m :=
    Option.some.inj ((h.established.milestone_found hsingle.milestone_found).symm.trans hm)
  obtain rfl : asset = primary := Option.some.inj (hsingle.primary_found.symm.trans hprimary)
  exact hsingle

/-- What the release leaves the contract: its balance less the target, or nothing as before. -/
theorem PaidUpTo.balance_of_released (h : PaidUpTo k w campaign v) (hm : v[k]? = some m)
    (hissuer : primary.issuer = some issuer) {env : Env}
    (hrecipient : recipient ≠ env.host.contract)
    (hsingle : ReleaseMilestone.Released env k recipient w next campaign m primary) :
    next.ledger.balance issuer env.host.contract = w.ledger.balance issuer env.host.contract -
      if 0 < w.ledger.balance issuer env.host.contract then m.targetAmount else 0 := by
  have hpos := (h.waiting k m le_rfl hm).2.2
  rw [Ledger.balance_source_transferAll hrecipient.symm hsingle.ledger,
    ReleaseMilestone.primaryPayment_of_issuer hissuer, h.pending_eq hm]
  simp only [hpos, and_true]
  split_ifs <;> simp

/-- What the contract holds covers the next target and then the rest exactly when the next milestone
can be released in the primary asset and what is left covers the rest. -/
theorem PaidUpTo.coverable_iff (h : PaidUpTo k w campaign v) (hm : v[k]? = some m)
    (hgoal : campaign.goalAmount ≤ campaign.raisedAmount)
    (hprimary : campaign.acceptedAssets.head? = some primary)
    (hissuer : primary.issuer = some issuer) {env : Env} (hauth : env.Authorised campaign.creator)
    (hrecipient : recipient ≠ env.host.contract) {rest : List ℤ} :
    Coverable (m.targetAmount :: rest) (w.ledger.balance issuer env.host.contract) ↔
      ∃ next, ReleaseMilestone.Released env k recipient w next campaign m primary ∧
        Coverable rest (next.ledger.balance issuer env.host.contract) := by
  have hpos := (h.waiting k m le_rfl hm).2.2
  have hnonneg := w.ledger.balance_nonneg issuer env.host.contract
  constructor
  · intro hcoverable
    have hcovered : 0 < w.ledger.balance issuer env.host.contract ∧
        0 < m.targetAmount - m.releasedAmount →
          m.targetAmount - m.releasedAmount ≤ w.ledger.balance issuer env.host.contract := by
      rw [h.pending_eq hm]
      rintro ⟨hheld, -⟩
      rcases hcoverable with hzero | ⟨hle, -⟩
      · omega
      · exact hle
    obtain ⟨ledger, hledger⟩ :=
      (ReleaseMilestone.transferAll_primaryPayment_iff hissuer recipient).mpr hcovered
    obtain ⟨next, hsingle⟩ :=
      (h.releasable hm hgoal hprimary hauth).exists_released h.established.reportable hledger
    refine ⟨next, hsingle, ?_⟩
    rw [h.balance_of_released hm hissuer hrecipient hsingle]
    rcases hcoverable with hzero | ⟨hle, hrest⟩
    · rw [hzero, if_neg (lt_irrefl 0), sub_zero]
      exact coverable_zero rest
    · rw [if_pos (hpos.trans_le hle)]
      exact hrest
  · rintro ⟨next, hsingle, hrest⟩
    have hcovered := (ReleaseMilestone.transferAll_primaryPayment_iff hissuer recipient).mp
      ⟨_, hsingle.ledger⟩
    rw [h.pending_eq hm] at hcovered
    by_cases hheld : 0 < w.ledger.balance issuer env.host.contract
    · rw [h.balance_of_released hm hissuer hrecipient hsingle, if_pos hheld] at hrest
      exact .inr ⟨hcovered ⟨hheld, hpos⟩, hrest⟩
    · exact .inl (by omega)

/-- The next milestone can be released in the primary asset exactly when the contract holds none
of it or holds the whole target. -/
theorem PaidUpTo.single_step (h : PaidUpTo k w campaign v) (hm : v[k]? = some m)
    (hgoal : campaign.goalAmount ≤ campaign.raisedAmount)
    (hprimary : campaign.acceptedAssets.head? = some primary)
    (hissuer : primary.issuer = some issuer) {rest : List ℤ} (htyped : inv.WellTyped)
    (hauth : (inv.env (standardHost contract overflowChecks)).Authorised campaign.creator)
    (hrecipient : recipient ≠ contract) (hcall : inv.call = .releaseMilestone k recipient) :
    Coverable (m.targetAmount :: rest) (w.ledger.balance issuer contract) ↔
      ∃ next, (chain (standardHost contract overflowChecks)).exec (.invoke inv) w = .ok next ∧
        Coverable rest (next.ledger.balance issuer contract) := by
  refine (h.coverable_iff hm hgoal hprimary hissuer hauth hrecipient).trans ?_
  refine exists_congr fun next ↦ and_congr_left fun _ ↦ ?_
  constructor
  · intro hsingle
    refine exec_invoke_eq_ok_iff.mpr ⟨htyped, ?_⟩
    rw [hcall]
    exact (CampaignContract.releaseMilestone_eq_ok_iff rfl).mpr ⟨campaign, m, primary, hsingle⟩
  · exact h.released_of_exec hm hprimary hcall

end Single

/-! ### Paying the whole schedule out -/

/-- The creator releases the milestones one by one through an entrypoint, each to a recipient
other than the contract. -/
def CreatorReleases (host : Host) (creator : Address) (entrypoint : ℕ → Address → Call)
    (make : ℕ → Invocation) (count : ℕ) : Prop :=
  ∀ i < count, (make i).WellTyped ∧ ((make i).env host).Authorised creator ∧
    ∃ recipient, recipient ≠ host.contract ∧ (make i).call = entrypoint i recipient

/-- The targets of the schedule in order. -/
def Storage.targets (s : Storage) : List ℤ := s.getMilestonesVec.map MilestoneData.targetAmount

section Payout

variable {contract : Address} {overflowChecks : Bool} {w : World} {campaign : CampaignData}
  {v : List MilestoneData} {make : ℕ → Invocation} (h : Funded contract w campaign v)
  (hgoal : campaign.goalAmount ≤ campaign.raisedAmount)
include h

theorem Funded.targets_eq : w.storage.targets = v.map MilestoneData.targetAmount := by
  rw [Storage.targets, Storage.getMilestonesVec_of_vec h.established.vec]

include hgoal

/-- The schedule of a funded campaign can be released over several assets exactly when its targets
can be shared out one after the other. -/
theorem Funded.shared_payout_iff {book : PledgeBook Address Address}
    (hbook : Mirrors w.storage book)
    (hmake : CreatorReleases (standardHost contract overflowChecks) campaign.creator
      .releaseMilestoneMultiAsset make campaign.milestoneCount)
    (hproducts : ProductsIn InI128 campaign.issuers.toFinset w.storage.targets
      w.storage.getAssetRaised) :
    PaysOut (standardHost contract overflowChecks) make campaign.milestoneCount w ↔
      Payable campaign.issuers.toFinset w.storage.targets w.storage.getAssetRaised := by
  rw [h.targets_eq] at hproducts ⊢
  have hstepwise : PaysStepwise contract overflowChecks campaign make (SharedSide contract campaign)
      fun rest w ↦ Payable campaign.issuers.toFinset rest w.storage.getAssetRaised := by
    constructor
    · exact fun _ ↦ trivial
    · intro k w v m hw hm
      obtain ⟨-, -, recipient, -, hcall⟩ := hmake k (hw.lt_count hm)
      rw [hcall]
      rfl
    · intro k w v m rest hw hm hside
      obtain ⟨htyped, hauth, recipient, hrecipient, hcall⟩ := hmake k (hw.lt_count hm)
      exact hw.multi_step hm hgoal h.issuers_nodup hside htyped hauth hrecipient hcall
    · intro k w v m rest next hw hm hside hexec
      obtain ⟨-, -, recipient, -, hcall⟩ := hmake k (hw.lt_count hm)
      exact hside.of_exec hw hm h.issuers_nodup hcall hexec
  exact hstepwise.paysOut_iff (h.paidUpTo hgoal) ⟨⟨book, hbook⟩, h.held, hproducts⟩

/-- The schedule of a funded campaign can be released in its primary asset exactly when the
balance covers its targets one after the other. -/
theorem Funded.single_payout_iff {primary : StellarAsset} {issuer : Address}
    (hmake : CreatorReleases (standardHost contract overflowChecks) campaign.creator
      .releaseMilestone make campaign.milestoneCount)
    (hprimary : campaign.acceptedAssets.head? = some primary)
    (hissuer : primary.issuer = some issuer) :
    PaysOut (standardHost contract overflowChecks) make campaign.milestoneCount w ↔
      Coverable w.storage.targets (w.ledger.balance issuer contract) := by
  rw [h.targets_eq]
  have hstepwise : PaysStepwise contract overflowChecks campaign make (fun _ _ ↦ True)
      fun rest w ↦ Coverable rest (w.ledger.balance issuer contract) := by
    constructor
    · exact fun _ ↦ trivial
    · intro k w v m hw hm
      obtain ⟨-, -, recipient, -, hcall⟩ := hmake k (hw.lt_count hm)
      rw [hcall]
      rfl
    · intro k w v m rest hw hm _
      obtain ⟨htyped, hauth, recipient, hrecipient, hcall⟩ := hmake k (hw.lt_count hm)
      exact hw.single_step hm hgoal hprimary hissuer htyped hauth hrecipient hcall
    · exact fun _ _ _ _ ↦ trivial
  exact hstepwise.paysOut_iff (h.paidUpTo hgoal) trivial

end Payout

/-- After funding up to the goal, the releases over several assets all succeed in order exactly
when the cumulative targets can be shared out one after the other, and those in the only accepted
asset exactly when the balance covers the cumulative targets one after the other. -/
theorem full_payout_iff {contract : Address} {overflowChecks : Bool}
    {ledger : Ledger Address Address} {wasmHash : BitVec 256}
    {history : List (Receipt Action World)} {w : World}
    (run : SettledRun contract overflowChecks ledger wasmHash history w)
    (hfunding : ∀ r ∈ history, FundingStep r) {campaign : CampaignData}
    (hfound : w.storage.campaignData = some campaign)
    (hgoal : campaign.goalAmount ≤ campaign.raisedAmount) (make : ℕ → Invocation) :
    (CreatorReleases (standardHost contract overflowChecks) campaign.creator
        .releaseMilestoneMultiAsset make campaign.milestoneCount →
      ProductsIn InI128 campaign.issuers.toFinset w.storage.targets w.storage.getAssetRaised →
      (PaysOut (standardHost contract overflowChecks) make campaign.milestoneCount w ↔
        Payable campaign.issuers.toFinset w.storage.targets w.storage.getAssetRaised)) ∧
    (CreatorReleases (standardHost contract overflowChecks) campaign.creator
        .releaseMilestone make campaign.milestoneCount →
      ∀ asset issuer, campaign.acceptedAssets = [asset] → asset.issuer = some issuer →
      (PaysOut (standardHost contract overflowChecks) make campaign.milestoneCount w ↔
        Coverable w.storage.targets (w.ledger.balance issuer contract))) := by
  rcases SettledRun.funded run hfunding with hempty | ⟨found, v, hfunded⟩
  · rw [hempty] at hfound
    exact absurd hfound (by simp [Storage.empty])
  obtain rfl := hfunded.established.campaign_eq hfound
  obtain ⟨steps, hrun⟩ := SettledRun.exists_campaignRun run
  obtain ⟨book, hbook, -⟩ := CampaignRun.mirrors hrun
  refine ⟨hfunded.shared_payout_iff hgoal hbook, fun hmake asset issuer hasset hissuer ↦ ?_⟩
  exact hfunded.single_payout_iff hgoal hmake (by rw [hasset]; rfl) hissuer

/-- A donor funds a campaign with two cumulative targets. -/
def Sample.twoStages (amount : ℤ) : List Action :=
  [Sample.opening [⟨"XLM", some Sample.token⟩] [Sample.milestone 500, Sample.milestone 1000] 1000,
    Sample.giving Sample.donor amount Sample.token]

/-- The creator's release of a milestone over several assets. -/
def Sample.release (i : ℕ) : Invocation :=
  ⟨20, 2, [Sample.creator], .releaseMilestoneMultiAsset i Sample.recipient⟩

theorem Sample.creatorReleases {count : ℕ} (hcount : count ≤ 5) :
    CreatorReleases (standardHost Sample.contract true) Sample.creator
      .releaseMilestoneMultiAsset Sample.release count := by
  intro i hi
  have htime : 20 ≤ u64Max ∧ 2 ≤ u32Max := by decide
  have htop : 5 ≤ u32Max := by decide
  have hauth : Sample.creator ∈ [Sample.creator] ∧ Sample.creator ≠ Sample.contract := by decide
  exact ⟨⟨htime.1, htime.2, (hi.le.trans hcount).trans htop⟩, hauth, Sample.recipient, by decide,
    rfl⟩

theorem full_payout_iff_twoStages :
    PaysOut (standardHost Sample.contract true) Sample.release 2
      (Sample.settledWorld (Sample.twoStages 1500)) := by
  have hfound := (Option.some_get (x := (Sample.settledWorld
    (Sample.twoStages 1500)).storage.campaignData) (by decide +kernel)).symm
  have hpayout := (full_payout_iff (Sample.settledRun (Sample.twoStages 1500))
    (by decide +kernel) hfound (by decide +kernel) Sample.release).1
  have hcount : ((Sample.settledWorld (Sample.twoStages 1500)).storage.campaignData.get
      (by decide +kernel)).milestoneCount = 2 := by decide +kernel
  have hcreator : ((Sample.settledWorld (Sample.twoStages 1500)).storage.campaignData.get
      (by decide +kernel)).creator = Sample.creator := by decide +kernel
  rw [hcount, hcreator] at hpayout
  exact (hpayout (Sample.creatorReleases (by decide)) (by decide +kernel)).mpr (by decide +kernel)

/-- A campaign funded exactly up to its goal cannot pay its second milestone out. -/
theorem funded_payout_fails :
    ¬ ∀ (contract : Address) (overflowChecks : Bool) (ledger : Ledger Address Address)
      (wasmHash : BitVec 256) (history : List (Receipt Action World)) (w : World),
      SettledRun contract overflowChecks ledger wasmHash history w →
      (∀ r ∈ history, FundingStep r) → ∀ campaign, w.storage.campaignData = some campaign →
      campaign.goalAmount ≤ campaign.raisedAmount → ∀ make,
      (CreatorReleases (standardHost contract overflowChecks) campaign.creator
          .releaseMilestoneMultiAsset make campaign.milestoneCount →
        ProductsIn InI128 campaign.issuers.toFinset w.storage.targets w.storage.getAssetRaised →
        PaysOut (standardHost contract overflowChecks) make campaign.milestoneCount w) ∧
      (CreatorReleases (standardHost contract overflowChecks) campaign.creator
          .releaseMilestone make campaign.milestoneCount →
        ∀ asset issuer, campaign.acceptedAssets = [asset] → asset.issuer = some issuer →
        PaysOut (standardHost contract overflowChecks) make campaign.milestoneCount w) := by
  intro h
  have hfound := (Option.some_get (x := (Sample.settledWorld
    (Sample.twoStages 1000)).storage.campaignData) (by decide +kernel)).symm
  have hpayout := (h _ _ _ _ _ _ (Sample.settledRun (Sample.twoStages 1000))
    (by decide +kernel) _ hfound (by decide +kernel) Sample.release).1
  have hcount : ((Sample.settledWorld (Sample.twoStages 1000)).storage.campaignData.get
      (by decide +kernel)).milestoneCount = 2 := by decide +kernel
  have hcreator : ((Sample.settledWorld (Sample.twoStages 1000)).storage.campaignData.get
      (by decide +kernel)).creator = Sample.creator := by decide +kernel
  rw [hcount, hcreator] at hpayout
  obtain ⟨reached, hexec, -⟩ := hpayout (Sample.creatorReleases (by decide)) (by decide +kernel)
  have hfails : ((chain (standardHost Sample.contract true)).execAll
      ((List.range 2).map fun i ↦ .invoke (Sample.release i))
      (Sample.settledWorld (Sample.twoStages 1000))).toBool = false := by decide +kernel
  rw [hexec] at hfails
  exact absurd hfails.symm Bool.false_ne_true

end OrbitChain.Campaign
