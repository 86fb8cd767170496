import OrbitChain.Campaign.ReleaseGating
import OrbitChain.Campaign.Settlement
import OrbitChain.Campaign.DonorAccounting

/-!
# The two release entrypoints on one asset

With one accepted asset the two entrypoints have the same thing to do. They do it differently:
`release_milestone` looks at the predecessor, stamps the record with the time and the recipient and
keeps no totals; `release_milestone_multi_asset` does none of this, lowers the totals by what it
pays, and refuses a milestone of which nothing is pending. For each of them the states in which it
succeeds are given exactly (`exists_released_iff`, `exists_multiReleased_iff`), and from these the
states in which the two agree.
-/

set_option autoImplicit false
set_option relaxedAutoImplicit false

namespace OrbitChain.Campaign

open Foundations

/-- Initialization, donations and releases. -/
def Call.fundsOrReleases : Call → Bool
  | .initializeCampaign _ _ _ _ _ _ | .donate _ _ _ | .releaseMilestone _ _
  | .releaseMilestoneMultiAsset _ _ => true
  | _ => false

/-- Two worlds left by the release of a milestone to a recipient, alike in what was paid and
recorded. -/
structure SameRelease (contract recipient : Address) (index : ℕ) (next next' : World) : Prop where
  paid : ∀ token, next.ledger.sent token contract recipient =
    next'.ledger.sent token contract recipient
  record : next.storage.getMilestone index = next'.storage.getMilestone index
  assetRaised : ∀ token, next.storage.getAssetRaised token = next'.storage.getAssetRaised token
  totalRaised : next.storage.getTotalRaised = next'.storage.getTotalRaised
  releaseCount : next.storage.getReleaseCount = next'.storage.getReleaseCount

/-- The two entrypoints agree on a milestone and a recipient: both succeed or neither does, and when
they do they pay and record the same. -/
def ReleasesAgree (env : Env) (index : ℕ) (recipient : Address) (w : World) : Prop :=
  ((∃ next, CampaignContract.releaseMilestone env index recipient w = .ok next) ↔
    ∃ next, CampaignContract.releaseMilestoneMultiAsset env index recipient w = .ok next) ∧
  ∀ next next', CampaignContract.releaseMilestone env index recipient w = .ok next →
    CampaignContract.releaseMilestoneMultiAsset env index recipient w = .ok next' →
    SameRelease env.host.contract recipient index next next'

/-- The checks that both entrypoints make. -/
structure ReleaseChecks (env : Env) (index : ℕ) (w : World) (campaign : CampaignData)
    (milestone : MilestoneData) : Prop where
  authorised : env.Authorised campaign.creator
  milestone_found : w.storage.getMilestone index = some milestone
  unlocked : milestone.status = .unlocked
  pending_range : InI128 (milestone.targetAmount - milestone.releasedAmount)
  count_range : w.storage.getReleaseCount + 1 ≤ u64Max

theorem ReleaseChecks.iff_eq {env : Env} {index : ℕ} {w : World} {campaign : CampaignData}
    {m m' : MilestoneData} (h : ReleaseChecks env index w campaign m) :
    ReleaseChecks env index w campaign m' ↔ m' = m := by
  constructor
  · intro h'
    exact Option.some.inj (h'.milestone_found.symm.trans h.milestone_found)
  · rintro rfl
    exact h

/-- What `release_milestone` asks for besides: the predecessor is released, and the contract holds
the pending amount or nothing at all. -/
def SingleAdmits (s : Storage) (index : ℕ) (pending balance : ℤ) : Prop :=
  ReleaseMilestone.PredecessorReleased s index ∧ (0 < pending → 0 < balance → pending ≤ balance)

/-- What `release_milestone_multi_asset` asks for besides: something is raised and pending, and the
pending amount is recorded and held, unless its product with the total is out of range. -/
def MultiAdmits (pending balance totalRaised : ℤ) : Prop :=
  totalRaised ≠ 0 ∧ pending ≠ 0 ∧
    (0 < pending → InI128 (totalRaised * pending) → pending ≤ totalRaised ∧ pending ≤ balance)

/-- Neither entrypoint pays anything. -/
def NothingToPay (pending balance totalRaised : ℤ) : Prop :=
  pending ≤ 0 ∨ balance = 0 ∧ ¬ InI128 (totalRaised * pending)

/-- The record carries the time and the recipient of the release already. -/
def AlreadyStamped (env : Env) (recipient : Address) (milestone : MilestoneData) : Prop :=
  milestone.releasedAt = some env.timestamp ∧ milestone.releasedTo = some recipient

/-- Where the checks that both make pass, either the remaining checks of both fail, or they all
pass, nothing is paid and nothing is stamped. -/
def AgreeOn (env : Env) (index : ℕ) (recipient token : Address) (w : World)
    (campaign : CampaignData) : Prop :=
  ∀ m, ReleaseChecks env index w campaign m →
    ¬ SingleAdmits w.storage index (m.targetAmount - m.releasedAmount)
        (w.ledger.balance token env.host.contract) ∧
      ¬ MultiAdmits (m.targetAmount - m.releasedAmount)
        (w.ledger.balance token env.host.contract) w.storage.getTotalRaised ∨
    SingleAdmits w.storage index (m.targetAmount - m.releasedAmount)
        (w.ledger.balance token env.host.contract) ∧
      MultiAdmits (m.targetAmount - m.releasedAmount)
        (w.ledger.balance token env.host.contract) w.storage.getTotalRaised ∧
      NothingToPay (m.targetAmount - m.releasedAmount)
        (w.ledger.balance token env.host.contract) w.storage.getTotalRaised ∧
      AlreadyStamped env recipient m

/-! ### Campaigns with one asset -/

/-- A state of a campaign with one accepted asset: everything recorded is recorded of its token. -/
structure OneAsset (w : World) (campaign : CampaignData) (v : List MilestoneData)
    (asset : StellarAsset) (token : Address) : Prop where
  established : Established w.storage campaign v
  assets : campaign.acceptedAssets = [asset]
  issuer : asset.issuer = some token
  not_frozen : w.storage.isFrozen = false
  recorded : w.storage.getAssetRaised token = w.storage.getTotalRaised
  total_nonneg : 0 ≤ w.storage.getTotalRaised
  total_range : InI128 w.storage.getTotalRaised
  target_range : ∀ m ∈ v, InI128 m.targetAmount

namespace MultiAssetRelease

/-- With everything raised in one token, its share is the whole pending amount, unless the product
is out of range. -/
theorem computeAssetRelease_self {pending totalRaised : ℤ} (htotal : 0 < totalRaised) :
    computeAssetRelease totalRaised pending totalRaised =
      if 0 < pending ∧ InI128 (totalRaised * pending) then some pending else none := by
  unfold computeAssetRelease
  by_cases hpending : 0 < pending
  · rw [if_neg (by omega)]
    by_cases hrange : InI128 (totalRaised * pending)
    · rw [checkedI128_of_inI128 hrange, if_pos ⟨hpending, hrange⟩]
      have hquotient : (totalRaised * pending).tdiv totalRaised = pending :=
        Int.mul_tdiv_cancel_left pending htotal.ne'
      simp only [Option.bind_eq_bind, Option.bind_some, hquotient, minTransferAmount]
      exact if_pos (by omega)
    · have hnone : checkedI128 (totalRaised * pending) = none := by
        cases hchecked : checkedI128 (totalRaised * pending) with
        | none => rfl
        | some value =>
          obtain ⟨hin, -⟩ := checkedI128_eq_some_iff.mp hchecked
          exact absurd hin hrange
      rw [hnone, if_neg fun h ↦ hrange h.2]
      rfl
  · rw [if_pos (by omega), if_neg fun h ↦ hpending h.1]

end MultiAssetRelease

namespace OneAsset

variable {w next next' : World} {campaign : CampaignData} {v : List MilestoneData}
  {asset : StellarAsset} {token : Address} {env : Env} {index : ℕ} {recipient : Address}
  {m : MilestoneData}

/-- What a multi-asset release pays: the pending amount, or nothing. -/
theorem milestonePayments_eq (h : OneAsset w campaign v asset token)
    (htotal : w.storage.getTotalRaised ≠ 0) :
    MultiAssetRelease.milestonePayments w.storage campaign m =
      if 0 < m.targetAmount - m.releasedAmount ∧
          InI128 (w.storage.getTotalRaised * (m.targetAmount - m.releasedAmount))
      then [(token, m.targetAmount - m.releasedAmount)] else [] := by
  have hpos : 0 < w.storage.getTotalRaised := lt_of_le_of_ne h.total_nonneg (Ne.symm htotal)
  have hrecorded : (w.storage.assetRaised token).getD 0 = w.storage.getTotalRaised := h.recorded
  rw [MultiAssetRelease.milestonePayments, h.assets, MultiAssetRelease.releasePayments,
    MultiAssetRelease.releasePayments, List.append_nil, MultiAssetRelease.entryPayments, h.issuer]
  dsimp only
  rw [hrecorded, MultiAssetRelease.computeAssetRelease_self hpos]
  split_ifs <;> rfl

/-- A multi-asset release can be paid exactly when the contract holds what it pays. -/
theorem transferAll_milestonePayments_iff (h : OneAsset w campaign v asset token)
    (htotal : w.storage.getTotalRaised ≠ 0) {contract : Address} (recipient : Address) :
    (∃ next, Ledger.transferAll contract recipient
      (MultiAssetRelease.milestonePayments w.storage campaign m) w.ledger = some next) ↔
      (0 < m.targetAmount - m.releasedAmount ∧
          InI128 (w.storage.getTotalRaised * (m.targetAmount - m.releasedAmount)) →
        m.targetAmount - m.releasedAmount ≤ w.ledger.balance token contract) := by
  rw [h.milestonePayments_eq htotal]
  exact Ledger.exists_transferAll_ite_iff fun hpays ↦ hpays.1.le

theorem released_asset_eq {primary : StellarAsset} (h : OneAsset w campaign v asset token)
    (hprimary : campaign.acceptedAssets.head? = some primary) : primary = asset := by
  rw [h.assets] at hprimary
  exact (Option.some.inj hprimary).symm

/-- When `release_milestone` succeeds. -/
theorem exists_released_iff (h : OneAsset w campaign v asset token)
    (htoken : env.host.token = sep41) :
    (∃ next, CampaignContract.releaseMilestone env index recipient w = .ok next) ↔
      ∃ m, ReleaseChecks env index w campaign m ∧
        SingleAdmits w.storage index (m.targetAmount - m.releasedAmount)
          (w.ledger.balance token env.host.contract) := by
  constructor
  · rintro ⟨next, hexec⟩
    obtain ⟨found, m, primary, hreleased⟩ :=
      (CampaignContract.releaseMilestone_eq_ok_iff htoken).mp hexec
    obtain rfl := h.established.campaign_eq hreleased.found
    obtain rfl := h.released_asset_eq hreleased.primary_found
    refine ⟨m,
      { authorised := hreleased.authorised
        milestone_found := hreleased.milestone_found
        unlocked := hreleased.unlocked
        pending_range := hreleased.pending_range
        count_range := hreleased.count_range }, hreleased.predecessor, fun hpending hbalance ↦ ?_⟩
    exact (ReleaseMilestone.transferAll_primaryPayment_iff h.issuer recipient).mp
      ⟨_, hreleased.ledger⟩ ⟨hbalance, hpending⟩
  · rintro ⟨m, hchecks, hpredecessor, hcovered⟩
    have hreleasable : ReleaseMilestone.Releasable env index w campaign m asset :=
      { lock_free := h.established.lock_free
        found := h.established.found
        authorised := hchecks.authorised
        not_frozen := h.not_frozen
        milestone_found := hchecks.milestone_found
        unlocked := hchecks.unlocked
        predecessor := hpredecessor
        pending_range := hchecks.pending_range
        primary_found := by rw [h.assets]; rfl
        count_range := hchecks.count_range }
    obtain ⟨ledger, hledger⟩ := (ReleaseMilestone.transferAll_primaryPayment_iff h.issuer
      recipient).mpr fun hpays ↦ hcovered hpays.2 hpays.1
    obtain ⟨next, hreleased⟩ := hreleasable.exists_released h.established.reportable hledger
    exact ⟨next, (CampaignContract.releaseMilestone_eq_ok_iff htoken).mpr
      ⟨campaign, m, asset, hreleased⟩⟩

/-- What is paid can be deducted from what is recorded when it is at most the total. -/
theorem deductible_of_covered (h : OneAsset w campaign v asset token)
    (htotal : w.storage.getTotalRaised ≠ 0)
    (hpending : InI128 (m.targetAmount - m.releasedAmount))
    (hcovered : 0 < m.targetAmount - m.releasedAmount →
      InI128 (w.storage.getTotalRaised * (m.targetAmount - m.releasedAmount)) →
      m.targetAmount - m.releasedAmount ≤ w.storage.getTotalRaised) :
    MultiAssetRelease.Deductible w.storage.assetRaised 0
        (MultiAssetRelease.milestonePayments w.storage campaign m) ∧
      InI128 (w.storage.getTotalRaised - MultiAssetRelease.milestonePaid w.storage campaign m) ∧
      0 ≤ w.storage.getTotalRaised - MultiAssetRelease.milestonePaid w.storage campaign m := by
  have hrecorded : (w.storage.assetRaised token).getD 0 = w.storage.getTotalRaised := h.recorded
  rw [MultiAssetRelease.milestonePaid, h.milestonePayments_eq htotal]
  split_ifs with hpays
  · have hnonneg := sub_nonneg.mpr (hcovered hpays.1 hpays.2)
    have hleft : InI128 (w.storage.getTotalRaised - (m.targetAmount - m.releasedAmount)) :=
      inI128_zero.of_between h.total_range hnonneg (by omega)
    simp only [MultiAssetRelease.Deductible, hrecorded, List.map_cons, List.map_nil,
      List.sum_singleton, zero_add, and_true]
    exact ⟨⟨hleft, hnonneg, hpending⟩, hleft, hnonneg⟩
  · simpa [MultiAssetRelease.Deductible] using ⟨h.total_range, h.total_nonneg⟩

/-- When `release_milestone_multi_asset` succeeds. -/
theorem exists_multiReleased_iff (h : OneAsset w campaign v asset token)
    (htoken : env.host.token = sep41) (hrecipient : recipient ≠ env.host.contract) :
    (∃ next, CampaignContract.releaseMilestoneMultiAsset env index recipient w = .ok next) ↔
      ∃ m, ReleaseChecks env index w campaign m ∧
        MultiAdmits (m.targetAmount - m.releasedAmount)
          (w.ledger.balance token env.host.contract) w.storage.getTotalRaised := by
  constructor
  · rintro ⟨next, hexec⟩
    obtain ⟨found, m, hreleased⟩ :=
      (CampaignContract.releaseMilestoneMultiAsset_eq_ok_iff htoken).mp hexec
    obtain rfl := h.established.campaign_eq hreleased.found
    refine ⟨m,
      { authorised := hreleased.authorised
        milestone_found := hreleased.milestone_found
        unlocked := hreleased.unlocked
        pending_range := hreleased.pending_range
        count_range := hreleased.count_range }, hreleased.total_ne, hreleased.pending_ne,
      fun hpending hrange ↦ ?_⟩
    have hpays := And.intro hpending hrange
    refine ⟨?_, (h.transferAll_milestonePayments_iff hreleased.total_ne recipient).mp
      ⟨_, hreleased.ledger⟩ hpays⟩
    have hcovered := hreleased.total_nonneg
    rw [MultiAssetRelease.milestonePaid, h.milestonePayments_eq hreleased.total_ne, if_pos hpays]
      at hcovered
    simpa using hcovered
  · rintro ⟨m, hchecks, htotal, hpending, hcovered⟩
    have hm := h.established.milestone_found hchecks.milestone_found
    have htarget := h.target_range m (List.mem_of_getElem? hm)
    obtain ⟨hdeductible, htotal_range, htotal_nonneg⟩ := h.deductible_of_covered htotal
      hchecks.pending_range fun hpos hrange ↦ (hcovered hpos hrange).1
    have hreleasable : MultiAssetRelease.Releasable env index recipient w campaign m :=
      { lock_free := h.established.lock_free
        found := h.established.found
        authorised := hchecks.authorised
        recipient_ne := hrecipient
        milestone_found := hchecks.milestone_found
        unlocked := hchecks.unlocked
        total_ne := htotal
        pending_range := hchecks.pending_range
        pending_ne := hpending
        target_range := htarget
        deductible := hdeductible
        total_range := htotal_range
        total_nonneg := htotal_nonneg
        count_range := hchecks.count_range }
    obtain ⟨ledger, hledger⟩ := (h.transferAll_milestonePayments_iff htotal
      recipient).mpr fun hpays ↦ (hcovered hpays.1 hpays.2).2
    obtain ⟨next, hreleased⟩ := hreleasable.exists_released h.established.reportable hledger
    exact ⟨next, (CampaignContract.releaseMilestoneMultiAsset_eq_ok_iff htoken).mpr
      ⟨campaign, m, hreleased⟩⟩

/-- Nothing is paid exactly when neither entrypoint finds something to pay. -/
theorem nothingToPay_iff {pending balance totalRaised : ℤ} (hbalance : 0 ≤ balance) :
    NothingToPay pending balance totalRaised ↔
      ¬ (0 < pending ∧ InI128 (totalRaised * pending)) ∧ ¬ (0 < balance ∧ 0 < pending) := by
  unfold NothingToPay
  rw [not_and_or, not_and_or]
  constructor
  · rintro (hnegative | ⟨hempty, hrange⟩)
    · exact ⟨.inl (not_lt.mpr hnegative), .inr (not_lt.mpr hnegative)⟩
    · exact ⟨.inr hrange, .inl (by omega)⟩
  · rintro ⟨hmulti, hsingle⟩
    by_cases hpending : 0 < pending
    · refine .inr ⟨?_, hmulti.resolve_left (not_not_intro hpending)⟩
      exact le_antisymm (not_lt.mp (hsingle.resolve_right (not_not_intro hpending))) hbalance
    · exact .inl (not_lt.mp hpending)

/-- The two records are the same exactly when the milestone was stamped already. -/
theorem record_eq_iff (h : OneAsset w campaign v asset token)
    (hsingle : ReleaseMilestone.Released env index recipient w next campaign m asset)
    (hmulti : MultiAssetRelease.Released env index recipient w next' campaign m) :
    next.storage.getMilestone index = next'.storage.getMilestone index ↔
      AlreadyStamped env recipient m := by
  obtain ⟨-, hm, hestablished⟩ := h.established.of_released hsingle
  obtain ⟨-, -, hestablished'⟩ := h.established.of_multiReleased hmulti
  have hindex := (List.getElem?_eq_some_iff.mp hm).1
  rw [hestablished.getMilestone, hestablished'.getMilestone, List.getElem?_set_self hindex,
    List.getElem?_set_self hindex, Option.some.injEq, AlreadyStamped]
  simp [ReleaseMilestone.releasedRecord, MultiAssetRelease.releasedRecord, eq_comm]

/-- The multi-asset release lowers the total by what it pays, the other keeps it. -/
theorem totalRaised_eq_iff (h : OneAsset w campaign v asset token)
    (hsingle : ReleaseMilestone.Released env index recipient w next campaign m asset)
    (hmulti : MultiAssetRelease.Released env index recipient w next' campaign m) :
    next.storage.getTotalRaised = next'.storage.getTotalRaised ↔
      ¬ (0 < m.targetAmount - m.releasedAmount ∧
        InI128 (w.storage.getTotalRaised * (m.targetAmount - m.releasedAmount))) := by
  obtain ⟨report, -, hstorage⟩ := hsingle.storage
  obtain ⟨report', -, hstorage'⟩ := hmulti.storage
  have hkept : next.storage.getTotalRaised = w.storage.getTotalRaised := by rw [hstorage]; rfl
  have hlowered : next'.storage.getTotalRaised = w.storage.getTotalRaised -
      MultiAssetRelease.milestonePaid w.storage campaign m := by rw [hstorage']; rfl
  rw [hkept, hlowered, MultiAssetRelease.milestonePaid, h.milestonePayments_eq hmulti.total_ne]
  split_ifs with hpays
  · refine iff_of_false ?_ (not_not_intro hpays)
    rw [List.map_singleton, List.sum_singleton]
    omega
  · exact iff_of_true (by simp) hpays

/-- When the multi-asset release pays nothing, the other pays the recipient as much exactly when it
pays nothing either. -/
theorem sent_eq_iff (h : OneAsset w campaign v asset token)
    (hsingle : ReleaseMilestone.Released env index recipient w next campaign m asset)
    (hmulti : MultiAssetRelease.Released env index recipient w next' campaign m)
    (hunpaid : MultiAssetRelease.milestonePayments w.storage campaign m = []) :
    (∀ t, next.ledger.sent t env.host.contract recipient =
      next'.ledger.sent t env.host.contract recipient) ↔
      ¬ (0 < w.ledger.balance token env.host.contract ∧ 0 < m.targetAmount - m.releasedAmount) := by
  have hsent (t : Address) :
      next'.ledger.sent t env.host.contract recipient =
        w.ledger.sent t env.host.contract recipient := by
    rw [Ledger.sent_transferAll hmulti.ledger, hunpaid, paidIn_nil, ite_self, add_zero]
  simp only [hsent, Ledger.sent_transferAll hsingle.ledger, and_self, if_true,
    ReleaseMilestone.primaryPayment_of_issuer h.issuer]
  split_ifs with hpays
  · refine iff_of_false (fun hsame ↦ ?_) (not_not_intro hpays)
    have hpaid := hsame token
    rw [paidIn_cons, if_pos rfl, paidIn_nil] at hpaid
    omega
  · exact iff_of_true (fun t ↦ by rw [paidIn_nil, add_zero]) hpays

/-- When what the two entrypoints leave is alike: nothing was paid and nothing stamped. -/
theorem sameRelease_iff (h : OneAsset w campaign v asset token)
    (hsingle : ReleaseMilestone.Released env index recipient w next campaign m asset)
    (hmulti : MultiAssetRelease.Released env index recipient w next' campaign m) :
    SameRelease env.host.contract recipient index next next' ↔
      NothingToPay (m.targetAmount - m.releasedAmount)
          (w.ledger.balance token env.host.contract) w.storage.getTotalRaised ∧
        AlreadyStamped env recipient m := by
  obtain ⟨report, -, hstorage⟩ := hsingle.storage
  obtain ⟨report', -, hstorage'⟩ := hmulti.storage
  rw [nothingToPay_iff (w.ledger.balance_nonneg _ _)]
  have hpayments := h.milestonePayments_eq (m := m) hmulti.total_ne
  constructor
  · intro hsame
    have hunpaid := (h.totalRaised_eq_iff hsingle hmulti).mp hsame.totalRaised
    rw [if_neg hunpaid] at hpayments
    exact ⟨⟨hunpaid, (h.sent_eq_iff hsingle hmulti hpayments).mp hsame.paid⟩,
      (h.record_eq_iff hsingle hmulti).mp hsame.record⟩
  · rintro ⟨⟨hunpaid, hquiet⟩, hstamped⟩
    rw [if_neg hunpaid] at hpayments
    exact
      { paid := (h.sent_eq_iff hsingle hmulti hpayments).mpr hquiet
        record := (h.record_eq_iff hsingle hmulti).mpr hstamped
        assetRaised := fun t ↦ by
          rw [Storage.getAssetRaised, Storage.getAssetRaised, hstorage, hstorage', hpayments]
          rfl
        totalRaised := (h.totalRaised_eq_iff hsingle hmulti).mpr hunpaid
        releaseCount := by rw [Storage.getReleaseCount, hstorage, hstorage']; rfl }

/-- What two successful releases of the checked milestone leave is alike when nothing was paid and
nothing stamped. -/
theorem sameRelease_of_exec (h : OneAsset w campaign v asset token)
    (htoken : env.host.token = sep41) (hchecks : ReleaseChecks env index w campaign m)
    (hsingle : CampaignContract.releaseMilestone env index recipient w = .ok next)
    (hmulti : CampaignContract.releaseMilestoneMultiAsset env index recipient w = .ok next') :
    SameRelease env.host.contract recipient index next next' ↔
      NothingToPay (m.targetAmount - m.releasedAmount)
          (w.ledger.balance token env.host.contract) w.storage.getTotalRaised ∧
        AlreadyStamped env recipient m := by
  have hfound {m' : MilestoneData} (hm' : w.storage.getMilestone index = some m') : m' = m :=
    Option.some.inj (hm'.symm.trans hchecks.milestone_found)
  obtain ⟨_, _, _, hreleased⟩ := (CampaignContract.releaseMilestone_eq_ok_iff htoken).mp hsingle
  obtain ⟨_, _, hreleased'⟩ :=
    (CampaignContract.releaseMilestoneMultiAsset_eq_ok_iff htoken).mp hmulti
  obtain rfl := h.established.campaign_eq hreleased.found
  obtain rfl := h.established.campaign_eq hreleased'.found
  obtain rfl := h.released_asset_eq hreleased.primary_found
  obtain rfl := hfound hreleased.milestone_found
  obtain rfl := hfound hreleased'.milestone_found
  exact h.sameRelease_iff hreleased hreleased'

/-- In a campaign with one asset, the states in which the two entrypoints agree. -/
theorem releasesAgree_iff (h : OneAsset w campaign v asset token)
    (htoken : env.host.token = sep41) (hrecipient : recipient ≠ env.host.contract) :
    ReleasesAgree env index recipient w ↔ AgreeOn env index recipient token w campaign := by
  by_cases hchecks : ∃ m, ReleaseChecks env index w campaign m
  · obtain ⟨m, hchecks⟩ := hchecks
    have hsingle : (∃ next, CampaignContract.releaseMilestone env index recipient w = .ok next) ↔
        SingleAdmits w.storage index (m.targetAmount - m.releasedAmount)
          (w.ledger.balance token env.host.contract) := by
      rw [h.exists_released_iff htoken]
      simp only [hchecks.iff_eq, exists_eq_left]
    have hmulti :
        (∃ next, CampaignContract.releaseMilestoneMultiAsset env index recipient w = .ok next) ↔
          MultiAdmits (m.targetAmount - m.releasedAmount)
            (w.ledger.balance token env.host.contract) w.storage.getTotalRaised := by
      rw [h.exists_multiReleased_iff htoken hrecipient]
      simp only [hchecks.iff_eq, exists_eq_left]
    rw [ReleasesAgree, hsingle, hmulti, AgreeOn]
    simp only [hchecks.iff_eq, forall_eq]
    constructor
    · rintro ⟨hboth, hsame⟩
      by_cases hadmits : SingleAdmits w.storage index (m.targetAmount - m.releasedAmount)
          (w.ledger.balance token env.host.contract)
      · obtain ⟨next, hnext⟩ := hsingle.mpr hadmits
        obtain ⟨next', hnext'⟩ := hmulti.mpr (hboth.mp hadmits)
        exact .inr ⟨hadmits, hboth.mp hadmits,
          (h.sameRelease_of_exec htoken hchecks hnext hnext').mp (hsame next next' hnext hnext')⟩
      · exact .inl ⟨hadmits, fun hadmits' ↦ hadmits (hboth.mpr hadmits')⟩
    · rintro (⟨hnone, hnone'⟩ | ⟨hadmits, hadmits', hquiet⟩)
      · exact ⟨iff_of_false hnone hnone', fun next _ hnext ↦
          absurd (hsingle.mp ⟨next, hnext⟩) hnone⟩
      · exact ⟨iff_of_true hadmits hadmits', fun next next' hnext hnext' ↦
          (h.sameRelease_of_exec htoken hchecks hnext hnext').mpr hquiet⟩
  · -- Where the shared checks fail, neither entrypoint succeeds.
    have hnone : ¬ ∃ next, CampaignContract.releaseMilestone env index recipient w = .ok next := by
      rw [h.exists_released_iff htoken]
      rintro ⟨m, hm, -⟩
      exact hchecks ⟨m, hm⟩
    have hnone' :
        ¬ ∃ next, CampaignContract.releaseMilestoneMultiAsset env index recipient w = .ok next := by
      rw [h.exists_multiReleased_iff htoken hrecipient]
      rintro ⟨m, hm, -⟩
      exact hchecks ⟨m, hm⟩
    exact iff_of_true
      ⟨iff_of_false hnone hnone', fun next _ hnext ↦ absurd ⟨next, hnext⟩ hnone⟩
      fun m hm ↦ absurd ⟨m, hm⟩ hchecks

end OneAsset

/-! ### Runs of donations and releases -/

section Runs

variable {contract : Address} {overflowChecks : Bool} {ledger : Ledger Address Address}
  {wasmHash : BitVec 256} {history : List (Receipt Action World)} {w : World}

/-- The targets of stored milestones are values of their wire type. -/
theorem CampaignRun.target_range
    (run : CampaignRun contract overflowChecks ledger wasmHash history w) {index : ℕ}
    {m : MilestoneData} (hm : w.storage.getMilestone index = some m) : InI128 m.targetAmount := by
  have hcampaign := (CampaignRun.untouched run).campaign_ne_none hm
  obtain ⟨r, hr, goalAmount, milestones, hinitializes⟩ :=
    CampaignRun.exists_initializes run hcampaign
  obtain ⟨inv, creator, endTime, acceptedAssets, minDonationAmount, hlabel, hcall⟩ :=
    Action.initialization_eq_some hinitializes
  obtain ⟨hexec, -⟩ := run.fired hr
  rw [hlabel] at hexec
  have htyped := (exec_invoke_eq_ok_iff.mp hexec).1.2.2
  rw [hcall] at htyped
  obtain ⟨initial, hinitial, htarget⟩ :=
    CampaignRun.passed_milestone run hm r hr goalAmount milestones hinitializes
  rw [← htarget]
  exact (htyped.2.2.2.2.1 initial (List.mem_of_getElem? hinitial)).2.1

/-- Only administrative calls write the freeze flag. -/
theorem Step.frozen_eq {host : Host} {action : Action} {next : World}
    (h : Step host action w next)
    (hadministrative : action.invokes Call.isAdministrative = false) :
    next.storage.frozen = w.storage.frozen := by
  cases h with
  | transferred _ _ hstorage => rw [hstorage]
  | initialized _ _ _ h =>
    obtain ⟨report, hstorage⟩ := h.storage
    rw [hstorage]
  | donated _ _ h => exact h.frozen
  | claimed _ _ h | released _ _ h | multiReleased _ _ h =>
    obtain ⟨report, -, hstorage⟩ := h.storage
    rw [hstorage]
  | administered _ hcall _ => exact absurd (hadministrative.symm.trans hcall) Bool.false_ne_true

theorem Call.isAdministrative_of_fundsOrReleases {call : Call}
    (h : call.fundsOrReleases = true) : call.isAdministrative = false := by
  cases call with
  | initializeCampaign | donate | releaseMilestone | releaseMilestoneMultiAsset => rfl
  | _ => exact absurd h Bool.false_ne_true

/-- A campaign that was funded and paid out, and nothing else, is not frozen. -/
theorem SettledRun.not_frozen
    (run : SettledRun contract overflowChecks ledger wasmHash history w)
    (hhistory : ∀ r ∈ history, r.label.invokes Call.fundsOrReleases = true) :
    w.storage.frozen = none := by
  refine SettledRun.induction (I := fun history w ↦
    (∀ r ∈ history, r.label.invokes Call.fundsOrReleases = true) → w.storage.frozen = none)
    (fun _ ↦ rfl) ?_ run hhistory
  intro history w action next _ ih hstep hhistory
  have hw := ih fun r hr ↦ hhistory r (List.mem_cons_of_mem _ hr)
  have hkind := hhistory _ List.mem_cons_self
  cases hstep with
  | donated _ _ hdonated _ hstorage => rw [hstorage, hdonated.frozen, hw]
  | other _ hstep =>
    cases action with
    | transfer => exact absurd hkind Bool.false_ne_true
    | invoke inv => rw [hstep.frozen_eq (Call.isAdministrative_of_fundsOrReleases hkind), hw]

/-- What such a run reaches with one accepted asset. -/
theorem SettledRun.oneAsset
    (run : SettledRun contract overflowChecks ledger wasmHash history w)
    (hhistory : ∀ r ∈ history, r.label.invokes Call.fundsOrReleases = true)
    {campaign : CampaignData} (hfound : w.storage.campaignData = some campaign)
    {asset : StellarAsset} {token : Address} (hassets : campaign.acceptedAssets = [asset])
    (hissuer : asset.issuer = some token) : ∃ v, OneAsset w campaign v asset token := by
  obtain ⟨steps, hrun⟩ := SettledRun.exists_campaignRun run
  obtain ⟨v, hv⟩ := (CampaignRun.sound hrun).established hfound
  obtain ⟨book, hbook, -⟩ := CampaignRun.mirrors hrun
  have hissuers : campaign.issuers = [token] := by
    rw [CampaignData.issuers, hassets]
    simp [hissuer]
  have hrecorded := hbook.sum_issuers hfound
  rw [hissuers, List.toFinset_cons, List.toFinset_nil, LawfulSingleton.insert_empty_eq,
    Finset.sum_singleton] at hrecorded
  refine ⟨v,
    { established := hv
      assets := hassets
      issuer := hissuer
      not_frozen := by rw [Storage.isFrozen, SettledRun.not_frozen run hhistory]; rfl
      recorded := hrecorded
      total_nonneg := hbook.getTotalRaised_nonneg
      total_range := ?_
      target_range := fun m hm ↦ ?_ }⟩
  · have hle := hbook.getTotalRaised_le
    rw [hv.raisedAmount_eq] at hle
    exact inI128_zero.of_between hv.raised_range hbook.getTotalRaised_nonneg hle
  · obtain ⟨index, hindex⟩ := List.mem_iff_getElem?.mp hm
    exact CampaignRun.target_range hrun ((hv.getMilestone index).trans hindex)

/-- After a run of settled donations and releases of a campaign with one accepted asset, the two
entrypoints agree on a milestone and a recipient exactly when the checks they do not share fail in
both, or pass in both where nothing is paid and nothing is stamped. -/
theorem release_agreement_iff
    (run : SettledRun contract overflowChecks ledger wasmHash history w)
    (hhistory : ∀ r ∈ history, r.label.invokes Call.fundsOrReleases = true)
    {campaign : CampaignData} (hfound : w.storage.campaignData = some campaign)
    {asset : StellarAsset} {token : Address} (hassets : campaign.acceptedAssets = [asset])
    (hissuer : asset.issuer = some token) (timestamp sequence : ℕ) (authorisers : List Address)
    (index : ℕ) {recipient : Address} (hrecipient : recipient ≠ contract) :
    ReleasesAgree ⟨standardHost contract overflowChecks, timestamp, sequence, authorisers⟩ index
        recipient w ↔
      AgreeOn ⟨standardHost contract overflowChecks, timestamp, sequence, authorisers⟩ index
        recipient token w campaign := by
  obtain ⟨v, hstate⟩ := SettledRun.oneAsset run hhistory hfound hassets hissuer
  exact hstate.releasesAgree_iff rfl hrecipient

end Runs

namespace Sample

/-- A donor gives the goal of a campaign with one milestone. -/
def fundedGoal : List Action :=
  [opening [⟨"XLM", some token⟩] [milestone 1000] 1000, giving donor 1000 token]

/-- The creator's environment after the donation. -/
def releaseEnv : Env := ⟨standardHost contract true, 20, 2, [creator]⟩

/-- One entrypoint keeps the total, the other lowers it. -/
theorem not_releasesAgree : ¬ ReleasesAgree releaseEnv 0 recipient (settledWorld fundedGoal) := by
  rintro ⟨-, hsame⟩
  have hkept : (CampaignContract.releaseMilestone releaseEnv 0 recipient
      (settledWorld fundedGoal)).toOption.map (fun next ↦ next.storage.getTotalRaised) =
        some 1000 := by decide +kernel
  have hlowered : (CampaignContract.releaseMilestoneMultiAsset releaseEnv 0 recipient
      (settledWorld fundedGoal)).toOption.map (fun next ↦ next.storage.getTotalRaised) =
        some 0 := by decide +kernel
  cases hsingle : CampaignContract.releaseMilestone releaseEnv 0 recipient
      (settledWorld fundedGoal) with
  | error failure =>
    rw [hsingle] at hkept
    exact nomatch hkept
  | ok next =>
    cases hmulti : CampaignContract.releaseMilestoneMultiAsset releaseEnv 0 recipient
        (settledWorld fundedGoal) with
    | error failure =>
      rw [hmulti] at hlowered
      exact nomatch hlowered
    | ok next' =>
      rw [hsingle] at hkept
      rw [hmulti] at hlowered
      have hkept : next.storage.getTotalRaised = 1000 := Option.some.inj hkept
      have hlowered : next'.storage.getTotalRaised = 0 := Option.some.inj hlowered
      have htotal := (hsame next next' hsingle hmulti).totalRaised
      omega

/-- The campaign accepts one token. -/
theorem exists_fundedGoal_campaign : ∃ campaign,
    (settledWorld fundedGoal).storage.campaignData = some campaign ∧
      campaign.acceptedAssets = [⟨"XLM", some token⟩] := by
  have haccepted : (settledWorld fundedGoal).storage.campaignData.map
      CampaignData.acceptedAssets = some [⟨"XLM", some token⟩] := by decide +kernel
  exact Option.map_eq_some_iff.mp haccepted

end Sample

theorem release_agreement_iff_fundedGoal : ∃ campaign,
    (Sample.settledWorld Sample.fundedGoal).storage.campaignData = some campaign ∧
      ¬ AgreeOn Sample.releaseEnv 0 Sample.recipient Sample.token
        (Sample.settledWorld Sample.fundedGoal) campaign := by
  obtain ⟨campaign, hfound, hassets⟩ := Sample.exists_fundedGoal_campaign
  refine ⟨campaign, hfound, ?_⟩
  have hiff := release_agreement_iff (Sample.settledRun Sample.fundedGoal) (by decide +kernel)
    hfound hassets rfl 20 2 [Sample.creator] 0
    (show Sample.recipient ≠ Sample.contract by decide)
  exact fun hagree ↦ Sample.not_releasesAgree (hiff.mpr hagree)

/-- The two entrypoints leave different records and totals of the same milestone. -/
theorem releases_disagree :
    ¬ ∀ (contract : Address) (overflowChecks : Bool) (ledger : Ledger Address Address)
      (wasmHash : BitVec 256) (history : List (Receipt Action World)) (w : World),
      SettledRun contract overflowChecks ledger wasmHash history w →
      (∀ r ∈ history, r.label.invokes Call.fundsOrReleases = true) →
      ∀ campaign, w.storage.campaignData = some campaign →
      ∀ asset token, campaign.acceptedAssets = [asset] → asset.issuer = some token →
      ∀ timestamp sequence authorisers index recipient, recipient ≠ contract →
        ReleasesAgree ⟨standardHost contract overflowChecks, timestamp, sequence, authorisers⟩
          index recipient w := by
  intro h
  obtain ⟨campaign, hfound, hassets⟩ := Sample.exists_fundedGoal_campaign
  exact Sample.not_releasesAgree (h _ _ _ _ _ _ (Sample.settledRun Sample.fundedGoal)
    (by decide +kernel) campaign hfound _ _ hassets rfl 20 2 [Sample.creator] 0 Sample.recipient
    (by decide))

end OrbitChain.Campaign
