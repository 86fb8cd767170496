import OrbitChain.Campaign.Reports

/-!
# Refunds

The `claim_refund` entrypoint. The refunded fraction is recomputed from the stored milestones at
every claim, with plain operators; the donor is marked as refunded before any token moves; then
the accepted list is walked entry by entry, so a token listed twice is refunded twice.

With standard tokens the walk is a list of payments out of the contract (`refundPayments`) whose
amounts are fixed before the first one (`refundAssets_eq_ok_iff`).
-/

set_option autoImplicit false
set_option relaxedAutoImplicit false

namespace OrbitChain.Campaign

open Foundations

namespace CampaignContract

/-- The running sum of the released amounts of milestones `0, ..., count - 1`. -/
def sumReleased (overflowChecks : Bool) (getMilestone : ℕ → Option MilestoneData) :
    ℕ → Except Failure ℤ
  | 0 => .ok 0
  | i + 1 => do
    let totalReleased ← sumReleased overflowChecks getMilestone i
    match getMilestone i with
    | some milestone =>
      uncheckedI128 overflowChecks .trap (totalReleased + milestone.releasedAmount)
    | none => pure totalReleased

/-- Pay a refund that is not zero, after looking at the balance. -/
def payRefund (env : Env) (donor token : Address) (refund : ℤ) (w : World) :
    Except Failure World :=
  if 0 < refund then do
    let (balance, w) ← env.host.token.balance token env.host.contract w
    failIf (balance < refund) (.contract .insufficientContractBalance)
    let w ← env.host.token.transfer token env.host.contract donor refund w
    pure (w.publish (.assetRefund donor token refund))
  else pure w

/-- Refund one entry of the accepted list. -/
def refundAsset (env : Env) (donor : Address) (numerator denominator : ℤ) (asset : StellarAsset)
    (w : World) : Except Failure World :=
  match asset.issuer with
  | none => pure w
  | some token =>
    if 0 < w.storage.getDonorAssetDonation donor token then do
      let refund ← calculateRefundAmount (w.storage.getDonorAssetDonation donor token) numerator
        denominator
      payRefund env donor token refund w
    else pure w

/-- Refund the accepted list entry by entry. -/
def refundAssets (env : Env) (donor : Address) (numerator denominator : ℤ) :
    List StellarAsset → World → Except Failure World
  | [], w => pure w
  | asset :: rest, w => do
    let w ← refundAsset env donor numerator denominator asset w
    refundAssets env donor numerator denominator rest w

/-- The `is_refund_eligible` view: the policy, with a failed check as its answer. A sum that leaves
its type still traps. -/
def isRefundEligible (env : Env) (donor : Address) (w : World) : Except Failure Bool :=
  match w.storage.getCampaign with
  | none => .ok false
  | some campaign =>
    match w.storage.getDonor donor with
    | none => .ok false
    | some record =>
      match checkRefundEligibility env w.storage campaign record with
      | .ok _ => .ok true
      | .error (.contract _) => .ok false
      | .error failure => .error failure

/-- Pay a donor back. -/
def claimRefund (env : Env) (donor : Address) (w : World) : Except Failure World := do
  let s ← w.storage.acquireLock
  env.requireAuth donor
  failIf (s.isFrozen = true) (.contract .contractFrozen)
  let campaign ← orFail s.getCampaign (.contract .notInitialized)
  let record ← orFail (s.getDonor donor) (.contract .noDonorRecord)
  checkRefundEligibility env s campaign record
  let totalReleased ← sumReleased env.host.overflowChecks s.getMilestone campaign.milestoneCount
  let numerator ← uncheckedI128 env.host.overflowChecks .trap
    (campaign.raisedAmount - totalReleased)
  let s := s.setDonor donor { record with refundClaimed := true }
  let w ← refundAssets env donor numerator campaign.raisedAmount campaign.acceptedAssets
    { w with storage := s }
  let w := w.publish (.refundClaimed donor record.totalDonated)
  let s ← refreshReportCache w.storage
  pure { w with storage := s.releaseLock }

/-- A donor is eligible when there is a campaign and a record of the donor and the policy holds. -/
theorem isRefundEligible_eq_ok_true_iff {env : Env} {donor : Address} {w : World}
    {campaign : CampaignData} {record : DonorRecord}
    (hcampaign : w.storage.campaignData = some campaign)
    (hrecord : w.storage.donorData donor = some record) :
    isRefundEligible env donor w = .ok true ↔
      RefundsOpen w.storage campaign ∧ WithinRefundWindow env campaign ∧
        record.refundClaimed = false := by
  rw [← checkRefundEligibility_eq_ok_iff (u := ())]
  simp only [isRefundEligible, Storage.getCampaign, hcampaign, Storage.getDonor, hrecord]
  cases checkRefundEligibility env w.storage campaign record with
  | ok => simp
  | error failure => cases failure <;> simp

/-! ### The refunds as payments -/

/-- What an entry of a token pays a donor who gave an amount of it. -/
def refundDue (donated numerator denominator : ℤ) : ℤ :=
  if 0 < donated then
    if (donated * numerator).tdiv denominator = 0 ∧ 0 < donated * numerator then 1
    else max ((donated * numerator).tdiv denominator) 0
  else 0

/-- The payment of an amount of a token, if it is not zero. -/
def payment (token : Address) (amount : ℤ) : List (Address × ℤ) :=
  if 0 < amount then [(token, amount)] else []

/-- The payments of a claim, at most one for each entry of the list. -/
def refundPayments (donated : Address → ℤ) (numerator denominator : ℤ)
    (tokens : List Address) : List (Address × ℤ) :=
  tokens.flatMap fun token ↦ payment token (refundDue (donated token) numerator denominator)

theorem refundDue_nonneg (donated numerator denominator : ℤ) :
    0 ≤ refundDue donated numerator denominator := by
  unfold refundDue
  split_ifs <;> omega

theorem refundDue_of_calculated {donated numerator denominator refund : ℤ}
    (h : calculateRefundAmount donated numerator denominator = .ok refund)
    (hdonated : 0 < donated) : refundDue donated numerator denominator = max refund 0 := by
  obtain ⟨-, -, rfl⟩ := calculateRefundAmount_eq_ok_iff.mp h
  unfold refundDue
  rw [if_pos hdonated]
  split_ifs <;> simp

/-- A pledge of which something is left unreleased pays its share, and at least one unit. -/
theorem refundDue_of_pos {donated numerator denominator : ℤ} (hdonated : 0 < donated)
    (hnumerator : 0 < numerator) (hdenominator : 0 < denominator) :
    refundDue donated numerator denominator = max (share donated numerator denominator) 1 := by
  have hpos := mul_pos hdonated hnumerator
  have hnonneg := share_nonneg hdonated.le hnumerator.le hdenominator
  unfold refundDue
  rw [if_pos hdonated, Int.tdiv_eq_ediv_of_nonneg hpos.le, ← share]
  by_cases hdust : share donated numerator denominator = 0
  · rw [if_pos ⟨hdust, hpos⟩, hdust]
    rfl
  · rw [if_neg fun h ↦ hdust h.1]
    omega

/-- When nothing is left unreleased, nothing is due. -/
theorem refundDue_of_nonpos {donated numerator denominator : ℤ} (hnumerator : numerator ≤ 0)
    (hdenominator : 0 < denominator) : refundDue donated numerator denominator = 0 := by
  unfold refundDue
  by_cases hdonated : 0 < donated
  · have hproduct := mul_nonpos_of_nonneg_of_nonpos hdonated.le hnumerator
    have hquotient : 0 ≤ (-(donated * numerator)).tdiv denominator :=
      Int.tdiv_nonneg (neg_nonneg.mpr hproduct) hdenominator.le
    rw [Int.neg_tdiv] at hquotient
    rw [if_pos hdonated, if_neg fun hdust ↦ hproduct.not_gt hdust.2]
    omega
  · rw [if_neg hdonated]

theorem payment_nonneg {token : Address} {amount : ℤ} : ∀ x ∈ payment token amount, 0 ≤ x.2 := by
  unfold payment
  split_ifs with h
  · simpa using h.le
  · simp

theorem payment_max (token : Address) (amount : ℤ) :
    payment token (max amount 0) = payment token amount := by
  unfold payment
  rcases le_total amount 0 with h | h
  · rw [max_eq_right h, if_neg (lt_irrefl _), if_neg (not_lt.mpr h)]
  · rw [max_eq_left h]

theorem paidIn_payment {amount : ℤ} (h : 0 ≤ amount) (token paid : Address) :
    paidIn token (payment paid amount) = if paid = token then amount else 0 := by
  unfold payment
  split_ifs with hpos hpaid hpaid
  · simp [hpaid]
  · simp [hpaid]
  · exact le_antisymm h (not_lt.mp hpos)
  · rfl

theorem refundPayments_nonneg {donated : Address → ℤ} {numerator denominator : ℤ}
    {tokens : List Address} :
    ∀ x ∈ refundPayments donated numerator denominator tokens, 0 ≤ x.2 := by
  intro x hx
  obtain ⟨token, -, hx⟩ := List.mem_flatMap.mp hx
  exact payment_nonneg x hx

/-- A claim pays a token once for every entry that lists it. -/
theorem paidIn_refundPayments (donated : Address → ℤ) (numerator denominator : ℤ)
    (tokens : List Address) (token : Address) :
    paidIn token (refundPayments donated numerator denominator tokens) =
      tokens.count token * refundDue (donated token) numerator denominator := by
  induction tokens with
  | nil => simp [refundPayments]
  | cons head rest ih =>
    have hhead := refundDue_nonneg (donated head) numerator denominator
    rw [refundPayments, List.flatMap_cons, paidIn_append, paidIn_payment hhead, ← refundPayments,
      ih]
    by_cases htoken : head = token
    · rw [htoken, if_pos rfl, List.count_cons_self, Nat.cast_succ]
      ring
    · rw [if_neg htoken, List.count_cons_of_ne htoken, zero_add]

/-! ### The walk over the accepted list -/

/-- The events of a list of refunds. -/
def refundEvents (donor : Address) (payments : List (Address × ℤ)) : List Event :=
  payments.map fun x ↦ .assetRefund donor x.1 x.2

section Walk

variable {env : Env} {donor : Address} {numerator denominator : ℤ} {w next : World}

/-- With standard tokens, a refund that is not zero succeeds when the ledger transfers it. -/
theorem payRefund_eq_ok_iff (htoken : env.host.token = sep41) {token : Address} {refund : ℤ} :
    payRefund env donor token refund w = .ok next ↔
      ∃ ledger, Ledger.transferAll env.host.contract donor (payment token refund) w.ledger
        = some ledger ∧ next = w.settle ledger (refundEvents donor (payment token refund)) := by
  unfold payRefund payment
  split_ifs with hrefund
  · simp only [htoken, sep41, ok_bind, bind_eq_ok_iff, failIf_eq_ok_iff, not_lt,
      orFail_eq_ok_iff, pure_eq_ok_iff, Ledger.transferAll_singleton]
    constructor
    · rintro ⟨_, hbalance, _, ⟨ledger, hledger, rfl⟩, rfl⟩
      exact ⟨ledger, hledger, rfl⟩
    · rintro ⟨ledger, hledger, rfl⟩
      exact ⟨(), (Ledger.transfer_bounds hledger).2, _, ⟨ledger, hledger, rfl⟩, rfl⟩
  · exact World.pure_eq_ok_iff_settle_nil

/-- With standard tokens, an entry without token contract is skipped, an entry whose token the
donor never gave is skipped, and any other entry pays what is due. -/
theorem refundAsset_eq_ok_iff (htoken : env.host.token = sep41) {asset : StellarAsset} :
    refundAsset env donor numerator denominator asset w = .ok next ↔
      (∀ token ∈ asset.issuer.toList, 0 < w.storage.getDonorAssetDonation donor token →
        0 < denominator ∧ InI128 (w.storage.getDonorAssetDonation donor token * numerator)) ∧
      ∃ ledger, Ledger.transferAll env.host.contract donor
          (refundPayments (w.storage.getDonorAssetDonation donor) numerator denominator
            asset.issuer.toList) w.ledger = some ledger ∧
        next = w.settle ledger (refundEvents donor
          (refundPayments (w.storage.getDonorAssetDonation donor) numerator denominator
            asset.issuer.toList)) := by
  unfold refundAsset
  cases hissuer : asset.issuer with
  | none => exact World.pure_eq_ok_iff_settle_nil.trans (and_iff_right (by simp)).symm
  | some token =>
    simp only [Option.toList_some, List.mem_singleton, forall_eq, refundPayments,
      List.flatMap_singleton]
    split_ifs with hdonated
    · simp only [bind_eq_ok_iff, payRefund_eq_ok_iff htoken, hdonated, true_imp_iff]
      constructor
      · rintro ⟨refund, hrefund, hpaid⟩
        obtain ⟨hden, hrange, -⟩ := calculateRefundAmount_eq_ok_iff.mp hrefund
        rw [refundDue_of_calculated hrefund hdonated, payment_max]
        exact ⟨⟨hden, hrange⟩, hpaid⟩
      · rintro ⟨⟨hden, hrange⟩, hpaid⟩
        have hrefund := calculateRefundAmount_eq_ok_iff.mpr ⟨hden, hrange, rfl⟩
        rw [refundDue_of_calculated hrefund hdonated, payment_max] at hpaid
        exact ⟨_, hrefund, hpaid⟩
    · have hnone : payment token
          (refundDue (w.storage.getDonorAssetDonation donor token) numerator denominator) = [] := by
        rw [refundDue, if_neg hdonated, payment, if_neg (lt_irrefl _)]
      rw [hnone]
      exact World.pure_eq_ok_iff_settle_nil.trans
        (and_iff_right fun hpos ↦ absurd hpos hdonated).symm

/-- With standard tokens, the walk over the accepted list succeeds when every due amount can be
computed and the ledger makes every payment. -/
theorem refundAssets_eq_ok_iff (htoken : env.host.token = sep41) {assets : List StellarAsset} :
    refundAssets env donor numerator denominator assets w = .ok next ↔
      (∀ token ∈ assets.filterMap StellarAsset.issuer,
        0 < w.storage.getDonorAssetDonation donor token →
        0 < denominator ∧ InI128 (w.storage.getDonorAssetDonation donor token * numerator)) ∧
      ∃ ledger, Ledger.transferAll env.host.contract donor
          (refundPayments (w.storage.getDonorAssetDonation donor) numerator denominator
            (assets.filterMap StellarAsset.issuer)) w.ledger = some ledger ∧
        next = w.settle ledger (refundEvents donor
          (refundPayments (w.storage.getDonorAssetDonation donor) numerator denominator
            (assets.filterMap StellarAsset.issuer))) := by
  induction assets generalizing w with
  | nil => exact World.pure_eq_ok_iff_settle_nil.trans (and_iff_right (by simp)).symm
  | cons asset rest ih =>
    have hsplit : (asset :: rest).filterMap StellarAsset.issuer =
        asset.issuer.toList ++ rest.filterMap StellarAsset.issuer := by
      cases hissuer : asset.issuer <;> simp [hissuer]
    simp only [refundAssets, bind_eq_ok_iff, refundAsset_eq_ok_iff htoken, ih, hsplit,
      refundPayments, List.flatMap_append, Ledger.transferAll_append, List.mem_append,
      refundEvents, List.map_append]
    constructor
    · rintro ⟨_, ⟨hfirst, middle, hmiddle, rfl⟩, hrest, ledger, hledger, rfl⟩
      refine ⟨fun token htoken ↦ htoken.elim (hfirst token) (hrest token), ledger, ?_, ?_⟩
      · rw [hmiddle]
        exact hledger
      · exact World.settle_settle ..
    · rintro ⟨hall, ledger, hledger, rfl⟩
      obtain ⟨middle, hmiddle, hledger⟩ := Option.bind_eq_some_iff.mp hledger
      refine ⟨_, ⟨fun token htoken ↦ hall token (.inl htoken), middle, hmiddle, rfl⟩,
        fun token htoken ↦ hall token (.inr htoken), ledger, hledger, ?_⟩
      exact (World.settle_settle ..).symm

end Walk

/-! ### The released total -/

/-- The exact sum of the released amounts of milestones `0, ..., count - 1`. -/
def releasedTotal (getMilestone : ℕ → Option MilestoneData) : ℕ → ℤ
  | 0 => 0
  | i + 1 =>
    releasedTotal getMilestone i + ((getMilestone i).map MilestoneData.releasedAmount).getD 0

/-- With the vector in place, the released total is the sum over the vector. -/
theorem releasedTotal_of_vec {s : Storage} {v : List MilestoneData}
    (hv : s.milestonesVec = some v) (hsparse : ∀ i, s.milestoneData i = none) (i : ℕ) :
    releasedTotal s.getMilestone i = ((v.take i).map MilestoneData.releasedAmount).sum := by
  induction i with
  | zero => simp [releasedTotal]
  | succ i ih =>
    rw [releasedTotal, ih, Storage.getMilestone_of_vec hv hsparse, List.take_add_one]
    cases v[i]? <;> simp

/-- The running sum is the exact sum up to a multiple of `2 ^ 128`. -/
theorem sumReleased_ok {overflowChecks : Bool} {getMilestone : ℕ → Option MilestoneData} {i : ℕ}
    {total : ℤ} (h : sumReleased overflowChecks getMilestone i = .ok total) :
    InI128 total ∧ (2 ^ 128 : ℤ) ∣ total - releasedTotal getMilestone i := by
  induction i generalizing total with
  | zero =>
    obtain rfl : 0 = total := by simpa [sumReleased] using h
    exact ⟨inI128_zero, by simp [releasedTotal]⟩
  | succ i ih =>
    simp only [sumReleased, bind_eq_ok_iff] at h
    obtain ⟨partialSum, hpartial, h⟩ := h
    obtain ⟨hrange, hdvd⟩ := ih hpartial
    rw [releasedTotal]
    cases hm : getMilestone i with
    | none =>
      rw [hm] at h
      obtain rfl : partialSum = total := pure_eq_ok_iff.mp h
      exact ⟨hrange, by simpa using hdvd⟩
    | some m =>
      rw [hm] at h
      obtain ⟨hrange', hdvd'⟩ := uncheckedI128_ok h
      refine ⟨hrange', ?_⟩
      have hsplit : total - (releasedTotal getMilestone i + m.releasedAmount) =
          (total - (partialSum + m.releasedAmount)) +
            (partialSum - releasedTotal getMilestone i) := by ring
      rw [Option.map_some, Option.getD_some, hsplit]
      exact dvd_add hdvd' hdvd

/-- Within range, the running sum is the exact sum. -/
theorem sumReleased_of_inRange {overflowChecks : Bool}
    {getMilestone : ℕ → Option MilestoneData} {i : ℕ}
    (h : ∀ j ≤ i, InI128 (releasedTotal getMilestone j)) :
    sumReleased overflowChecks getMilestone i = .ok (releasedTotal getMilestone i) := by
  induction i with
  | zero => rfl
  | succ i ih =>
    have hnext := h (i + 1) le_rfl
    rw [sumReleased, ih fun j hj ↦ h j (Nat.le_succ_of_le hj), ok_bind, releasedTotal]
    rw [releasedTotal] at hnext
    cases hm : getMilestone i with
    | none => simp [pure, Except.pure]
    | some m =>
      rw [hm] at hnext
      exact uncheckedI128_of_inI128 hnext

/-- The numerator of the refunded fraction: what was raised and not released, as a signed 128-bit
integer. -/
def refundNumerator (s : Storage) (campaign : CampaignData) : ℤ :=
  (campaign.raisedAmount - releasedTotal s.getMilestone campaign.milestoneCount).bmod (2 ^ 128)

/-! ### What a successful claim checked and wrote -/

/-- The checks of a claim, with the numerator it uses. -/
structure Claimable (env : Env) (donor : Address) (w : World) (campaign : CampaignData)
    (record : DonorRecord) (numerator : ℤ) : Prop where
  lock_free : w.storage.reentrancyLock = false
  authorised : env.Authorised donor
  not_frozen : w.storage.isFrozen = false
  found : w.storage.campaignData = some campaign
  donor_found : w.storage.donorData donor = some record
  refunds_open : RefundsOpen w.storage campaign
  in_window : WithinRefundWindow env campaign
  not_claimed : record.refundClaimed = false
  numerator_eq : ∃ total,
    sumReleased env.host.overflowChecks w.storage.getMilestone campaign.milestoneCount
      = .ok total ∧
    uncheckedI128 env.host.overflowChecks Failure.trap (campaign.raisedAmount - total)
      = .ok numerator
  calculable : ∀ token ∈ campaign.issuers, 0 < w.storage.getDonorAssetDonation donor token →
    0 < campaign.raisedAmount ∧
      InI128 (w.storage.getDonorAssetDonation donor token * numerator)

/-- A successful claim of a donor: the checks it passed, the payments it made and the storage it
left. -/
structure Claimed (env : Env) (donor : Address) (w next : World) (campaign : CampaignData)
    (record : DonorRecord) (numerator : ℤ) : Prop
    extends Claimable env donor w campaign record numerator where
  ledger : Ledger.transferAll env.host.contract donor
    (refundPayments (w.storage.getDonorAssetDonation donor) numerator campaign.raisedAmount
      campaign.issuers) w.ledger = some next.ledger
  storage : ∃ report, buildCampaignReport w.storage campaign = .ok report ∧
    next.storage =
      { w.storage with
        donorData := Function.update w.storage.donorData donor
          (some { record with refundClaimed := true })
        cachedReport := some report
        reentrancyLock := false }
  events : next.events = w.events ++
    refundEvents donor (refundPayments (w.storage.getDonorAssetDonation donor) numerator
      campaign.raisedAmount campaign.issuers) ++
    [.refundClaimed donor record.totalDonated]
  wasmHash : next.wasmHash = w.wasmHash

/-- A claim that passes the checks and whose payments the ledger makes succeeds. -/
theorem Claimable.exists_claimed {env : Env} {donor : Address} {w : World}
    {campaign : CampaignData} {record : DonorRecord} {numerator : ℤ}
    (h : Claimable env donor w campaign record numerator) (hreport : campaign.Reportable)
    {ledger : Ledger Address Address}
    (hledger : Ledger.transferAll env.host.contract donor
      (refundPayments (w.storage.getDonorAssetDonation donor) numerator campaign.raisedAmount
        campaign.issuers) w.ledger = some ledger) :
    ∃ next, Claimed env donor w next campaign record numerator := by
  obtain ⟨report, hbuilt, -⟩ := buildCampaignReport_ok (s := w.storage) hreport
  exact ⟨
    { storage := { w.storage with
        donorData := Function.update w.storage.donorData donor
          (some { record with refundClaimed := true })
        cachedReport := some report
        reentrancyLock := false }
      ledger := ledger
      events := _
      wasmHash := w.wasmHash },
    { toClaimable := h
      ledger := hledger
      storage := ⟨report, hbuilt, rfl⟩
      events := rfl
      wasmHash := rfl }⟩

/-- With standard tokens, a claim succeeds with exactly these outcomes. -/
theorem claimRefund_eq_ok_iff {env : Env} (htoken : env.host.token = sep41) {donor : Address}
    {w next : World} : claimRefund env donor w = .ok next ↔
      ∃ campaign record numerator, Claimed env donor w next campaign record numerator := by
  simp only [claimRefund, bind_eq_ok_iff, Storage.acquireLock_eq_ok_iff, orFail_eq_ok_iff,
    failIf_eq_ok_iff, Env.requireAuth_eq_ok_iff, checkRefundEligibility_eq_ok_iff,
    refundAssets_eq_ok_iff htoken, pure_eq_ok_iff]
  constructor
  · rintro ⟨_, ⟨hlock, rfl⟩, _, hauth, _, hfrozen, campaign, hcampaign, record, hrecord, _,
      ⟨hopen, hwindow, hclaimed⟩, total, htotal, numerator, hnumerator, _,
      ⟨hcalculable, ledger, hledger, rfl⟩, s, hreport, rfl⟩
    obtain ⟨report, hbuilt, rfl⟩ :=
      (refreshReportCache_eq_ok_iff campaign (by exact hcampaign)).mp hreport
    exact ⟨campaign, record, numerator,
      { lock_free := hlock
        authorised := hauth
        not_frozen := eq_false_of_ne_true hfrozen
        found := hcampaign
        donor_found := hrecord
        refunds_open := hopen
        in_window := hwindow
        not_claimed := hclaimed
        numerator_eq := ⟨total, htotal, hnumerator⟩
        calculable := hcalculable
        ledger := hledger
        storage := ⟨report, hbuilt, rfl⟩
        events := rfl
        wasmHash := rfl }⟩
  · rintro ⟨campaign, record, numerator, h⟩
    obtain ⟨total, htotal, hnumerator⟩ := h.numerator_eq
    obtain ⟨report, hreport, hstorage⟩ := h.storage
    refine ⟨_, ⟨h.lock_free, rfl⟩, (), h.authorised, (), ne_true_of_eq_false h.not_frozen,
      campaign, h.found, record, h.donor_found, (), ⟨h.refunds_open, h.in_window, h.not_claimed⟩,
      total, htotal, numerator, hnumerator, _, ⟨h.calculable, next.ledger, h.ledger, rfl⟩, _,
      (refreshReportCache_eq_ok_iff campaign (by exact h.found)).mpr
        ⟨report, hreport, rfl⟩, ?_⟩
    have hevents := h.events
    have hwasm := h.wasmHash
    obtain ⟨s, ledger, events, hash⟩ := next
    simp only at hstorage hevents hwasm
    subst hstorage hevents hwasm
    rfl

/-- A claim uses the numerator of the state it finds. -/
theorem Claimable.numerator_eq_refundNumerator {env : Env} {donor : Address} {w : World}
    {campaign : CampaignData} {record : DonorRecord} {numerator : ℤ}
    (h : Claimable env donor w campaign record numerator) :
    numerator = refundNumerator w.storage campaign := by
  obtain ⟨total, htotal, hnumerator⟩ := h.numerator_eq
  obtain ⟨-, hdvd⟩ := sumReleased_ok htotal
  obtain ⟨hrange, hdvd'⟩ := uncheckedI128_ok hnumerator
  refine hrange.eq_bmod ?_
  have hsplit : numerator - (campaign.raisedAmount -
        releasedTotal w.storage.getMilestone campaign.milestoneCount) =
      (numerator - (campaign.raisedAmount - total)) -
        (total - releasedTotal w.storage.getMilestone campaign.milestoneCount) := by ring
  rw [hsplit]
  exact Int.dvd_sub hdvd' hdvd

end CampaignContract

end OrbitChain.Campaign
