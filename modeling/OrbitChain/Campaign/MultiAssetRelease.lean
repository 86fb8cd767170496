import OrbitChain.Campaign.Reports

/-!
# Multi-asset milestone release

The `release_milestone_multi_asset` entrypoint. A milestone's pending amount is split over the
accepted list in proportion to what is recorded of each token, each share rounded down. The
milestone is marked as released first; then the list is walked entry by entry, each entry
reading, paying out of and lowering the recorded amount of its token; the recorded total is
lowered once at the end by everything paid. The predecessor of the milestone and the freeze flag
are not looked at, and the campaign's own raised amount is not touched.

With standard tokens the walk is a list of payments (`releasePayments`) that the ledger makes and
the recorded amounts allow (`Deductible`).
-/

set_option autoImplicit false
set_option relaxedAutoImplicit false

namespace OrbitChain.Campaign

open Foundations

namespace MultiAssetRelease

/-- Transfers below this amount are skipped. -/
def minTransferAmount : ℤ := 1

/-- The share of one token in a release, if it is at least one unit. A product out of range
counts as no share. -/
def computeAssetRelease (assetRaised milestoneRelease totalRaised : ℤ) : Option ℤ :=
  if totalRaised = 0 ∨ assetRaised ≤ 0 ∨ milestoneRelease ≤ 0 then none
  else do
    let numerator ← checkedI128 (assetRaised * milestoneRelease)
    let release := numerator.tdiv totalRaised
    if minTransferAmount ≤ release then some release else none

/-- Pay one entry's share and lower the recorded amount of its token. -/
def payShare (env : Env) (milestoneIndex : ℕ) (recipient token : Address) (assetCode : String)
    (contractBalance assetRaised assetRelease totalReleased : ℤ) (w : World) :
    Except Failure (World × ℤ) := do
  failIf (contractBalance < assetRelease) (.contract .insufficientContractBalance)
  let clampedRelease := min assetRelease contractBalance
  if clampedRelease < minTransferAmount then pure (w, totalReleased)
  else do
    let w ← env.host.token.transfer token env.host.contract recipient clampedRelease w
    let w := w.publish
      (.milestoneReleased milestoneIndex clampedRelease assetCode recipient env.timestamp)
    let newAssetRaised ← orFail (checkedI128 (assetRaised - clampedRelease))
      (.contract .overflow)
    failIf (newAssetRaised < 0) (.contract .overflow)
    let s ← w.storage.setAssetRaised token newAssetRaised
    let totalReleased ← orFail (checkedI128 (totalReleased + clampedRelease))
      (.contract .overflow)
    pure ({ w with storage := s }, totalReleased)

/-- Release one entry of the accepted list. -/
def releaseAsset (env : Env) (milestoneIndex : ℕ) (recipient : Address)
    (milestoneRelease totalRaised : ℤ) (asset : StellarAsset) (w : World) (totalReleased : ℤ) :
    Except Failure (World × ℤ) :=
  match asset.issuer with
  | none => pure (w.publish (.milestoneSkipped milestoneIndex asset.assetCode), totalReleased)
  | some token => do
    let (contractBalance, w) ← env.host.token.balance token env.host.contract w
    let assetRaised := w.storage.getAssetRaised token
    match computeAssetRelease assetRaised milestoneRelease totalRaised with
    | none => pure (w, totalReleased)
    | some assetRelease =>
      payShare env milestoneIndex recipient token asset.assetCode contractBalance assetRaised
        assetRelease totalReleased w

/-- Release the accepted list entry by entry, adding up what is paid. -/
def releaseAssets (env : Env) (milestoneIndex : ℕ) (recipient : Address)
    (milestoneRelease totalRaised : ℤ) :
    List StellarAsset → World → ℤ → Except Failure (World × ℤ)
  | [], w, totalReleased => pure (w, totalReleased)
  | asset :: rest, w, totalReleased => do
    let (w, totalReleased) ← releaseAsset env milestoneIndex recipient milestoneRelease
      totalRaised asset w totalReleased
    releaseAssets env milestoneIndex recipient milestoneRelease totalRaised rest w totalReleased

/-- The record of a milestone whose pending amount is released. -/
def releasedRecord (milestone : MilestoneData) (releasedAmount : ℤ) : MilestoneData :=
  { milestone with releasedAmount := releasedAmount, status := .released }

/-- Release a milestone over all accepted assets. -/
def releaseMilestoneMultiAsset (env : Env) (milestoneIndex : ℕ) (recipient : Address)
    (w : World) : Except Failure World := do
  let s ← w.storage.acquireLock
  let campaign ← orFail s.getCampaign (.contract .notInitialized)
  failIf (recipient = env.host.contract) (.contract .invalidRecipient)
  let milestone ← orFail (s.getMilestone milestoneIndex) (.contract .milestoneNotFound)
  failIf (milestone.status ≠ .unlocked) (.contract .invalidMilestoneTransition)
  let totalRaised := s.getTotalRaised
  failIf (totalRaised = 0) (.contract .nothingToRelease)
  let milestoneRelease ← orFail
    (checkedI128 (milestone.targetAmount - milestone.releasedAmount))
    (.contract .milestoneReleasedExceedsTarget)
  failIf (milestoneRelease = 0) (.contract .nothingToRelease)
  let releasedAmount ← orFail (checkedI128 (milestone.releasedAmount + milestoneRelease))
    (.contract .overflow)
  let s := s.setMilestone milestoneIndex (releasedRecord milestone releasedAmount)
  let (w, totalReleased) ← releaseAssets env milestoneIndex recipient milestoneRelease
    totalRaised campaign.acceptedAssets { w with storage := s } 0
  let newTotalRaised ← orFail (checkedI128 (totalRaised - totalReleased)) (.contract .overflow)
  failIf (newTotalRaised < 0) (.contract .overflow)
  let s ← w.storage.setTotalRaised
    (max ((checkedI128 (totalRaised - totalReleased)).getD 0) 0)
  let s ← s.incrementReleaseCount
  pure { w with storage := s.releaseLock }

end MultiAssetRelease

namespace CampaignContract

/-- The `release_milestone_multi_asset` entrypoint: the creator's authorization, the release,
the report. -/
def releaseMilestoneMultiAsset (env : Env) (milestoneIndex : ℕ) (recipient : Address)
    (w : World) : Except Failure World := do
  let campaign ← orFail w.storage.getCampaign (.contract .notInitialized)
  env.requireAuth campaign.creator
  let w ← MultiAssetRelease.releaseMilestoneMultiAsset env milestoneIndex recipient w
  let s ← refreshReportCache w.storage
  pure { w with storage := s }

end CampaignContract

namespace MultiAssetRelease

/-! ### The walk as payments -/

/-- The recorded amounts after a list of payments has been deducted. -/
def deductAll : (Address → Option ℤ) → List (Address × ℤ) → Address → Option ℤ
  | recorded, [] => recorded
  | recorded, (token, amount) :: rest =>
    deductAll (Function.update recorded token (some ((recorded token).getD 0 - amount))) rest

/-- What one entry pays out of the recorded amounts. -/
def entryPayments (milestoneRelease totalRaised : ℤ) (recorded : Address → Option ℤ)
    (asset : StellarAsset) : List (Address × ℤ) :=
  match asset.issuer with
  | none => []
  | some token =>
    match computeAssetRelease ((recorded token).getD 0) milestoneRelease totalRaised with
    | none => []
    | some amount => [(token, amount)]

/-- The payments of a release, each entry seeing the amounts the entries before it left. -/
def releasePayments (milestoneRelease totalRaised : ℤ) :
    (Address → Option ℤ) → List StellarAsset → List (Address × ℤ)
  | _, [] => []
  | recorded, asset :: rest =>
    entryPayments milestoneRelease totalRaised recorded asset ++
      releasePayments milestoneRelease totalRaised
        (deductAll recorded (entryPayments milestoneRelease totalRaised recorded asset)) rest

/-- The events of one entry. -/
def entryEvents (env : Env) (milestoneIndex : ℕ) (recipient : Address)
    (milestoneRelease totalRaised : ℤ) (recorded : Address → Option ℤ) (asset : StellarAsset) :
    List Event :=
  match asset.issuer with
  | none => [.milestoneSkipped milestoneIndex asset.assetCode]
  | some _ =>
    (entryPayments milestoneRelease totalRaised recorded asset).map fun x ↦
      .milestoneReleased milestoneIndex x.2 asset.assetCode recipient env.timestamp

/-- The events of a release. -/
def releaseEvents (env : Env) (milestoneIndex : ℕ) (recipient : Address)
    (milestoneRelease totalRaised : ℤ) :
    (Address → Option ℤ) → List StellarAsset → List Event
  | _, [] => []
  | recorded, asset :: rest =>
    entryEvents env milestoneIndex recipient milestoneRelease totalRaised recorded asset ++
      releaseEvents env milestoneIndex recipient milestoneRelease totalRaised
        (deductAll recorded (entryPayments milestoneRelease totalRaised recorded asset)) rest

/-- Each payment can be deducted from its recorded amount and added to the running total. -/
def Deductible : (Address → Option ℤ) → ℤ → List (Address × ℤ) → Prop
  | _, _, [] => True
  | recorded, total, (token, amount) :: rest =>
    InI128 ((recorded token).getD 0 - amount) ∧ 0 ≤ (recorded token).getD 0 - amount ∧
      InI128 (total + amount) ∧
      Deductible (Function.update recorded token (some ((recorded token).getD 0 - amount)))
        (total + amount) rest

theorem computeAssetRelease_eq_some {assetRaised milestoneRelease totalRaised release : ℤ}
    (h : computeAssetRelease assetRaised milestoneRelease totalRaised = some release) :
    totalRaised ≠ 0 ∧ 0 < assetRaised ∧ 0 < milestoneRelease ∧ 1 ≤ release ∧
      InI128 (assetRaised * milestoneRelease) ∧
      release = (assetRaised * milestoneRelease).tdiv totalRaised := by
  unfold computeAssetRelease at h
  split_ifs at h with hguard
  rw [not_or, not_or, not_le, not_le] at hguard
  obtain ⟨hzero, hasset, hmilestone⟩ := hguard
  simp only [Option.bind_eq_bind, Option.bind_eq_some_iff, checkedI128_eq_some_iff,
    Option.ite_none_right_eq_some, Option.some.injEq] at h
  obtain ⟨_, ⟨hrange, rfl⟩, hmin, rfl⟩ := h
  exact ⟨hzero, hasset, hmilestone, hmin, hrange, rfl⟩

theorem entryPayments_pos {milestoneRelease totalRaised : ℤ} {recorded : Address → Option ℤ}
    {asset : StellarAsset} :
    ∀ x ∈ entryPayments milestoneRelease totalRaised recorded asset, 1 ≤ x.2 := by
  unfold entryPayments
  cases asset.issuer with
  | none => simp
  | some token =>
    dsimp only
    cases hrelease : computeAssetRelease ((recorded token).getD 0) milestoneRelease
        totalRaised with
    | none => simp
    | some amount => simpa using (computeAssetRelease_eq_some hrelease).2.2.2.1

theorem releasePayments_pos {milestoneRelease totalRaised : ℤ} {recorded : Address → Option ℤ}
    {assets : List StellarAsset} :
    ∀ x ∈ releasePayments milestoneRelease totalRaised recorded assets, 1 ≤ x.2 := by
  induction assets generalizing recorded with
  | nil => simp [releasePayments]
  | cons asset rest ih =>
    intro x hx
    rcases List.mem_append.mp hx with hx | hx
    · exact entryPayments_pos x hx
    · exact ih x hx

/-- Deducting a list of payments lowers each recorded amount by what is paid in its token. -/
theorem deductAll_getD (recorded : Address → Option ℤ) (payments : List (Address × ℤ))
    (token : Address) :
    (deductAll recorded payments token).getD 0 =
      (recorded token).getD 0 - paidIn token payments := by
  induction payments generalizing recorded with
  | nil => simp [deductAll]
  | cons x rest ih =>
    rw [deductAll, ih, paidIn_cons]
    by_cases htoken : x.1 = token
    · rw [← htoken, Function.update_self, Option.getD_some, if_pos rfl]
      ring
    · rw [Function.update_of_ne (Ne.symm htoken), if_neg htoken, zero_add]

theorem deductAll_append (recorded : Address → Option ℤ) (payments rest : List (Address × ℤ)) :
    deductAll recorded (payments ++ rest) = deductAll (deductAll recorded payments) rest := by
  induction payments generalizing recorded with
  | nil => rfl
  | cons x payments ih => exact ih _

theorem deductible_append {recorded : Address → Option ℤ} {total : ℤ}
    {payments rest : List (Address × ℤ)} :
    Deductible recorded total (payments ++ rest) ↔
      Deductible recorded total payments ∧
        Deductible (deductAll recorded payments) (total + (payments.map Prod.snd).sum) rest := by
  induction payments generalizing recorded total with
  | nil => simp [Deductible, deductAll]
  | cons x payments ih =>
    simp only [List.cons_append, Deductible, ih, deductAll, List.map_cons, List.sum_cons,
      add_assoc, and_assoc]

/-- Payments that could be deducted were covered by the recorded amounts. -/
theorem Deductible.paidIn_le {recorded : Address → Option ℤ} {total : ℤ}
    {payments : List (Address × ℤ)} (h : Deductible recorded total payments)
    (hnonneg : ∀ t, 0 ≤ (recorded t).getD 0) (token : Address) :
    paidIn token payments ≤ (recorded token).getD 0 := by
  induction payments generalizing recorded total with
  | nil => exact hnonneg token
  | cons x rest ih =>
    obtain ⟨-, hcover, -, hrest⟩ := h
    have hnext : ∀ t, 0 ≤ ((Function.update recorded x.1
        (some ((recorded x.1).getD 0 - x.2))) t).getD 0 := by
      intro t
      by_cases ht : t = x.1
      · rw [ht, Function.update_self]
        exact hcover
      · rw [Function.update_of_ne ht]
        exact hnonneg t
    have hbound := ih hrest hnext
    rw [paidIn_cons]
    by_cases ht : x.1 = token
    · rw [← ht, Function.update_self, Option.getD_some] at hbound
      rw [if_pos ht, ← ht]
      linarith
    · rw [Function.update_of_ne (Ne.symm ht)] at hbound
      rw [if_neg ht, zero_add]
      exact hbound

/-! ### The walk over the accepted list -/

/-- The world after payments of a release: the balances, the recorded amounts and the events. -/
def paidWorld (w : World) (ledger : Ledger Address Address) (recorded : Address → Option ℤ)
    (events : List Event) : World :=
  { w with
    storage := { w.storage with assetRaised := recorded }
    ledger := ledger
    events := w.events ++ events }

section Walk

variable {env : Env} {milestoneIndex : ℕ} {recipient : Address}
  {milestoneRelease totalRaised total total' : ℤ} {w next : World}

/-- Paying nothing publishes events and leaves the balances and the recorded amounts. -/
theorem pure_eq_ok_iff_nothing_paid {source : Address} {events : List Event} :
    (pure (w.settle w.ledger events, total) : Except Failure (World × ℤ)) = .ok (next, total') ↔
      Deductible w.storage.assetRaised total [] ∧
      ∃ ledger, Ledger.transferAll source recipient [] w.ledger = some ledger ∧
        next = paidWorld w ledger (deductAll w.storage.assetRaised []) events ∧
        total' = total + (([] : List (Address × ℤ)).map Prod.snd).sum := by
  have hworld : paidWorld w w.ledger w.storage.assetRaised events = w.settle w.ledger events :=
    rfl
  simp only [pure_eq_ok_iff, Prod.mk.injEq, Deductible, deductAll, Ledger.transferAll_nil,
    Option.some.injEq, exists_eq_left', hworld, List.map_nil, List.sum_nil, add_zero, true_and]
  rw [eq_comm (a := next), eq_comm (a := total')]

theorem pure_eq_ok_iff_unpaid {source : Address} :
    (pure (w, total) : Except Failure (World × ℤ)) = .ok (next, total') ↔
      Deductible w.storage.assetRaised total [] ∧
      ∃ ledger, Ledger.transferAll source recipient [] w.ledger = some ledger ∧
        next = paidWorld w ledger (deductAll w.storage.assetRaised []) [] ∧
        total' = total + (([] : List (Address × ℤ)).map Prod.snd).sum := by
  conv_lhs => rw [← World.settle_nil w]
  exact pure_eq_ok_iff_nothing_paid

/-- With standard tokens, a share of at least one unit is paid when the ledger transfers it and
the recorded amount allows it. -/
theorem payShare_eq_ok_iff (htoken : env.host.token = sep41) {token : Address}
    {assetCode : String} {amount : ℤ} (hamount : 1 ≤ amount) :
    payShare env milestoneIndex recipient token assetCode
        (w.ledger.balance token env.host.contract) (w.storage.getAssetRaised token) amount total w
        = .ok (next, total') ↔
      Deductible w.storage.assetRaised total [(token, amount)] ∧
      ∃ ledger, Ledger.transferAll env.host.contract recipient [(token, amount)] w.ledger
          = some ledger ∧
        next = paidWorld w ledger (deductAll w.storage.assetRaised [(token, amount)])
          [.milestoneReleased milestoneIndex amount assetCode recipient env.timestamp] ∧
        total' = total + amount := by
  simp only [payShare, htoken, sep41, bind_eq_ok_iff, failIf_eq_ok_iff, not_lt, Deductible,
    Ledger.transferAll_singleton]
  constructor
  · rintro ⟨_, hbalance, h⟩
    rw [min_eq_left hbalance, if_neg (by unfold minTransferAmount; omega)] at h
    simp only [bind_eq_ok_iff, orFail_eq_ok_iff, pure_eq_ok_iff, checkedI128_eq_some_iff,
      failIf_eq_ok_iff, not_lt, Storage.setAssetRaised_eq_ok_iff, Prod.mk.injEq] at h
    obtain ⟨_, ⟨ledger, hledger, rfl⟩, _, ⟨hrange, rfl⟩, _, hnonneg, _, ⟨-, rfl⟩, _,
      ⟨htotal, rfl⟩, rfl, rfl⟩ := h
    exact ⟨⟨hrange, hnonneg, htotal, trivial⟩, ledger, hledger, rfl, rfl⟩
  · rintro ⟨⟨hrange, hnonneg, htotal, -⟩, ledger, hledger, rfl, rfl⟩
    have hbalance := (Ledger.transfer_bounds hledger).2
    refine ⟨(), hbalance, ?_⟩
    rw [min_eq_left hbalance, if_neg (by unfold minTransferAmount; omega)]
    simp only [bind_eq_ok_iff, orFail_eq_ok_iff, pure_eq_ok_iff, checkedI128_eq_some_iff,
      failIf_eq_ok_iff, not_lt, Storage.setAssetRaised_eq_ok_iff, Prod.mk.injEq]
    exact ⟨_, ⟨ledger, hledger, rfl⟩, _, ⟨hrange, rfl⟩, (), hnonneg, _, ⟨hnonneg, rfl⟩, _,
      ⟨htotal, rfl⟩, rfl, rfl⟩

/-- With standard tokens, an entry succeeds when its payments, at most one, are made. -/
theorem releaseAsset_eq_ok_iff (htoken : env.host.token = sep41) {asset : StellarAsset} :
    releaseAsset env milestoneIndex recipient milestoneRelease totalRaised asset w total
        = .ok (next, total') ↔
      Deductible w.storage.assetRaised total
        (entryPayments milestoneRelease totalRaised w.storage.assetRaised asset) ∧
      ∃ ledger, Ledger.transferAll env.host.contract recipient
          (entryPayments milestoneRelease totalRaised w.storage.assetRaised asset) w.ledger
          = some ledger ∧
        next = paidWorld w ledger
          (deductAll w.storage.assetRaised
            (entryPayments milestoneRelease totalRaised w.storage.assetRaised asset))
          (entryEvents env milestoneIndex recipient milestoneRelease totalRaised
            w.storage.assetRaised asset) ∧
        total' = total +
          ((entryPayments milestoneRelease totalRaised w.storage.assetRaised asset).map
            Prod.snd).sum := by
  unfold releaseAsset entryEvents entryPayments
  cases hissuer : asset.issuer with
  | none => exact pure_eq_ok_iff_nothing_paid
  | some token =>
    simp only [htoken, sep41, ok_bind]
    have hsame : w.storage.getAssetRaised token = (w.storage.assetRaised token).getD 0 := rfl
    rw [← hsame]
    cases hrelease : computeAssetRelease (w.storage.getAssetRaised token) milestoneRelease
        totalRaised with
    | none => exact pure_eq_ok_iff_unpaid
    | some amount =>
      have hamount := (computeAssetRelease_eq_some hrelease).2.2.2.1
      dsimp only
      rw [payShare_eq_ok_iff htoken hamount]
      simp

/-- With standard tokens, the walk over the accepted list succeeds when the recorded amounts
allow its payments and the ledger makes them. -/
theorem releaseAssets_eq_ok_iff (htoken : env.host.token = sep41) {assets : List StellarAsset} :
    releaseAssets env milestoneIndex recipient milestoneRelease totalRaised assets w total
        = .ok (next, total') ↔
      Deductible w.storage.assetRaised total
        (releasePayments milestoneRelease totalRaised w.storage.assetRaised assets) ∧
      ∃ ledger, Ledger.transferAll env.host.contract recipient
          (releasePayments milestoneRelease totalRaised w.storage.assetRaised assets) w.ledger
          = some ledger ∧
        next = paidWorld w ledger
          (deductAll w.storage.assetRaised
            (releasePayments milestoneRelease totalRaised w.storage.assetRaised assets))
          (releaseEvents env milestoneIndex recipient milestoneRelease totalRaised
            w.storage.assetRaised assets) ∧
        total' = total +
          ((releasePayments milestoneRelease totalRaised w.storage.assetRaised assets).map
            Prod.snd).sum := by
  induction assets generalizing w total with
  | nil => exact pure_eq_ok_iff_unpaid
  | cons asset rest ih =>
    simp only [releaseAssets, releasePayments, releaseEvents, bind_eq_ok_iff, Prod.exists,
      releaseAsset_eq_ok_iff htoken, ih, deductible_append, deductAll_append,
      Ledger.transferAll_append, List.map_append, List.sum_append]
    constructor
    · rintro ⟨_, _, ⟨hfirst, middle, hmiddle, rfl, rfl⟩, hrest, ledger, hledger, rfl, rfl⟩
      refine ⟨⟨hfirst, hrest⟩, ledger, ?_, ?_, ?_⟩
      · rw [hmiddle]
        exact hledger
      · simp [paidWorld]
      · simp [paidWorld, add_assoc]
    · rintro ⟨⟨hfirst, hrest⟩, ledger, hledger, rfl, rfl⟩
      obtain ⟨middle, hmiddle, hledger⟩ := Option.bind_eq_some_iff.mp hledger
      refine ⟨_, _, ⟨hfirst, middle, hmiddle, rfl, rfl⟩, hrest, ledger, hledger, ?_, ?_⟩
      · simp [paidWorld]
      · simp [paidWorld, add_assoc]

end Walk

/-- A release pays nothing when no entry's token is due a unit. -/
theorem releasePayments_eq_nil_iff {milestoneRelease totalRaised : ℤ}
    {recorded : Address → Option ℤ} {assets : List StellarAsset} :
    releasePayments milestoneRelease totalRaised recorded assets = [] ↔
      ∀ token ∈ assets.filterMap StellarAsset.issuer,
        computeAssetRelease ((recorded token).getD 0) milestoneRelease totalRaised = none := by
  induction assets with
  | nil => simp [releasePayments]
  | cons asset rest ih =>
    rw [releasePayments, List.append_eq_nil_iff]
    cases hissuer : asset.issuer with
    | none => simp [entryPayments, hissuer, deductAll, ih]
    | some token =>
      cases hrelease : computeAssetRelease ((recorded token).getD 0) milestoneRelease
          totalRaised with
      | none => simp [entryPayments, hissuer, hrelease, deductAll, ih]
      | some amount => simp [entryPayments, hissuer, hrelease]

/-! ### What a successful release checked and wrote -/

/-- The payments of a milestone's release from the recorded amounts of a storage. -/
def milestonePayments (s : Storage) (campaign : CampaignData) (milestone : MilestoneData) :
    List (Address × ℤ) :=
  releasePayments (milestone.targetAmount - milestone.releasedAmount) s.getTotalRaised
    s.assetRaised campaign.acceptedAssets

/-- Everything a milestone's release pays, over all tokens. -/
def milestonePaid (s : Storage) (campaign : CampaignData) (milestone : MilestoneData) : ℤ :=
  ((milestonePayments s campaign milestone).map Prod.snd).sum

/-- The checks of a multi-asset release. -/
structure Releasable (env : Env) (index : ℕ) (recipient : Address) (w : World)
    (campaign : CampaignData) (milestone : MilestoneData) : Prop where
  lock_free : w.storage.reentrancyLock = false
  found : w.storage.campaignData = some campaign
  authorised : env.Authorised campaign.creator
  recipient_ne : recipient ≠ env.host.contract
  milestone_found : w.storage.getMilestone index = some milestone
  unlocked : milestone.status = .unlocked
  total_ne : w.storage.getTotalRaised ≠ 0
  pending_range : InI128 (milestone.targetAmount - milestone.releasedAmount)
  pending_ne : milestone.targetAmount - milestone.releasedAmount ≠ 0
  target_range : InI128 milestone.targetAmount
  deductible : Deductible w.storage.assetRaised 0 (milestonePayments w.storage campaign milestone)
  total_range : InI128 (w.storage.getTotalRaised - milestonePaid w.storage campaign milestone)
  total_nonneg : 0 ≤ w.storage.getTotalRaised - milestonePaid w.storage campaign milestone
  count_range : w.storage.getReleaseCount + 1 ≤ u64Max

/-- A successful multi-asset release: the checks it passed, the payments it made and the storage
it left. -/
structure Released (env : Env) (index : ℕ) (recipient : Address) (w next : World)
    (campaign : CampaignData) (milestone : MilestoneData) : Prop
    extends Releasable env index recipient w campaign milestone where
  ledger : Ledger.transferAll env.host.contract recipient
    (milestonePayments w.storage campaign milestone) w.ledger = some next.ledger
  storage : ∃ report, buildCampaignReport next.storage campaign = .ok report ∧
    next.storage =
      { w.storage with
        milestonesVec := w.storage.vecAfterSet index
          (releasedRecord milestone milestone.targetAmount)
        milestoneData := w.storage.entriesAfterSet index
          (releasedRecord milestone milestone.targetAmount)
        totalRaised := some (w.storage.getTotalRaised - milestonePaid w.storage campaign milestone)
        assetRaised := deductAll w.storage.assetRaised
          (milestonePayments w.storage campaign milestone)
        releaseCount := some (w.storage.getReleaseCount + 1)
        cachedReport := some report
        reentrancyLock := false }
  events : next.events = w.events ++
    releaseEvents env index recipient (milestone.targetAmount - milestone.releasedAmount)
      w.storage.getTotalRaised w.storage.assetRaised campaign.acceptedAssets
  wasmHash : next.wasmHash = w.wasmHash

/-- A release that passes the checks and whose payments the ledger makes succeeds. -/
theorem Releasable.exists_released {env : Env} {index : ℕ} {recipient : Address} {w : World}
    {campaign : CampaignData} {milestone : MilestoneData}
    (h : Releasable env index recipient w campaign milestone) (hreport : campaign.Reportable)
    {ledger : Ledger Address Address}
    (hledger : Ledger.transferAll env.host.contract recipient
      (milestonePayments w.storage campaign milestone) w.ledger = some ledger) :
    ∃ next, Released env index recipient w next campaign milestone := by
  obtain ⟨report, hbuilt, -⟩ := buildCampaignReport_ok (s := { w.storage with
    releaseCount := some (w.storage.getReleaseCount + 1) }) hreport
  exact ⟨
    { storage := { w.storage with
        milestonesVec := w.storage.vecAfterSet index
          (releasedRecord milestone milestone.targetAmount)
        milestoneData := w.storage.entriesAfterSet index
          (releasedRecord milestone milestone.targetAmount)
        totalRaised := some (w.storage.getTotalRaised - milestonePaid w.storage campaign milestone)
        assetRaised := deductAll w.storage.assetRaised
          (milestonePayments w.storage campaign milestone)
        releaseCount := some (w.storage.getReleaseCount + 1)
        cachedReport := some report
        reentrancyLock := false }
      ledger := ledger
      events := _
      wasmHash := w.wasmHash },
    { toReleasable := h
      ledger := hledger
      storage := ⟨report, hbuilt, rfl⟩
      events := rfl
      wasmHash := rfl }⟩

end MultiAssetRelease

open MultiAssetRelease in
/-- With standard tokens, a multi-asset release succeeds with exactly these outcomes. -/
theorem CampaignContract.releaseMilestoneMultiAsset_eq_ok_iff {env : Env}
    (htoken : env.host.token = sep41) {index : ℕ} {recipient : Address} {w next : World} :
    CampaignContract.releaseMilestoneMultiAsset env index recipient w = .ok next ↔
      ∃ campaign milestone, Released env index recipient w next campaign milestone := by
  simp only [CampaignContract.releaseMilestoneMultiAsset,
    MultiAssetRelease.releaseMilestoneMultiAsset, bind_eq_ok_iff, Prod.exists,
    Storage.acquireLock_eq_ok_iff, orFail_eq_ok_iff, failIf_eq_ok_iff, not_not, not_lt,
    Env.requireAuth_eq_ok_iff, checkedI128_eq_some_iff, Storage.setMilestone_eq,
    releaseAssets_eq_ok_iff htoken, Storage.setTotalRaised_eq_ok_iff,
    Storage.incrementReleaseCount_eq_ok_iff, pure_eq_ok_iff, zero_add]
  constructor
  · rintro ⟨campaign, hcampaign, _, hauth, _, ⟨_, ⟨hlock, rfl⟩, _, hsame, _, hrecipient,
      milestone, hmilestone, _, hunlocked, _, htotal, _, ⟨hrange, rfl⟩, _, hpending, _,
      ⟨htarget, rfl⟩, _, paid, ⟨hdeductible, ledger, hledger, rfl, rfl⟩, _, ⟨hnew, rfl⟩, _,
      hnonneg, _, ⟨-, rfl⟩, _, ⟨hcount, rfl⟩, rfl⟩, s, hreport, hnext⟩
    obtain rfl : campaign = _ := Option.some.inj (hcampaign.symm.trans hsame)
    rw [add_sub_cancel] at htarget hreport hnext
    rw [max_getD_checkedI128 hnew hnonneg] at hreport hnext
    obtain ⟨report, hbuilt, rfl⟩ :=
      (refreshReportCache_eq_ok_iff campaign (by exact hcampaign)).mp hreport
    subst hnext
    exact ⟨campaign, milestone,
      { lock_free := hlock
        found := hcampaign
        authorised := hauth
        recipient_ne := hrecipient
        milestone_found := hmilestone
        unlocked := hunlocked
        total_ne := htotal
        pending_range := hrange
        pending_ne := hpending
        target_range := htarget
        deductible := hdeductible
        total_range := hnew
        total_nonneg := hnonneg
        count_range := hcount
        ledger := hledger
        storage := ⟨report, hbuilt, rfl⟩
        events := rfl
        wasmHash := rfl }⟩
  · rintro ⟨campaign, milestone, h⟩
    obtain ⟨report, hreport, hstorage⟩ := h.storage
    rw [hstorage] at hreport
    have hnew := h.total_range
    refine ⟨campaign, h.found, (), h.authorised, _, ⟨_, ⟨h.lock_free, rfl⟩, campaign, h.found, (),
      h.recipient_ne, milestone, h.milestone_found, (), h.unlocked, (), h.total_ne, _,
      ⟨h.pending_range, rfl⟩, (), h.pending_ne, _, ⟨?_, rfl⟩, _, _,
      ⟨h.deductible, next.ledger, h.ledger, rfl, rfl⟩, _, ⟨hnew, rfl⟩, (), h.total_nonneg, _,
      ⟨le_max_right _ _, rfl⟩, _, ⟨h.count_range, rfl⟩, rfl⟩, _,
      (refreshReportCache_eq_ok_iff campaign (by exact h.found)).mpr
        ⟨report, ?_, rfl⟩, ?_⟩
    · rw [add_sub_cancel]
      exact h.target_range
    · exact hreport
    · have hevents := h.events
      have hwasm := h.wasmHash
      obtain ⟨s, ledger, events, hash⟩ := next
      simp only at hstorage hevents hwasm
      rw [← max_getD_checkedI128 hnew h.total_nonneg,
        ← add_sub_cancel milestone.releasedAmount milestone.targetAmount] at hstorage
      subst hstorage hevents hwasm
      rfl

end OrbitChain.Campaign
