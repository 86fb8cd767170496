import OrbitChain.Campaign.Reports

/-!
# Donations

The `donate` entrypoint. A donation is booked five times over: in the campaign's raised amount,
in the total of all tokens, in the total of its token, in the donor's amount of that token and in
the donor's record. No token is moved: the entrypoint reads no balance and calls no transfer.

`donate_ok` says everything a successful donation checked and wrote, and `donate_isOk_iff` which
checks decide that it succeeds. None of them looks at the ledger time.
-/

set_option autoImplicit false
set_option relaxedAutoImplicit false

namespace OrbitChain.Campaign

open Foundations

/-- The campaign record with a new raised amount: reaching the goal ends the active phase. -/
def CampaignData.withRaised (campaign : CampaignData) (raised : ℤ) : CampaignData :=
  { campaign with
    raisedAmount := raised
    status :=
      if campaign.goalAmount ≤ raised ∧ campaign.status = .active then .goalReached
      else campaign.status }

namespace CampaignContract

/-- Count a donation and, when the donor is new, the donor. -/
def countDonation (s : Storage) (isNewDonor : Bool) : Except Failure Storage := do
  let s ← s.incrementDonationCount
  if isNewDonor then s.incrementUniqueDonorCount else pure s

/-- Record a donation. -/
def donate (env : Env) (donor : Address) (amount : ℤ) (asset : AssetInfo) (w : World) :
    Except Failure World := do
  let s ← w.storage.acquireLock
  let campaign ← orFail s.getCampaign (.contract .notInitialized)
  assertAssetIsAccepted asset campaign
  env.requireAuth donor
  failIf (s.isFrozen = true) (.contract .contractFrozen)
  failIf (campaign.status.acceptsDonations = false) (.contract .campaignNotActive)
  failIf (amount ≤ 0 ∨ 0 < campaign.minDonationAmount ∧ amount < campaign.minDonationAmount)
    (.contract .donationTooSmall)
  let raised ← orFail (checkedI128 (campaign.raisedAmount + amount)) (.contract .overflow)
  let next := campaign.withRaised raised
  let s := s.setCampaign next
  let newTotal ← orFail (checkedI128 (s.getTotalRaised + amount)) (.contract .overflow)
  let s ← s.setTotalRaised newTotal
  let assetAddress ← getTokenAddressForAsset asset next
  failIf (s.isAssetBlocked assetAddress = true) (.contract .assetBlocked)
  let s ← s.incrementAssetRaised assetAddress amount
  let s ← s.incrementDonorAssetDonation donor assetAddress amount
  let existing := s.getDonor donor
  let record ← (existing.getD (.newFor donor asset)).applyDonation amount env.timestamp
    env.sequence asset
  let s := s.setDonor donor record
  let s ← countDonation s existing.isNone
  let burst := s.unlockMilestonesBatch raised
  let s ← refreshReportCache burst.1
  pure (w.commit s.releaseLock
    ((if campaign.goalAmount ≤ raised ∧ campaign.status = .active
        then [.campaignGoalReached raised] else [])
      ++ burst.2.map (fun x ↦ .milestoneUnlocked x.1 x.2 raised)
      ++ [.donationReceived donor amount (resolveAssetCode asset next) raised env.timestamp]))

/-! ### What a successful donation checked and wrote -/

/-- A successful donation of an amount that resolved to a token: the checks it passed on the
campaign it found, and every entry of the storage it left. -/
structure Donated (env : Env) (donor : Address) (amount : ℤ) (asset : AssetInfo) (w next : World)
    (campaign : CampaignData) (token : Address) : Prop where
  lock_free : w.storage.reentrancyLock = false
  found : w.storage.campaignData = some campaign
  accepted : isAssetInList asset campaign = true
  authorised : env.Authorised donor
  not_frozen : w.storage.isFrozen = false
  accepts : campaign.status.acceptsDonations = true
  amount_pos : 0 < amount
  raised_range : InI128 (campaign.raisedAmount + amount)
  total_range : InI128 (w.storage.getTotalRaised + amount)
  resolved : getTokenAddressForAsset asset campaign = .ok token
  not_blocked : w.storage.isAssetBlocked token = false
  asset_range : InI128 (w.storage.getAssetRaised token + amount)
  pair_range : InI128 (w.storage.getDonorAssetDonation donor token + amount)
  campaignData : next.storage.campaignData =
    some (campaign.withRaised (campaign.raisedAmount + amount))
  milestoneData : next.storage.milestoneData = w.storage.milestoneData
  milestonesVec : next.storage.milestonesVec =
    w.storage.unlockedVec (campaign.raisedAmount + amount)
  donorData : ∃ record,
    ((w.storage.donorData donor).getD (.newFor donor asset)).applyDonation amount env.timestamp
      env.sequence asset = .ok record ∧
    next.storage.donorData = Function.update w.storage.donorData donor (some record)
  totalRaised : next.storage.totalRaised = some (w.storage.getTotalRaised + amount)
  assetRaised : next.storage.assetRaised = Function.update w.storage.assetRaised token
    (some (w.storage.getAssetRaised token + amount))
  donorAssetDonation : next.storage.donorAssetDonation =
    Function.update w.storage.donorAssetDonation donor
      (Function.update (w.storage.donorAssetDonation donor) token
        (some (w.storage.getDonorAssetDonation donor token + amount)))
  donationCount : next.storage.donationCount = some (w.storage.getDonationCount + 1)
  uniqueDonorCount : next.storage.uniqueDonorCount =
    if (w.storage.donorData donor).isNone then some (w.storage.getUniqueDonorCount + 1)
    else w.storage.uniqueDonorCount
  releaseCount : next.storage.releaseCount = w.storage.releaseCount
  frozen : next.storage.frozen = w.storage.frozen
  blockedAsset : next.storage.blockedAsset = w.storage.blockedAsset
  cachedReport : ∃ report, buildCampaignReport next.storage
      (campaign.withRaised (campaign.raisedAmount + amount)) = .ok report ∧
    next.storage.cachedReport = some report
  reentrancyLock : next.storage.reentrancyLock = false
  ledger : next.ledger = w.ledger
  wasmHash : next.wasmHash = w.wasmHash

/-- The checks of a donation of an amount that resolves to a token. No check looks at the ledger
time. -/
structure Donatable (env : Env) (donor : Address) (amount : ℤ) (asset : AssetInfo) (w : World)
    (campaign : CampaignData) (token : Address) : Prop where
  lock_free : w.storage.reentrancyLock = false
  found : w.storage.campaignData = some campaign
  accepted : isAssetInList asset campaign = true
  authorised : env.Authorised donor
  not_frozen : w.storage.isFrozen = false
  accepts : campaign.status.acceptsDonations = true
  amount_pos : 0 < amount
  minimum : ¬ (0 < campaign.minDonationAmount ∧ amount < campaign.minDonationAmount)
  raised_range : InI128 (campaign.raisedAmount + amount)
  total_range : InI128 (w.storage.getTotalRaised + amount)
  total_nonneg : 0 ≤ w.storage.getTotalRaised + amount
  resolved : getTokenAddressForAsset asset campaign = .ok token
  not_blocked : w.storage.isAssetBlocked token = false
  asset_range : InI128 (w.storage.getAssetRaised token + amount)
  asset_nonneg : 0 ≤ w.storage.getAssetRaised token + amount
  pair_range : InI128 (w.storage.getDonorAssetDonation donor token + amount)
  donor_range :
    InI128 (((w.storage.donorData donor).getD (.newFor donor asset)).totalDonated + amount)
  donor_count :
    ((w.storage.donorData donor).getD (.newFor donor asset)).donationCount + 1 ≤ u32Max
  count_range : w.storage.getDonationCount + 1 ≤ u64Max
  unique_range : (w.storage.donorData donor).isNone = true →
    w.storage.getUniqueDonorCount + 1 ≤ u32Max
  reportable : (campaign.withRaised (campaign.raisedAmount + amount)).Reportable

/-- Donations go to campaigns that have not concluded. -/
theorem Donated.isTerminal_eq {env : Env} {donor : Address} {amount : ℤ} {asset : AssetInfo}
    {w next : World} {campaign : CampaignData} {token : Address}
    (h : Donated env donor amount asset w next campaign token) :
    campaign.status.isTerminal = false := by
  have haccepts := h.accepts
  rwa [CampaignStatus.acceptsDonations_eq_not_isTerminal, Bool.not_eq_true'] at haccepts

/-- Counting a donation raises the two counters, when they have room. -/
theorem countDonation_eq_ok_iff {s next : Storage} {isNewDonor : Bool} :
    countDonation s isNewDonor = .ok next ↔
      (s.getDonationCount + 1 ≤ u64Max ∧
        (isNewDonor = true → s.getUniqueDonorCount + 1 ≤ u32Max)) ∧
      { s with
        donationCount := some (s.getDonationCount + 1)
        uniqueDonorCount :=
          if isNewDonor then some (s.getUniqueDonorCount + 1) else s.uniqueDonorCount } = next := by
  simp only [countDonation, bind_eq_ok_iff, Storage.incrementDonationCount_eq_ok_iff]
  cases isNewDonor with
  | false => simp
  | true =>
    simp only [if_true, Storage.incrementUniqueDonorCount_eq_ok_iff, true_implies]
    constructor
    · rintro ⟨_, ⟨hcount, rfl⟩, hunique, hnext⟩
      exact ⟨⟨hcount, hunique⟩, hnext⟩
    · rintro ⟨⟨hcount, hunique⟩, hnext⟩
      exact ⟨_, ⟨hcount, rfl⟩, hunique, hnext⟩

/-- Every successful donation passed these checks and made these writes. -/
theorem donate_inversion {env : Env} {donor : Address} {amount : ℤ} {asset : AssetInfo}
    {w next : World} (h : donate env donor amount asset w = .ok next) :
    ∃ campaign token, Donatable env donor amount asset w campaign token ∧
      Donated env donor amount asset w next campaign token := by
  simp only [donate, bind_eq_ok_iff, Storage.acquireLock_eq_ok_iff, orFail_eq_ok_iff,
    assertAssetIsAccepted, failIf_eq_ok_iff, Env.requireAuth_eq_ok_iff, checkedI128_eq_some_iff,
    Storage.setTotalRaised_eq_ok_iff, Storage.incrementAssetRaised_eq_ok_iff,
    Storage.incrementDonorAssetDonation_eq_ok_iff, pure_eq_ok_iff] at h
  obtain ⟨s₀, ⟨hlock, rfl⟩, campaign, hcampaign, _, haccepted, _, hauth, _, hfrozen, _, hstatus,
    _, hamount, raised, ⟨hraised, rfl⟩, total, ⟨htotal, rfl⟩, s₁, ⟨htotalNonneg, rfl⟩, token,
    htoken, _, hblocked, s₂, ⟨-, hasset, hassetNonneg, rfl⟩, s₃, ⟨hpair, rfl⟩, record, hrecord, s₄,
    hcount, s₅, hreport, rfl⟩ := h
  obtain ⟨⟨hcounted, hunique⟩, rfl⟩ := countDonation_eq_ok_iff.mp hcount
  rw [Storage.unlockMilestonesBatch_fst, refreshReportCache_eq_ok_iff _ rfl] at hreport
  obtain ⟨report, hreport, rfl⟩ := hreport
  have hroom := DonorRecord.applyDonation_eq_ok_iff.mp hrecord
  rw [not_or, not_le] at hamount
  have hchecks : Donatable env donor amount asset w campaign token :=
    { lock_free := hlock
      found := hcampaign
      accepted := by simpa using haccepted
      authorised := hauth
      not_frozen := eq_false_of_ne_true hfrozen
      accepts := by simpa using hstatus
      amount_pos := hamount.1
      minimum := hamount.2
      raised_range := hraised
      total_range := htotal
      total_nonneg := htotalNonneg
      resolved := htoken
      not_blocked := eq_false_of_ne_true hblocked
      asset_range := hasset
      asset_nonneg := hassetNonneg
      pair_range := hpair
      donor_range := hroom.1
      donor_count := hroom.2.1
      count_range := hcounted
      unique_range := hunique
      reportable := reportable_of_report hreport }
  exact ⟨campaign, token, hchecks,
    { lock_free := hlock
      found := hcampaign
      accepted := hchecks.accepted
      authorised := hauth
      not_frozen := hchecks.not_frozen
      accepts := hchecks.accepts
      amount_pos := hamount.1
      raised_range := hraised
      total_range := htotal
      resolved := htoken
      not_blocked := hchecks.not_blocked
      asset_range := hasset
      pair_range := hpair
      campaignData := rfl
      milestoneData := rfl
      milestonesVec := rfl
      donorData := ⟨record, hrecord, rfl⟩
      totalRaised := rfl
      assetRaised := rfl
      donorAssetDonation := rfl
      donationCount := rfl
      uniqueDonorCount := rfl
      releaseCount := rfl
      frozen := rfl
      blockedAsset := rfl
      cachedReport := ⟨report, hreport, rfl⟩
      reentrancyLock := rfl
      ledger := rfl
      wasmHash := rfl }⟩

/-- Every successful donation is one of these. -/
theorem donate_ok {env : Env} {donor : Address} {amount : ℤ} {asset : AssetInfo} {w next : World}
    (h : donate env donor amount asset w = .ok next) :
    ∃ campaign token, Donated env donor amount asset w next campaign token := by
  obtain ⟨campaign, token, -, hdonated⟩ := donate_inversion h
  exact ⟨campaign, token, hdonated⟩

/-! ### When a donation succeeds -/

/-- A donation succeeds exactly when it passes these checks. -/
theorem donate_isOk_iff {env : Env} {donor : Address} {amount : ℤ} {asset : AssetInfo}
    {w : World} : (∃ next, donate env donor amount asset w = .ok next) ↔
      ∃ campaign token, Donatable env donor amount asset w campaign token := by
  constructor
  · rintro ⟨next, h⟩
    obtain ⟨campaign, token, hchecks, -⟩ := donate_inversion h
    exact ⟨campaign, token, hchecks⟩
  · rintro ⟨campaign, token, h⟩
    have hamount : ¬ (amount ≤ 0 ∨
        0 < campaign.minDonationAmount ∧ amount < campaign.minDonationAmount) :=
      not_or.mpr ⟨h.amount_pos.not_ge, h.minimum⟩
    have haccepted : ¬ isAssetInList asset campaign = false := by simp [h.accepted]
    have haccepts : ¬ campaign.status.acceptsDonations = false := by simp [h.accepts]
    have hfrozen : ¬ w.storage.isFrozen = true := by simp [h.not_frozen]
    have hblocked : ¬ w.storage.isAssetBlocked token = true := by simp [h.not_blocked]
    obtain ⟨report, hreport, -⟩ := buildCampaignReport_ok (s := { w.storage with
      donationCount := some (w.storage.getDonationCount + 1)
      uniqueDonorCount :=
        if (w.storage.donorData donor).isNone then some (w.storage.getUniqueDonorCount + 1)
        else w.storage.uniqueDonorCount }) h.reportable
    simp only [donate, bind_eq_ok_iff, Storage.acquireLock_eq_ok_iff, orFail_eq_ok_iff,
      assertAssetIsAccepted, failIf_eq_ok_iff, Env.requireAuth_eq_ok_iff, checkedI128_eq_some_iff,
      Storage.setTotalRaised_eq_ok_iff, Storage.incrementAssetRaised_eq_ok_iff,
      Storage.incrementDonorAssetDonation_eq_ok_iff, Storage.unlockMilestonesBatch_fst,
      pure_eq_ok_iff]
    refine ⟨_, _, ⟨h.lock_free, rfl⟩, campaign, h.found, (), haccepted, (), h.authorised, (),
      hfrozen, (), haccepts, (), hamount, _, ⟨h.raised_range, rfl⟩, _, ⟨h.total_range, rfl⟩, _,
      ⟨h.total_nonneg, rfl⟩, token, h.resolved, (), hblocked, _,
      ⟨h.amount_pos, h.asset_range, h.asset_nonneg, rfl⟩, _, ⟨h.pair_range, rfl⟩, _,
      DonorRecord.applyDonation_eq_ok_iff.mpr ⟨h.donor_range, h.donor_count, rfl⟩, _,
      countDonation_eq_ok_iff.mpr ⟨⟨h.count_range, h.unique_range⟩, rfl⟩, _,
      (refreshReportCache_eq_ok_iff _ rfl).mpr ⟨report, ?_, rfl⟩, rfl⟩
    exact hreport

end CampaignContract

end OrbitChain.Campaign
