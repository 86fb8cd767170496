import OrbitChain.Campaign.BatchedUnlock
import OrbitChain.Campaign.ReportCache
import OrbitChain.Foundations.KeyedWrites

/-!
# Donations in either order

Two donations of different donors leave the same storage in either order. The first may reach the
goal or a target that the second reaches in the other order: a status and a milestone depend on the
raised amount alone, and what both raise together is the same. Token totals are rewritten by adding
to them, which commutes even when the tokens are the same, and the donors' own entries are at
different keys. The report is computed from the rest.
-/

set_option autoImplicit false
set_option relaxedAutoImplicit false

namespace OrbitChain.Campaign

open Foundations

/-! ### Thresholds crossed in two steps -/

/-- Raising the amount in two steps changes the record as raising it in one. -/
theorem CampaignData.withRaised_withRaised (campaign : CampaignData) {raised raised' : ℤ}
    (h : raised ≤ raised') :
    (campaign.withRaised raised).withRaised raised' = campaign.withRaised raised' := by
  unfold withRaised
  dsimp only
  by_cases hreached : campaign.goalAmount ≤ raised ∧ campaign.status = .active
  · rw [if_pos hreached, if_neg fun hagain ↦ CampaignStatus.noConfusion hagain.2,
      if_pos ⟨hreached.1.trans h, hreached.2⟩]
  · rw [if_neg hreached]

/-- A stored amount with an amount added to it; a missing one counts as zero. -/
def raiseBy (amount : ℤ) (stored : Option ℤ) : Option ℤ := some (stored.getD 0 + amount)

theorem raiseBy_raiseBy (amount amount' : ℤ) (stored : Option ℤ) :
    raiseBy amount' (raiseBy amount stored) = raiseBy (amount + amount') stored := by
  show some (stored.getD 0 + amount + amount') = some (stored.getD 0 + (amount + amount'))
  rw [add_assoc]

theorem raiseBy_comm (amount amount' : ℤ) (stored : Option ℤ) :
    raiseBy amount (raiseBy amount' stored) = raiseBy amount' (raiseBy amount stored) := by
  rw [raiseBy_raiseBy, raiseBy_raiseBy, add_comm]

/-- The count of donors after a donation of one who may be new. -/
def countDonor (isNewDonor : Bool) (stored : Option ℕ) : Option ℕ :=
  if isNewDonor then some (stored.getD 0 + 1) else stored

theorem countDonor_comm (isNewDonor isNewDonor' : Bool) (stored : Option ℕ) :
    countDonor isNewDonor (countDonor isNewDonor' stored) =
      countDonor isNewDonor' (countDonor isNewDonor stored) := by
  cases isNewDonor <;> cases isNewDonor' <;> rfl

namespace CampaignContract.Donated

/-! ### One donation, as a rewrite of each entry -/

section One

variable {env : Env} {donor : Address} {amount : ℤ} {asset : AssetInfo} {w next : World}
  {campaign : CampaignData} {token : Address}
  (h : Donated env donor amount asset w next campaign token)
include h

theorem totalRaised_eq : next.storage.totalRaised = raiseBy amount w.storage.totalRaised :=
  h.totalRaised

theorem assetRaised_eq : next.storage.assetRaised =
    rewriteAt w.storage.assetRaised token (raiseBy amount) :=
  h.assetRaised

theorem donorAssetDonation_eq : next.storage.donorAssetDonation =
    rewriteAt w.storage.donorAssetDonation donor fun given ↦
      rewriteAt given token (raiseBy amount) :=
  h.donorAssetDonation

theorem uniqueDonorCount_eq : next.storage.uniqueDonorCount =
    countDonor (w.storage.donorData donor).isNone w.storage.uniqueDonorCount :=
  h.uniqueDonorCount

/-- The records of other donors stay as they are. -/
theorem donorData_of_ne {other : Address} (hne : other ≠ donor) :
    next.storage.donorData other = w.storage.donorData other := by
  obtain ⟨record, -, hdata⟩ := h.donorData
  rw [hdata, Function.update_of_ne hne]

end One

/-! ### A donation and a later one -/

section Two

variable {env env' : Env} {donor donor' : Address} {amount amount' : ℤ} {asset asset' : AssetInfo}
  {w mid next : World} {campaign campaign' : CampaignData} {token token' : Address}
  (h : Donated env donor amount asset w mid campaign token)
  (h' : Donated env' donor' amount' asset' mid next campaign' token')
include h h'

/-- The later donation finds the campaign that the first left. -/
theorem campaign_eq_of_two :
    campaign' = campaign.withRaised (campaign.raisedAmount + amount) :=
  Option.some.inj (h'.found.symm.trans h.campaignData)

/-- The later donation resolves to the token it would have resolved to before. -/
theorem resolved_of_two : getTokenAddressForAsset asset' campaign = .ok token' := by
  have hresolved := h'.resolved
  rw [campaign_eq_of_two h h'] at hresolved
  exact hresolved

theorem campaignData_of_two : next.storage.campaignData =
    some (campaign.withRaised (campaign.raisedAmount + (amount + amount'))) := by
  rw [h'.campaignData, campaign_eq_of_two h h']
  show some ((campaign.withRaised (campaign.raisedAmount + amount)).withRaised
    (campaign.raisedAmount + amount + amount')) = _
  rw [CampaignData.withRaised_withRaised _ (le_add_of_nonneg_right h'.amount_pos.le), add_assoc]

theorem milestonesVec_of_two {v : List MilestoneData} (hv : Established w.storage campaign v) :
    next.storage.milestonesVec =
      some (v.map (MilestoneData.unlock (campaign.raisedAmount + (amount + amount')))) := by
  have hmid := (hv.of_donated h).2
  rw [← campaign_eq_of_two h h'] at hmid
  have hraised : campaign'.raisedAmount + amount' =
      campaign.raisedAmount + (amount + amount') := by
    rw [campaign_eq_of_two h h', ← add_assoc]
    rfl
  have hle : campaign.raisedAmount + amount ≤ campaign.raisedAmount + (amount + amount') := by
    have hpos := h'.amount_pos
    omega
  rw [(hmid.of_donated h').2.vec, hraised, List.map_map]
  congr 2
  funext m
  exact m.unlock_unlock hle

theorem totalRaised_of_two :
    next.storage.totalRaised = raiseBy (amount + amount') w.storage.totalRaised := by
  rw [h'.totalRaised_eq, h.totalRaised_eq, raiseBy_raiseBy]

theorem donationCount_of_two :
    next.storage.donationCount = some (w.storage.getDonationCount + 2) := by
  rw [h'.donationCount, Storage.getDonationCount, h.donationCount]
  rfl

end Two

/-! ### Both orders -/

section Both

variable {env env' : Env} {donor donor' : Address} {amount amount' : ℤ} {asset asset' : AssetInfo}
  {w mid mid' next next' : World} {campaign campaign₁ campaign₂ campaign₃ : CampaignData}
  {token token₁ token₂ token₃ : Address}

/-- Donations of different donors leave the same storage in either order. -/
theorem storage_eq_of_both {v : List MilestoneData} (hv : Established w.storage campaign v)
    (hdonors : donor ≠ donor')
    (h : Donated env donor amount asset w mid campaign token)
    (hlater : Donated env' donor' amount' asset' mid next campaign₁ token₁)
    (h' : Donated env' donor' amount' asset' w mid' campaign₂ token₂)
    (hlater' : Donated env donor amount asset mid' next' campaign₃ token₃) :
    next.storage = next'.storage := by
  obtain rfl : campaign₂ = campaign := hv.campaign_eq h'.found
  obtain rfl : token₁ = token₂ :=
    Except.ok.inj ((resolved_of_two h hlater).symm.trans h'.resolved)
  obtain rfl : token₃ = token :=
    Except.ok.inj ((resolved_of_two h' hlater').symm.trans h.resolved)
  have hcampaign : next.storage.campaignData = next'.storage.campaignData := by
    rw [campaignData_of_two h hlater, campaignData_of_two h' hlater', add_comm amount]
  have hdonations : next.storage.donationCount = next'.storage.donationCount := by
    rw [donationCount_of_two h hlater, donationCount_of_two h' hlater']
  have hunique : next.storage.uniqueDonorCount = next'.storage.uniqueDonorCount := by
    rw [hlater.uniqueDonorCount_eq, h.uniqueDonorCount_eq, h.donorData_of_ne hdonors.symm,
      hlater'.uniqueDonorCount_eq, h'.uniqueDonorCount_eq, h'.donorData_of_ne hdonors,
      countDonor_comm]
  have hreleases : next.storage.releaseCount = next'.storage.releaseCount := by
    rw [hlater.releaseCount, h.releaseCount, hlater'.releaseCount, h'.releaseCount]
  apply Storage.ext
  case campaignData => exact hcampaign
  case donationCount => exact hdonations
  case uniqueDonorCount => exact hunique
  case releaseCount => exact hreleases
  case milestoneData =>
    rw [hlater.milestoneData, h.milestoneData, hlater'.milestoneData, h'.milestoneData]
  case milestonesVec =>
    rw [milestonesVec_of_two h hlater hv, milestonesVec_of_two h' hlater' hv, add_comm amount]
  case donorData =>
    -- each donor's record is computed from the one before both donations
    obtain ⟨record, happly, hdata⟩ := h.donorData
    obtain ⟨record₁, happly₁, hdata₁⟩ := hlater.donorData
    obtain ⟨record₂, happly₂, hdata₂⟩ := h'.donorData
    obtain ⟨record₃, happly₃, hdata₃⟩ := hlater'.donorData
    rw [h.donorData_of_ne hdonors.symm] at happly₁
    rw [h'.donorData_of_ne hdonors] at happly₃
    obtain rfl := Except.ok.inj (happly₁.symm.trans happly₂)
    obtain rfl := Except.ok.inj (happly₃.symm.trans happly)
    rw [hdata₁, hdata, hdata₃, hdata₂]
    exact Function.update_comm hdonors _ _ _
  case totalRaised =>
    rw [totalRaised_of_two h hlater, totalRaised_of_two h' hlater', add_comm amount]
  case assetRaised =>
    rw [hlater.assetRaised_eq, h.assetRaised_eq, hlater'.assetRaised_eq, h'.assetRaised_eq]
    exact rewriteAt_comm _ fun _ ↦ raiseBy_comm _ _
  case donorAssetDonation =>
    rw [hlater.donorAssetDonation_eq, h.donorAssetDonation_eq, hlater'.donorAssetDonation_eq,
      h'.donorAssetDonation_eq]
    exact rewriteAt_comm _ fun heq ↦ absurd heq hdonors
  case frozen => rw [hlater.frozen, h.frozen, hlater'.frozen, h'.frozen]
  case blockedAsset =>
    rw [hlater.blockedAsset, h.blockedAsset, hlater'.blockedAsset, h'.blockedAsset]
  case cachedReport =>
    obtain ⟨report, hreport, hcached⟩ := hlater.cachedReport
    obtain ⟨report', hreport', hcached'⟩ := hlater'.cachedReport
    have hrecord := hcampaign
    rw [hlater.campaignData, hlater'.campaignData, Option.some.injEq] at hrecord
    rw [hrecord, buildCampaignReport_congr _ hunique hdonations hreleases, hreport',
      Except.ok.injEq] at hreport
    rw [hcached, hcached', hreport]
  case reentrancyLock => rw [hlater.reentrancyLock, hlater'.reentrancyLock]

end Both

end CampaignContract.Donated

/-! ### In a run -/

section Standard

variable {contract : Address} {overflowChecks : Bool} {ledger : Ledger Address Address}
  {wasmHash : BitVec 256} {history : List (Receipt Action World)} {w : World}

/-- Two donations in a row are a donation and a later one. -/
theorem donated_of_execAll (hw : Untouched w.storage) {first second : Invocation}
    {donor donor' : Address} {amount amount' : ℤ} {asset asset' : AssetInfo}
    (hfirst : first.call = .donate donor amount asset)
    (hsecond : second.call = .donate donor' amount' asset') {next : World}
    (h : (chain (standardHost contract overflowChecks)).execAll
      [.invoke first, .invoke second] w = .ok next) :
    ∃ mid campaign token campaign' token',
      CampaignContract.Donated (first.env (standardHost contract overflowChecks)) donor amount
        asset w mid campaign token ∧
      CampaignContract.Donated (second.env (standardHost contract overflowChecks)) donor' amount'
        asset' mid next campaign' token' := by
  simp only [System.execAll, bind_eq_ok_iff, Except.ok.injEq] at h
  obtain ⟨mid, hmid, last, hlast, rfl⟩ := h
  have hstep := step_of_exec hw hmid
  obtain ⟨campaign, token, hdonated⟩ := hstep.of_donate hfirst
  obtain ⟨campaign', token', hlater⟩ :=
    (step_of_exec (hstep.untouched hw) hlast).of_donate hsecond
  exact ⟨mid, campaign, token, campaign', token', hdonated, hlater⟩

/-- Donations of different donors, each at its own ledger time and sequence, commute: from every
reachable state, when both orders succeed they reach the same storage, the same balances and the
same code. -/
theorem donations_commute
    (run : CampaignRun contract overflowChecks ledger wasmHash history w)
    {first second : Invocation} {donor donor' : Address} {amount amount' : ℤ}
    {asset asset' : AssetInfo} (hfirst : first.call = .donate donor amount asset)
    (hsecond : second.call = .donate donor' amount' asset') (hdonors : donor ≠ donor')
    {next next' : World}
    (h : (chain (standardHost contract overflowChecks)).execAll
      [.invoke first, .invoke second] w = .ok next)
    (h' : (chain (standardHost contract overflowChecks)).execAll
      [.invoke second, .invoke first] w = .ok next') :
    next.storage = next'.storage ∧ next.ledger = next'.ledger ∧
      next.wasmHash = next'.wasmHash := by
  have hsound := CampaignRun.sound run
  obtain ⟨mid, campaign, token, campaign₁, token₁, hdonated, hlater⟩ :=
    donated_of_execAll hsound.untouched hfirst hsecond h
  obtain ⟨mid', campaign₂, token₂, campaign₃, token₃, hdonated', hlater'⟩ :=
    donated_of_execAll hsound.untouched hsecond hfirst h'
  obtain ⟨v, hv⟩ := hsound.established hdonated.found
  refine ⟨hdonated.storage_eq_of_both hv hdonors hlater hdonated' hlater', ?_, ?_⟩
  · rw [hlater.ledger, hdonated.ledger, hlater'.ledger, hdonated'.ledger]
  · rw [hlater.wasmHash, hdonated.wasmHash, hlater'.wasmHash, hdonated'.wasmHash]

end Standard

/-- A campaign with a target below the goal. -/
def Sample.twoTargets : List Action :=
  [Sample.opening [⟨"XLM", some Sample.token⟩] [Sample.milestone 400, Sample.milestone 1000] 1000]

/-- The first of two donations reaches the goal in one order, and only the first target in the
other. -/
theorem donations_commute_acrossGoal :
    ∃ next next' : World,
      (chain (standardHost Sample.contract true)).execAll
        [Sample.giving Sample.donor 1000 Sample.token,
          Sample.giving Sample.secondDonor 500 Sample.token]
        (Sample.reached Sample.twoTargets) = .ok next ∧
      (chain (standardHost Sample.contract true)).execAll
        [Sample.giving Sample.secondDonor 500 Sample.token,
          Sample.giving Sample.donor 1000 Sample.token]
        (Sample.reached Sample.twoTargets) = .ok next' ∧
      next.storage = next'.storage ∧ next.ledger = next'.ledger ∧
        next.wasmHash = next'.wasmHash := by
  obtain ⟨next, h⟩ := isOk_iff.mp (show ((chain (standardHost Sample.contract true)).execAll
    [Sample.giving Sample.donor 1000 Sample.token,
      Sample.giving Sample.secondDonor 500 Sample.token]
    (Sample.reached Sample.twoTargets)).isOk = true by decide +kernel)
  obtain ⟨next', h'⟩ := isOk_iff.mp (show ((chain (standardHost Sample.contract true)).execAll
    [Sample.giving Sample.secondDonor 500 Sample.token,
      Sample.giving Sample.donor 1000 Sample.token]
    (Sample.reached Sample.twoTargets)).isOk = true by decide +kernel)
  exact ⟨next, next', h, h',
    donations_commute (Sample.run Sample.twoTargets) (by rfl) (by rfl) (by decide) h h'⟩

end OrbitChain.Campaign
