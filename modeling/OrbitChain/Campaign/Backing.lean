import OrbitChain.Campaign.Settlement
import OrbitChain.Campaign.Custody
import OrbitChain.Campaign.IncrementalPayout
import OrbitChain.Campaign.RefundOrders
import OrbitChain.Foundations.ProportionalBacking

/-!
# What backs refunds

On the settled chain the contract holds what was donated, less what it paid out. `Backed` says
that its balance of each token backs the token's pledges for the part of the raised amount that
no milestone counts as released: donations and both release paths keep it as long as they keep the
proportions of the tokens. From the first claim on, `Reserved` says the same of the pledges of the
donors who have not claimed, and a claim that is computed without the anti-dust floor keeps it.
-/

set_option autoImplicit false
set_option relaxedAutoImplicit false

namespace OrbitChain.Campaign

open Foundations

namespace Storage

/-- Everything donated in a token, by the donors' own amounts. -/
def pledgedIn (s : Storage) (t : Address) : ℤ := ∑ d, s.getDonorAssetDonation d t

/-- The donor has claimed a refund. -/
def hasClaimed (s : Storage) (d : Address) : Bool := (s.donorData d).any DonorRecord.refundClaimed

/-- What the donors who have not claimed gave of a token. -/
def pendingIn (s : Storage) (t : Address) : ℤ :=
  ∑ d, if s.hasClaimed d then 0 else s.getDonorAssetDonation d t

def milestoneCount (s : Storage) : ℕ := (s.campaignData.map CampaignData.milestoneCount).getD 0

/-- What was raised and no milestone counts as released. -/
def unreleased (s : Storage) : ℤ := s.raisedAmount - CampaignContract.releasedTotal s.getMilestone
  s.milestoneCount

end Storage

/-- What a schedule counts as released, no milestone beyond its target. -/
def credited (v : List MilestoneData) : ℤ :=
  (v.map fun m ↦ min m.releasedAmount m.targetAmount).sum

/-- A donor's refund is computed within range and without the anti-dust floor. -/
def PlainRefund (s : Storage) (d : Address) : Prop :=
  (∀ i ≤ s.milestoneCount, InI128 (CampaignContract.releasedTotal s.getMilestone i)) ∧
    InI128 s.unreleased ∧
    ∀ t ∈ s.issuers, InI128 (s.getDonorAssetDonation d t * s.unreleased) ∧
      ¬ (0 < s.getDonorAssetDonation d t * s.unreleased ∧
        s.getDonorAssetDonation d t * s.unreleased < s.raisedAmount)

-- The list bounds the tokens to check; there are too many addresses to go through them all.
instance (s : Storage) (d : Address) : Decidable (PlainRefund s d) :=
  have : Decidable (∀ t ∈ s.issuers, InI128 (s.getDonorAssetDonation d t * s.unreleased) ∧
      ¬ (0 < s.getDonorAssetDonation d t * s.unreleased ∧
        s.getDonorAssetDonation d t * s.unreleased < s.raisedAmount)) :=
    List.decidableBAll _ _
  inferInstanceAs (Decidable (_ ∧ _ ∧ _))

/-! ### The books behind the pledges -/

namespace Mirrors

variable {s : Storage} {book : PledgeBook Address Address} (h : Mirrors s book)
include h

theorem pledgedIn_eq (t : Address) : s.pledgedIn t = book.collected t :=
  Finset.sum_congr rfl fun d _ ↦ h.pledged d t

theorem getDonorAssetDonation_nonneg (d t : Address) : 0 ≤ s.getDonorAssetDonation d t := by
  rw [h.pledged]
  exact book.pledged_nonneg d t

theorem pledgedIn_nonneg (t : Address) : 0 ≤ s.pledgedIn t :=
  Finset.sum_nonneg fun d _ ↦ h.getDonorAssetDonation_nonneg d t

theorem getAssetRaised_le_pledgedIn (t : Address) : s.getAssetRaised t ≤ s.pledgedIn t := by
  rw [h.pledgedIn_eq, h.held]
  exact book.held_le_collected t

theorem pledgedIn_le (t : Address) : s.pledgedIn t ≤ s.raisedAmount := by
  rw [h.pledgedIn_eq, h.raised]
  exact book.collected_le_raised t

/-- What is missing of a token is part of what is missing. -/
theorem pledgedIn_sub_le (t : Address) :
    s.pledgedIn t - s.getAssetRaised t ≤ s.raisedAmount - s.getTotalRaised := by
  rw [h.pledgedIn_eq, h.held, h.raised, h.totalHeld]
  exact book.collected_sub_held_le t

theorem pledgedIn_of_unlisted {campaign : CampaignData} (hfound : s.campaignData = some campaign)
    {t : Address} (ht : t ∉ campaign.issuers) : s.pledgedIn t = 0 := by
  refine Finset.sum_eq_zero fun d _ ↦ ?_
  rw [h.pledged]
  by_contra hpledged
  obtain ⟨found, hsame, hlisted⟩ := h.listed d t hpledged
  obtain rfl : found = campaign := Option.some.inj (hsame.symm.trans hfound)
  exact ht hlisted

/-- A token without donations beside it is all that was raised. -/
theorem pledgedIn_eq_raised {campaign : CampaignData} (hfound : s.campaignData = some campaign)
    {token : Address} (hothers : ∀ t ∈ campaign.issuers, t ≠ token → s.pledgedIn t = 0) :
    s.pledgedIn token = s.raisedAmount := by
  rw [h.pledgedIn_eq, h.raised]
  refine PledgeBook.collected_eq_raised fun t ht ↦ ?_
  rw [← h.pledgedIn_eq]
  by_cases hlisted : t ∈ campaign.issuers
  · exact hothers t hlisted ht
  · exact h.pledgedIn_of_unlisted hfound hlisted

theorem getAssetRaised_le_total (t : Address) : s.getAssetRaised t ≤ s.getTotalRaised := by
  rw [h.held, h.totalHeld]
  exact Finset.single_le_sum (fun t _ ↦ book.held_nonneg t) (Finset.mem_univ t)

end Mirrors

/-! ### Credit of a schedule -/

theorem credited_le_sum (v : List MilestoneData) :
    credited v ≤ (v.map MilestoneData.releasedAmount).sum :=
  List.sum_le_sum fun _ _ ↦ min_le_left _ _

/-- Unlocking milestones keeps their credit. -/
theorem credited_unlock (raised : ℤ) (v : List MilestoneData) :
    credited (v.map (MilestoneData.unlock raised)) = credited v := by
  rw [credited, map_map_unlock _ fun _ _ ↦ rfl, credited]

/-- Releasing a milestone credits what was pending of it. -/
theorem credited_set {v : List MilestoneData} {index : ℕ} {m data : MilestoneData}
    (hm : v[index]? = some m) (hreleased : data.releasedAmount = m.targetAmount)
    (htarget : data.targetAmount = m.targetAmount) :
    credited (v.set index data) = credited v + max (m.targetAmount - m.releasedAmount) 0 := by
  obtain ⟨hindex, hget⟩ := List.getElem?_eq_some_iff.mp hm
  have hlength : index < (v.map fun m ↦ min m.releasedAmount m.targetAmount).length := by
    rwa [List.length_map]
  rw [credited, List.map_set, List.sum_set', dif_pos hlength, List.getElem_map, hget, hreleased,
    htarget, min_self, credited]
  omega

/-! ### Backed campaigns -/

/-- Before any claim: no more is left to release than is recorded, and every token backs its
pledges for what is left. -/
structure Backed (contract : Address) (w : World) (campaign : CampaignData)
    (v : List MilestoneData) : Prop where
  established : Established w.storage campaign v
  issuers_nodup : campaign.issuers.Nodup
  credited_nonneg : 0 ≤ credited v
  total : campaign.raisedAmount - credited v ≤ w.storage.getTotalRaised
  unclaimed : ∀ d, w.storage.hasClaimed d = false
  tokens : ∀ t, TokenBacked (w.ledger.balance t contract) (w.storage.pledgedIn t)
    (w.storage.getAssetRaised t) (campaign.raisedAmount - credited v) campaign.raisedAmount

namespace Backed

variable {contract : Address} {w next : World} {campaign : CampaignData} {v : List MilestoneData}
  {book : PledgeBook Address Address}

/-- A step that changes neither the books nor the schedule's credit keeps a campaign backed, as
long as no balance of the contract falls. -/
theorem congr (h : Backed contract w campaign v) (hbook : Mirrors w.storage book)
    {campaign' : CampaignData} (hnext : Established next.storage campaign' v)
    (hissuers : campaign'.issuers = campaign.issuers)
    (hraised : campaign'.raisedAmount = campaign.raisedAmount)
    (hpairs : next.storage.donorAssetDonation = w.storage.donorAssetDonation)
    (hdonors : next.storage.donorData = w.storage.donorData)
    (hassets : next.storage.assetRaised = w.storage.assetRaised)
    (htotal : next.storage.totalRaised = w.storage.totalRaised)
    (hheld : ∀ t, w.ledger.balance t contract ≤ next.ledger.balance t contract) :
    Backed contract next campaign' v where
  established := hnext
  issuers_nodup := hissuers ▸ h.issuers_nodup
  credited_nonneg := h.credited_nonneg
  total := by
    rw [hraised, Storage.getTotalRaised, htotal]
    exact h.total
  unclaimed := fun d ↦ by
    rw [Storage.hasClaimed, hdonors]
    exact h.unclaimed d
  tokens := fun t ↦ by
    have hpledged : next.storage.pledgedIn t = w.storage.pledgedIn t := by
      rw [Storage.pledgedIn]
      simp only [Storage.getDonorAssetDonation, hpairs]
      rfl
    rw [hraised, hpledged, Storage.getAssetRaised, hassets]
    exact (h.tokens t).mono (hbook.pledgedIn_nonneg t) h.established.raised_nonneg (hheld t) le_rfl

/-- An initialized campaign with nothing donated is backed. -/
theorem of_initialized {env : Env} {creator : Address} {goalAmount : ℤ} {endTime : ℕ}
    {acceptedAssets : List StellarAsset} {milestones : List MilestoneData}
    {minDonationAmount : ℤ}
    (h : CampaignContract.Initialized env creator goalAmount endTime acceptedAssets milestones
      minDonationAmount w next) (hempty : w.storage = .empty)
    (hissuers : (acceptedAssets.filterMap StellarAsset.issuer).Nodup)
    (hcredited : 0 ≤ credited milestones) :
    Backed contract next (CampaignContract.initialCampaign env creator goalAmount endTime
      acceptedAssets milestones minDonationAmount) milestones := by
  obtain ⟨report, hstorage⟩ := h.storage
  rw [hempty] at hstorage
  have hpledged : ∀ t, next.storage.pledgedIn t = 0 := by
    intro t
    rw [hstorage]
    exact Finset.sum_eq_zero fun d _ ↦ rfl
  have hraised : ∀ t, next.storage.getAssetRaised t = 0 := by
    intro t
    rw [hstorage]
    rfl
  have htotal : next.storage.getTotalRaised = 0 := by
    rw [hstorage]
    rfl
  have hnothing : (CampaignContract.initialCampaign env creator goalAmount endTime acceptedAssets
      milestones minDonationAmount).raisedAmount = 0 := rfl
  refine
    { established := .of_initialized h hempty
      issuers_nodup := hissuers
      credited_nonneg := hcredited
      total := by rw [hnothing, htotal]; linarith
      unclaimed := fun d ↦ by rw [hstorage]; rfl
      tokens := fun t ↦ ?_ }
  rw [hpledged, hraised, hnothing]
  exact tokenBacked_of_le le_rfl le_rfl (next.ledger.balance_nonneg t contract) (by linarith) le_rfl

/-- A donation leaves every donor's mark as it was. -/
theorem hasClaimed_of_donated {env : Env} {donor : Address} {amount : ℤ} {asset : AssetInfo}
    {token : Address} {found : CampaignData}
    (h : CampaignContract.Donated env donor amount asset w next found token) (d : Address) :
    next.storage.hasClaimed d = w.storage.hasClaimed d := by
  obtain ⟨record, hrecord, hdonors⟩ := h.donorData
  rw [Storage.hasClaimed, Storage.hasClaimed, hdonors]
  by_cases hd : d = donor
  · rw [hd, Function.update_self, Option.any_some, (DonorRecord.applyDonation_ok hrecord).2.2.1]
    cases w.storage.donorData donor <;> rfl
  · rw [Function.update_of_ne hd]

/-- A settled donation keeps a campaign backed, when the contract holds what was donated in the
other tokens. -/
theorem of_donated (h : Backed contract w campaign v) (hbook : Mirrors w.storage book) {env : Env}
    {donor : Address} {amount : ℤ} {asset : AssetInfo} {token : Address} {middle : World}
    {found : CampaignData} (hself : env.host.contract = contract)
    (hdonated : CampaignContract.Donated env donor amount asset w middle found token)
    (hledger : w.ledger.transfer token donor contract amount = some next.ledger)
    (hstorage : next.storage = middle.storage)
    (hothers : ∀ t ∈ campaign.issuers, t ≠ token →
      w.storage.pledgedIn t ≤ w.ledger.balance t contract) :
    Backed contract next (campaign.withRaised (campaign.raisedAmount + amount))
      (v.map (MilestoneData.unlock (campaign.raisedAmount + amount))) := by
  obtain ⟨rfl, hmiddle⟩ := h.established.of_donated hdonated
  have hamount := hdonated.amount_pos.le
  have hraised := h.established.raisedAmount_eq
  have hcredit := h.credited_nonneg
  have htotal := h.total
  have hgiven := hbook.of_donated hdonated rfl
  rw [← hstorage] at hgiven hmiddle
  have hassets : ∀ t, next.storage.getAssetRaised t =
      w.storage.getAssetRaised t + if t = token then amount else 0 := by
    intro t
    rw [hgiven.held, PledgeBook.held_pledge, hbook.held]
  have hpledged : ∀ t, next.storage.pledgedIn t =
      w.storage.pledgedIn t + if t = token then amount else 0 := by
    intro t
    rw [hgiven.pledgedIn_eq, PledgeBook.collected_pledge, hbook.pledgedIn_eq]
  have hbalance : ∀ t, next.ledger.balance t contract =
      w.ledger.balance t contract + if t = token then amount else 0 := by
    intro t
    have hdonor : contract ≠ donor := hself ▸ hdonated.authorised.2.symm
    rw [Ledger.balance_transfer hledger]
    simp [hdonor]
  refine
    { established := hmiddle
      issuers_nodup := h.issuers_nodup
      credited_nonneg := by rwa [credited_unlock]
      total := ?_
      unclaimed := fun d ↦ by rw [hstorage, hasClaimed_of_donated hdonated, h.unclaimed]
      tokens := fun t ↦ ?_ }
  · have hnext : next.storage.getTotalRaised = w.storage.getTotalRaised + amount := by
      rw [hgiven.totalHeld, PledgeBook.totalHeld_pledge, hbook.totalHeld]
    rw [credited_unlock, hnext]
    change found.raisedAmount + amount - _ ≤ _
    linarith
  · rw [credited_unlock, hassets, hpledged, hbalance]
    have howed : (found.withRaised (found.raisedAmount + amount)).raisedAmount - credited v =
        found.raisedAmount - credited v + amount := by
      change found.raisedAmount + amount - _ = _
      ring
    rw [howed]
    change TokenBacked _ _ _ _ (found.raisedAmount + amount)
    by_cases ht : t = token
    · have hmissing := hbook.pledgedIn_sub_le t
      rw [hraised] at hmissing
      rw [if_pos ht]
      exact (h.tokens t).contribute hamount (by linarith)
    · rw [if_neg ht, add_zero, add_zero, add_zero]
      have hheld : w.storage.pledgedIn t ≤ w.ledger.balance t contract := by
        by_cases hlisted : t ∈ found.issuers
        · exact hothers t hlisted ht
        · rw [hbook.pledgedIn_of_unlisted hdonated.found hlisted]
          exact w.ledger.balance_nonneg t contract
      exact tokenBacked_of_le (hbook.pledgedIn_nonneg t) (hbook.getAssetRaised_le_pledgedIn t) hheld
        (by linarith) (add_nonneg h.established.raised_nonneg hamount)

/-- A release that credits what was pending keeps a campaign backed, when the total and every token
still back what is then left. -/
theorem of_credit (h : Backed contract w campaign v) {index : ℕ} {m data : MilestoneData}
    (hm : v[index]? = some m) (hreleased : data.releasedAmount = m.targetAmount)
    (htarget : data.targetAmount = m.targetAmount)
    (hnext : Established next.storage campaign (v.set index data))
    (hdonors : next.storage.donorData = w.storage.donorData)
    (htotal : campaign.raisedAmount - credited v - max (m.targetAmount - m.releasedAmount) 0 ≤
      next.storage.getTotalRaised)
    (htokens : ∀ t, TokenBacked (next.ledger.balance t contract) (next.storage.pledgedIn t)
      (next.storage.getAssetRaised t)
      (campaign.raisedAmount - credited v - max (m.targetAmount - m.releasedAmount) 0)
      campaign.raisedAmount) :
    Backed contract next campaign (v.set index data) := by
  have hcredit := credited_set hm hreleased htarget
  have howed : campaign.raisedAmount - credited (v.set index data) =
      campaign.raisedAmount - credited v - max (m.targetAmount - m.releasedAmount) 0 := by
    rw [hcredit]
    ring
  exact
    { established := hnext
      issuers_nodup := h.issuers_nodup
      credited_nonneg := by rw [hcredit]; exact add_nonneg h.credited_nonneg (le_max_right _ _)
      total := by rwa [howed]
      unclaimed := fun d ↦ by rw [Storage.hasClaimed, hdonors]; exact h.unclaimed d
      tokens := fun t ↦ by rw [howed]; exact htokens t }

/-- Paying a list of payments out of the contract takes at most what it pays in each token. -/
theorem balance_sub_le {recipient : Address} {payments : List (Address × ℤ)}
    {ledger ledger' : Ledger Address Address} (hpayments : ∀ x ∈ payments, 0 ≤ x.2)
    (hledger : Ledger.transferAll contract recipient payments ledger = some ledger') (t : Address) :
    ledger.balance t contract - paidIn t payments ≤ ledger'.balance t contract := by
  have hnonneg := paidIn_nonneg hpayments t
  rw [Ledger.balance_transferAll hledger, if_pos rfl]
  split_ifs <;> linarith

/-- A release in the primary token keeps a campaign backed, when that token has no donations or is
the only one that has. -/
theorem of_released (h : Backed contract w campaign v) (hbook : Mirrors w.storage book) {env : Env}
    {index : ℕ} {recipient : Address} {found : CampaignData} {milestone : MilestoneData}
    {primary : StellarAsset} (hself : env.host.contract = contract)
    (hreleased : ReleaseMilestone.Released env index recipient w next found milestone primary)
    (hsole : ∀ issuer ∈ primary.issuer, ∀ t ∈ campaign.issuers, t ≠ issuer →
      w.storage.pledgedIn issuer = 0 ∨ w.storage.pledgedIn t = 0) :
    Backed contract next campaign
      (v.set index (ReleaseMilestone.releasedRecord env recipient milestone)) := by
  subst hself
  obtain ⟨rfl, hm, hnext⟩ := h.established.of_released hreleased
  obtain ⟨report, -, hstorage⟩ := hreleased.storage
  have hraised := h.established.raised_nonneg
  have hpart := le_max_right (milestone.targetAmount - milestone.releasedAmount) 0
  have hbalance := balance_sub_le ReleaseMilestone.primaryPayment_nonneg hreleased.ledger
  refine h.of_credit hm rfl rfl hnext (by rw [hstorage]) ?_ fun t ↦ ?_
  · have htotal := h.total
    rw [hstorage]
    change _ ≤ w.storage.getTotalRaised
    linarith
  · have hpledged : next.storage.pledgedIn t = w.storage.pledgedIn t := by
      rw [hstorage]
      rfl
    have hrecorded : next.storage.getAssetRaised t = w.storage.getAssetRaised t := by
      rw [hstorage]
      rfl
    rw [hpledged, hrecorded]
    have hother : paidIn t (ReleaseMilestone.primaryPayment w.ledger env.host.contract
        (milestone.targetAmount - milestone.releasedAmount) primary) = 0 →
        TokenBacked (next.ledger.balance t env.host.contract) (w.storage.pledgedIn t)
          (w.storage.getAssetRaised t) (found.raisedAmount - credited v -
            max (milestone.targetAmount - milestone.releasedAmount) 0) found.raisedAmount := by
      intro hnothing
      have hkept := hbalance t
      rw [hnothing, sub_zero] at hkept
      exact (h.tokens t).mono (hbook.pledgedIn_nonneg t) hraised hkept (by linarith)
    by_cases hprimary : primary.issuer = some t
    · refine (h.tokens t).pay_sole hraised (hbook.getAssetRaised_le_pledgedIn t) ?_
        (next.ledger.balance_nonneg t env.host.contract) ?_
      · by_cases hnone : w.storage.pledgedIn t = 0
        · exact .inl hnone
        · right
          rw [← h.established.raisedAmount_eq]
          refine hbook.pledgedIn_eq_raised hreleased.found fun t' ht' hne ↦ ?_
          exact (hsole t hprimary t' ht' hne).resolve_left hnone
      · have hpaid := ReleaseMilestone.paidIn_primaryPayment_le w.ledger env.host.contract
          (milestone.targetAmount - milestone.releasedAmount) primary t
        have hkept := hbalance t
        linarith
    · exact hother (ReleaseMilestone.paidIn_primaryPayment_of_ne hprimary)

/-- A release over all tokens keeps a campaign backed. -/
theorem of_multiReleased (h : Backed contract w campaign v) (hbook : Mirrors w.storage book)
    {env : Env} {index : ℕ} {recipient : Address} {found : CampaignData}
    {milestone : MilestoneData} (hself : env.host.contract = contract)
    (hreleased : MultiAssetRelease.Released env index recipient w next found milestone) :
    Backed contract next campaign
      (v.set index (MultiAssetRelease.releasedRecord milestone milestone.targetAmount)) := by
  subst hself
  obtain ⟨rfl, hm, hnext⟩ := h.established.of_multiReleased hreleased
  obtain ⟨report, -, hstorage⟩ := hreleased.storage
  have hlisted : MultiAssetRelease.ListedOnce w.storage.assetRaised
      (found.acceptedAssets.filterMap StellarAsset.issuer) :=
    fun t _ _ ↦ List.nodup_iff_count_le_one.mp h.issuers_nodup t
  have htotal : 0 < w.storage.getTotalRaised :=
    lt_of_le_of_ne hbook.getTotalRaised_nonneg hreleased.total_ne.symm
  have hpart := le_max_right (milestone.targetAmount - milestone.releasedAmount) 0
  have hleft := h.total
  refine h.of_credit hm rfl rfl hnext (by rw [hstorage]) ?_ fun t ↦ ?_
  · have hpaid : MultiAssetRelease.milestonePaid w.storage found milestone ≤
        max (milestone.targetAmount - milestone.releasedAmount) 0 :=
      MultiAssetRelease.sum_releasePayments_le hlisted.dueOnce hbook.getAssetRaised_nonneg htotal
        (hbook.sum_issuers hreleased.found)
    rw [hstorage]
    change _ ≤ w.storage.getTotalRaised -
      MultiAssetRelease.milestonePaid w.storage found milestone
    linarith
  · have hpledged : next.storage.pledgedIn t = w.storage.pledgedIn t := by
      rw [hstorage]
      rfl
    have hrecorded : next.storage.getAssetRaised t = w.storage.getAssetRaised t -
        paidIn t (MultiAssetRelease.milestonePayments w.storage found milestone) := by
      rw [hstorage]
      exact MultiAssetRelease.deductAll_getD _ _ t
    have hbalance :=
      Ledger.balance_source_transferAll hreleased.recipient_ne.symm hreleased.ledger t
    have hproportion : paidIn t (MultiAssetRelease.milestonePayments w.storage found milestone) *
        w.storage.getTotalRaised ≤ w.storage.getAssetRaised t *
          max (milestone.targetAmount - milestone.releasedAmount) 0 :=
      MultiAssetRelease.paidIn_releasePayments_mul_le hlisted.dueOnce
        (hbook.getAssetRaised_nonneg t) htotal
    have hwithin : paidIn t (MultiAssetRelease.milestonePayments w.storage found milestone) ≤
        max (milestone.targetAmount - milestone.releasedAmount) 0 := by
      refine le_of_mul_le_mul_right ?_ htotal
      have hshare := mul_le_mul_of_nonneg_right (hbook.getAssetRaised_le_total t) hpart
      linarith
    rw [hpledged, hrecorded, hbalance]
    exact (h.tokens t).pay_share h.established.raised_nonneg (hbook.pledgedIn_nonneg t) hpart
      (Ledger.paidIn_le_balance hreleased.recipient_ne.symm hreleased.ledger t) hwithin hproportion
      hleft

end Backed

/-! ### Reserved campaigns -/

theorem Established.unreleased_eq {s : Storage} {campaign : CampaignData} {v : List MilestoneData}
    (h : Established s campaign v) :
    s.unreleased = campaign.raisedAmount - (v.map MilestoneData.releasedAmount).sum := by
  rw [Storage.unreleased, h.raisedAmount_eq, Storage.milestoneCount, h.found, Option.map_some,
    Option.getD_some, CampaignContract.releasedTotal_of_vec h.vec h.sparse, h.count,
    List.take_length]

/-- Once claims have begun: every token backs the pledges of the donors who have not claimed. -/
structure Reserved (contract : Address) (w : World) (campaign : CampaignData)
    (v : List MilestoneData) : Prop where
  established : Established w.storage campaign v
  issuers_nodup : campaign.issuers.Nodup
  tokens : ∀ t, Backs (w.ledger.balance t contract) (w.storage.pendingIn t)
    (max w.storage.unreleased 0) campaign.raisedAmount

/-- A backed campaign can begin to refund. -/
theorem Backed.reserved {contract : Address} {w : World} {campaign : CampaignData}
    {v : List MilestoneData} {book : PledgeBook Address Address}
    (h : Backed contract w campaign v) (hbook : Mirrors w.storage book) :
    Reserved contract w campaign v where
  established := h.established
  issuers_nodup := h.issuers_nodup
  tokens := fun t ↦ by
    have hraised := h.established.raised_nonneg
    have hpending : w.storage.pendingIn t = w.storage.pledgedIn t := by
      rw [Storage.pendingIn, Storage.pledgedIn]
      simp only [h.unclaimed, Bool.false_eq_true, if_false]
    rw [hpending]
    rcases le_total w.storage.unreleased 0 with hdone | hleft
    · rw [max_eq_right hdone]
      exact backs_of_nothing_owed (w.ledger.balance_nonneg t contract) hraised
    · have hcredited := credited_le_sum v
      rw [max_eq_left hleft]
      refine ((h.tokens t).backs hraised).owed_mono (hbook.pledgedIn_nonneg t) ?_
      rw [h.established.unreleased_eq]
      linarith

namespace CampaignContract

/-- A plain refund of a token is worth no more than the pledge's share. -/
theorem refundDue_mul_le {donated numerator raised : ℤ} (hdonated : 0 ≤ donated)
    (hraised : 0 < donated → 0 < raised)
    (hdust : ¬ (0 < donated * numerator ∧ donated * numerator < raised)) :
    refundDue donated numerator raised * raised ≤ donated * max numerator 0 := by
  by_cases hzero : donated = 0
  · simp [hzero, refundDue]
  have hpos : 0 < donated := lt_of_le_of_ne hdonated (Ne.symm hzero)
  have hwhole := hraised hpos
  rcases le_or_gt numerator 0 with hnumerator | hnumerator
  · rw [refundDue_of_nonpos hnumerator hwhole, max_eq_right hnumerator, zero_mul, mul_zero]
  · have hproduct := mul_pos hpos hnumerator
    have hunit : 1 ≤ share donated numerator raised := by
      rw [share, Int.le_ediv_iff_mul_le hwhole, one_mul]
      by_contra hless
      exact hdust ⟨hproduct, not_le.mp hless⟩
    rw [refundDue_of_pos hpos hnumerator hwhole, max_eq_left hunit, max_eq_left hnumerator.le]
    exact share_mul_le hwhole

/-- What a donor with a plain refund is owed is worth no more than the donor's share. -/
theorem Claimable.refundOwed_mul_le {env : Env} {donor : Address} {w : World}
    {campaign : CampaignData} {v : List MilestoneData} {record : DonorRecord} {numerator : ℤ}
    {book : PledgeBook Address Address}
    (h : Claimable env donor w campaign record numerator)
    (hw : Established w.storage campaign v) (hbook : Mirrors w.storage book)
    (hissuers : campaign.issuers.Nodup) (hplain : PlainRefund w.storage donor) (t : Address) :
    w.storage.refundOwed donor t * campaign.raisedAmount ≤
      w.storage.getDonorAssetDonation donor t * max w.storage.unreleased 0 := by
  obtain ⟨-, hrange, hshares⟩ := hplain
  have hpledged := hbook.getDonorAssetDonation_nonneg donor t
  have hnumerator : numerator = w.storage.unreleased := by
    rw [h.numerator_eq_refundNumerator, refundNumerator]
    have hexact : campaign.raisedAmount -
        releasedTotal w.storage.getMilestone campaign.milestoneCount = w.storage.unreleased := by
      rw [hw.unreleased_eq, releasedTotal_of_vec hw.vec hw.sparse, hw.count, List.take_length]
    rw [hexact]
    exact (hrange.eq_bmod (by rw [sub_self]; exact dvd_zero _)).symm
  rw [h.refundOwed_eq, hnumerator]
  by_cases hlisted : t ∈ campaign.issuers
  · rw [List.count_eq_one_of_mem hissuers hlisted, Nat.cast_one, one_mul]
    rw [issuers_of_found hw.found, hw.raisedAmount_eq] at hshares
    exact refundDue_mul_le hpledged (fun hpos ↦ (h.calculable t hlisted hpos).1)
      (hshares t hlisted).2
  · rw [List.count_eq_zero.mpr hlisted, Nat.cast_zero, zero_mul, zero_mul]
    exact mul_nonneg hpledged (le_max_right _ _)

end CampaignContract

namespace Reserved

variable {contract : Address} {overflowChecks : Bool} {w next : World} {campaign : CampaignData}
  {v : List MilestoneData} {book : PledgeBook Address Address}

/-- A step that changes neither pledges nor claims nor the schedule keeps a campaign reserved, as
long as no balance of the contract falls. -/
theorem congr (h : Reserved contract w campaign v) {campaign' : CampaignData}
    (hnext : Established next.storage campaign' v)
    (hissuers : campaign'.issuers = campaign.issuers)
    (hraised : campaign'.raisedAmount = campaign.raisedAmount)
    (hpairs : next.storage.donorAssetDonation = w.storage.donorAssetDonation)
    (hdonors : next.storage.donorData = w.storage.donorData)
    (hheld : ∀ t, w.ledger.balance t contract ≤ next.ledger.balance t contract) :
    Reserved contract next campaign' v where
  established := hnext
  issuers_nodup := hissuers ▸ h.issuers_nodup
  tokens := fun t ↦ by
    have hpending : next.storage.pendingIn t = w.storage.pendingIn t := by
      refine Finset.sum_congr rfl fun d _ ↦ ?_
      rw [Storage.hasClaimed, hdonors, Storage.getDonorAssetDonation, hpairs]
      rfl
    have hunreleased : next.storage.unreleased = w.storage.unreleased := by
      rw [hnext.unreleased_eq, h.established.unreleased_eq, hraised]
    rw [hpending, hunreleased, hraised]
    exact (h.tokens t).held_mono h.established.raised_nonneg (hheld t)

/-- A plain claim leaves what the others need. -/
theorem of_claimed (h : Reserved contract w campaign v) (hbook : Mirrors w.storage book)
    {inv : Invocation} {donor : Address} {found : CampaignData} {record : DonorRecord}
    {numerator : ℤ} (hplain : PlainRefund w.storage donor)
    (hclaimed : CampaignContract.Claimed (inv.env (standardHost contract overflowChecks)) donor w
      next found record numerator) : Reserved contract next campaign v := by
  obtain ⟨rfl, hnext⟩ := h.established.of_claimed hclaimed
  obtain ⟨report, -, hstorage⟩ := hclaimed.storage
  refine ⟨hnext, h.issuers_nodup, fun t ↦ ?_⟩
  have hbalance := ((AfterClaims.refl contract w).claim hclaimed).balance t
  rw [LawfulSingleton.insert_empty_eq, Finset.sum_singleton] at hbalance
  have hpending : next.storage.pendingIn t =
      w.storage.pendingIn t - w.storage.getDonorAssetDonation donor t := by
    have hbefore : w.storage.hasClaimed donor = false := by
      rw [Storage.hasClaimed, hclaimed.donor_found, Option.any_some, hclaimed.not_claimed]
    have hterm : ∀ d, (if next.storage.hasClaimed d then 0
          else next.storage.getDonorAssetDonation d t) =
        (if w.storage.hasClaimed d then 0 else w.storage.getDonorAssetDonation d t) -
          if d = donor then w.storage.getDonorAssetDonation donor t else 0 := by
      intro d
      have hpair : next.storage.getDonorAssetDonation d t =
          w.storage.getDonorAssetDonation d t := by
        rw [hstorage]
        rfl
      by_cases hd : d = donor
      · have hafter : next.storage.hasClaimed d = true := by
          rw [hstorage, hd]
          simp [Storage.hasClaimed]
        rw [if_pos hafter, if_pos hd, hd, if_neg (by simp [hbefore]), sub_self]
      · have hafter : next.storage.hasClaimed d = w.storage.hasClaimed d := by
          rw [hstorage]
          simp [Storage.hasClaimed, Function.update_of_ne hd]
        rw [hafter, if_neg hd, hpair, sub_zero]
    rw [Storage.pendingIn, Finset.sum_congr rfl fun d _ ↦ hterm d, Finset.sum_sub_distrib,
      Finset.sum_ite_eq' Finset.univ donor, if_pos (Finset.mem_univ donor), Storage.pendingIn]
  have hunreleased : next.storage.unreleased = w.storage.unreleased := by
    rw [hnext.unreleased_eq, h.established.unreleased_eq]
  rw [hpending, hunreleased, hbalance]
  exact (h.tokens t).settle
    (hclaimed.refundOwed_mul_le h.established hbook h.issuers_nodup hplain t)

end Reserved

end OrbitChain.Campaign
