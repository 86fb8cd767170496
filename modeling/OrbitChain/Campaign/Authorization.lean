import OrbitChain.Campaign.Administration
import OrbitChain.Campaign.Custody
import OrbitChain.Campaign.RefundBound

/-!
# What a call can change without a signature

`require_auth` stands in different places: before the entrypoint's own code, inside it, after other
checks, and in storage maintenance not at all. What the signatures protect is a frame condition over
all of them. Without the creator's signature a call leaves the deadline, the freeze flag, the block
list and every release as they are, moves the status to `GoalReached` at most, and pays nobody but a
donor who signed for the refund (`WithoutCreator`). Without a donor's signature a call leaves the
donor's records as they are.
-/

set_option autoImplicit false
set_option relaxedAutoImplicit false

namespace OrbitChain.Campaign

open Foundations

/-- What a release writes into the record of a milestone. -/
structure ReleaseRecord where
  released : Bool
  releasedAmount : ℤ
  releasedAt : Option ℕ
  releasedAtLedger : Option ℕ
  releaseTx : Option (BitVec 256)
  releasedTo : Option Address
  deriving DecidableEq

def MilestoneData.releaseRecord (milestone : MilestoneData) : ReleaseRecord where
  released := milestone.status = .released
  releasedAmount := milestone.releasedAmount
  releasedAt := milestone.releasedAt
  releasedAtLedger := milestone.releasedAtLedger
  releaseTx := milestone.releaseTx
  releasedTo := milestone.releasedTo

/-- The release record of a stored milestone. -/
def Storage.releaseRecord (s : Storage) (index : ℕ) : Option ReleaseRecord :=
  (s.getMilestone index).map MilestoneData.releaseRecord

/-- The call refunds a donor who signed for it. -/
def Invocation.RefundsSigner (inv : Invocation) (donor : Address) : Prop :=
  donor ∈ inv.authorisers ∧ inv.call = .claimRefund donor

/-- What a call leaves as it was when the creator did not sign for it. -/
structure WithoutCreator (contract : Address) (inv : Invocation) (w next : World)
    (campaign : CampaignData) : Prop where
  record : ∃ campaign', next.storage.campaignData = some campaign' ∧
    campaign'.endTime = campaign.endTime ∧
    (campaign'.status = campaign.status ∨
      campaign.status = .active ∧ campaign'.status = .goalReached)
  frozen : next.storage.isFrozen = w.storage.isFrozen
  blockedAsset : next.storage.blockedAsset = w.storage.blockedAsset
  releases : ∀ index, next.storage.releaseRecord index = w.storage.releaseRecord index
  payments : ∀ token account,
    next.ledger.sent token contract account = w.ledger.sent token contract account ∨
      inv.RefundsSigner account
  custody : ∀ token, next.ledger.balance token contract = w.ledger.balance token contract ∨
    ∃ donor, inv.RefundsSigner donor

/-- What a call leaves as it was when a donor did not sign for it. -/
structure WithoutDonor (w next : World) (donor : Address) : Prop where
  record : next.storage.donorData donor = w.storage.donorData donor
  donations : next.storage.donorAssetDonation donor = w.storage.donorAssetDonation donor

/-- An unlock writes no release. -/
theorem releaseRecord_unlock (raised : ℤ) (m : MilestoneData) :
    (m.unlock raised).releaseRecord = m.releaseRecord := by
  apply MilestoneData.apply_unlock MilestoneData.releaseRecord
  intro m hlocked
  simp [MilestoneData.releaseRecord, hlocked]

section Steps

variable {host : Host} {inv : Invocation} {w next : World}

/-- A donation moves the status to `GoalReached` at most, and nothing else that the creator's
signature protects. -/
theorem WithoutCreator.of_donated {donor : Address} {amount : ℤ} {asset : AssetInfo}
    {campaign : CampaignData} {token : Address} (hw : Sound w.storage)
    (h : CampaignContract.Donated (inv.env host) donor amount asset w next campaign token) :
    WithoutCreator host.contract inv w next campaign := by
  obtain ⟨v, hv⟩ := hw.established h.found
  refine
    { record := ⟨_, h.campaignData, rfl, ?_⟩
      frozen := by rw [Storage.isFrozen, Storage.isFrozen, h.frozen]
      blockedAsset := h.blockedAsset
      releases := fun index ↦ ?_
      payments := fun token account ↦ .inl (by rw [h.ledger])
      custody := fun token ↦ .inl (by rw [h.ledger]) }
  · rw [CampaignData.withRaised]
    split_ifs with hgoal
    · exact .inr ⟨hgoal.2, rfl⟩
    · exact .inl rfl
  · rw [Storage.releaseRecord, (hv.of_donated h).2.getMilestone, Storage.releaseRecord,
      hv.getMilestone, List.getElem?_map, Option.map_map]
    exact congrArg (Option.map · v[index]?) (funext (releaseRecord_unlock _))

/-- A claim pays the donor who signed for it. -/
theorem WithoutCreator.of_claimed {donor : Address} {campaign : CampaignData}
    {record : DonorRecord} {numerator : ℤ} (hcall : inv.call = .claimRefund donor)
    (h : CampaignContract.Claimed (inv.env host) donor w next campaign record numerator) :
    WithoutCreator host.contract inv w next campaign := by
  obtain ⟨report, -, hstorage⟩ := h.storage
  have hsigned : inv.RefundsSigner donor := ⟨h.authorised.1, hcall⟩
  refine
    { record := ⟨campaign, by rw [hstorage]; exact h.found, rfl, .inl rfl⟩
      frozen := by rw [hstorage]; rfl
      blockedAsset := by rw [hstorage]
      releases := fun index ↦ by rw [hstorage]; rfl
      payments := fun token account ↦ ?_
      custody := fun token ↦ .inr ⟨donor, hsigned⟩ }
  by_cases haccount : donor = account
  · exact .inr (haccount ▸ hsigned)
  · left
    rw [Ledger.sent_transferAll h.ledger, if_neg fun hto ↦ haccount hto.2, add_zero]

/-- Storage maintenance changes nothing. -/
theorem WithoutCreator.of_bumpStorage {campaign : CampaignData} (hcall : inv.call = .bumpStorage)
    (h : CampaignContract.Flagged (inv.env host) inv.call w next campaign) :
    WithoutCreator host.contract inv w next campaign := by
  have hstorage : next.storage = w.storage := by
    rw [h.storage, hcall]
    rfl
  exact
    { record := ⟨campaign, by rw [hstorage, h.found], rfl, .inl rfl⟩
      frozen := by rw [hstorage]
      blockedAsset := by rw [hstorage]
      releases := fun index ↦ by rw [hstorage]
      payments := fun token account ↦ .inl (by rw [h.ledger])
      custody := fun token ↦ .inl (by rw [h.ledger]) }

/-- A successful administrative call other than storage maintenance has the creator's
signature. -/
theorem creator_mem_of_administrative {campaign : CampaignData}
    (hfound : w.storage.campaignData = some campaign)
    (hadministrative : inv.call.isAdministrative = true)
    (h : invoke (inv.env host) inv.call w = .ok next) (hmaintenance : inv.call ≠ .bumpStorage) :
    campaign.creator ∈ inv.authorisers := by
  obtain ⟨found, hflagged | hamended⟩ := CampaignContract.flagged_or_amended hadministrative h
  · obtain rfl : campaign = found := Option.some.inj (hfound.symm.trans hflagged.found)
    exact (hflagged.authorised hmaintenance).1
  · obtain rfl : campaign = found := Option.some.inj (hfound.symm.trans hamended.found)
    exact hamended.authorised.1

/-- What a step leaves without the creator's signature. -/
theorem Step.withoutCreator (h : Step host (.invoke inv) w next)
    (hexec : invoke (inv.env host) inv.call w = .ok next) (hw : Sound w.storage)
    {campaign : CampaignData} (hfound : w.storage.campaignData = some campaign)
    (hcreator : campaign.creator ∉ inv.authorisers) :
    WithoutCreator host.contract inv w next campaign := by
  cases h with
  | initialized _ _ _ h => exact absurd h.fresh (by simp [hfound])
  | donated _ _ h =>
    obtain rfl : campaign = _ := Option.some.inj (hfound.symm.trans h.found)
    exact .of_donated hw h
  | claimed _ hcall h =>
    obtain rfl : campaign = _ := Option.some.inj (hfound.symm.trans h.found)
    exact .of_claimed hcall h
  | released _ _ h | multiReleased _ _ h =>
    obtain rfl : campaign = _ := Option.some.inj (hfound.symm.trans h.found)
    exact absurd h.authorised.1 hcreator
  | administered _ hadministrative _ =>
    by_cases hmaintenance : inv.call = .bumpStorage
    · obtain ⟨found, hflagged | hamended⟩ :=
        CampaignContract.flagged_or_amended hadministrative hexec
      · obtain rfl : campaign = found := Option.some.inj (hfound.symm.trans hflagged.found)
        exact .of_bumpStorage hmaintenance hflagged
      · obtain rfl : campaign = found := Option.some.inj (hfound.symm.trans hamended.found)
        exact absurd hamended.authorised.1 hcreator
    · exact absurd (creator_mem_of_administrative hfound hadministrative hexec hmaintenance)
        hcreator

/-- What a step leaves without a donor's signature. -/
theorem Step.withoutDonor (h : Step host (.invoke inv) w next) {donor : Address}
    (hdonor : donor ∉ inv.authorisers) : WithoutDonor w next donor := by
  have hother {signer : Address} (hsigned : (inv.env host).Authorised signer) : donor ≠ signer := by
    rintro rfl
    exact hdonor hsigned.1
  have hkept (hdonation : inv.call.isDonation = false) :
      next.storage.donorAssetDonation = w.storage.donorAssetDonation :=
    h.donorAssetDonation_eq hdonation
  by_cases hdonation : inv.call.isDonation = true
  · cases hcall : inv.call with
    | donate giver amount asset =>
      obtain ⟨campaign, token, hdonated⟩ := h.of_donate hcall
      obtain ⟨record, -, hrecords⟩ := hdonated.donorData
      have hne := hother hdonated.authorised
      exact
        { record := by rw [hrecords, Function.update_of_ne hne]
          donations := by rw [hdonated.donorAssetDonation, Function.update_of_ne hne] }
    | _ =>
      rw [hcall] at hdonation
      exact absurd hdonation Bool.false_ne_true
  · have hdonation := eq_false_of_ne_true hdonation
    by_cases hrefund : inv.call.isRefund = true
    · obtain ⟨_, claimant, campaign, record, numerator, hinv, -, hclaimed⟩ :=
        h.claimed_of_isRefund hrefund
      obtain rfl := Action.invoke.inj hinv
      obtain ⟨report, -, hstorage⟩ := hclaimed.storage
      have hne := hother hclaimed.authorised
      exact
        { record := by rw [hstorage]; exact Function.update_of_ne hne _ _
          donations := by rw [hkept hdonation] }
    · exact
        { record := by rw [h.donorData_eq hdonation (eq_false_of_ne_true hrefund)]
          donations := by rw [hkept hdonation] }

end Steps

/-- The authorisation frame: after initialization, a successful call leaves everything that the
creator's signature protects unless the creator signed, and everything of a donor unless the donor
did. -/
theorem authorisation_frame {contract : Address} {overflowChecks : Bool}
    {ledger : Ledger Address Address} {wasmHash : BitVec 256}
    {history : List (Receipt Action World)} {w : World}
    (run : CampaignRun contract overflowChecks ledger wasmHash history w)
    {campaign : CampaignData} (hfound : w.storage.campaignData = some campaign)
    {inv : Invocation} {next : World}
    (hexec : (chain (standardHost contract overflowChecks)).exec (.invoke inv) w = .ok next) :
    (campaign.creator ∉ inv.authorisers → WithoutCreator contract inv w next campaign) ∧
      ∀ donor, donor ∉ inv.authorisers → WithoutDonor w next donor := by
  have hstep := step_of_exec (CampaignRun.untouched run) hexec
  constructor
  · intro hcreator
    exact hstep.withoutCreator (exec_invoke_eq_ok_iff.mp hexec).2 (CampaignRun.sound run) hfound
      hcreator
  · intro donor hdonor
    exact hstep.withoutDonor hdonor

theorem authorisation_frame_firstDonation :
    ∃ r ∈ Sample.history Sample.firstDonation, ∃ campaign inv, r.label = .invoke inv ∧
      inv.call.isDonation = true ∧ WithoutCreator Sample.contract inv r.before r.after campaign ∧
      WithoutDonor r.before r.after Sample.secondDonor := by
  have hgiven : (Sample.history Sample.firstDonation).head?.any (fun r ↦
      r.label = Sample.giving Sample.donor 100 Sample.token ∧
        r.before.storage.campaignData.any fun campaign ↦ campaign.creator = Sample.creator) =
      true := by decide +kernel
  simp only [Option.any_eq_true, decide_eq_true_eq] at hgiven
  obtain ⟨r, hhead, hlabel, campaign, hfound, hcreator⟩ := hgiven
  obtain ⟨earlier, hhistory⟩ := List.head?_eq_some_iff.mp hhead
  have hrun := Sample.run Sample.firstDonation
  rw [hhistory, ← List.nil_append (r :: earlier)] at hrun
  obtain ⟨hearlier, hexec, -⟩ := hrun.split
  rw [hlabel] at hexec
  have hframe := authorisation_frame hearlier hfound hexec
  refine ⟨r, by rw [hhistory]; exact List.mem_cons_self, campaign, _, hlabel, rfl,
    hframe.1 ?_, hframe.2 Sample.secondDonor (by decide)⟩
  rw [hcreator]
  decide

end OrbitChain.Campaign
