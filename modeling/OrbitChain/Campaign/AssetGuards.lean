import OrbitChain.Campaign.Contract

/-!
# The guards on the donated asset

A donated asset passes three readings of the accepted list: the early guard of `donate`, the
public view, and the resolution to a token contract that `donate` makes once the raised amount is
written. For a Stellar address all three look for an entry with that issuer. For the native asset
the first two look for any entry with code `XLM` and an issuer, and the resolution takes the first
entry with code `XLM` and then its issuer.

The readings agree unless the first such entry has no issuer and a later one has
(`guards_agree_iff`). No other step of `donate` fails for the asset (`donate_ne_assetNotAccepted`).
-/

set_option autoImplicit false
set_option relaxedAutoImplicit false

namespace OrbitChain.Campaign

open Foundations

/-- When the first entry with code `XLM` has no issuer, no entry with that code has one. -/
def FirstNativeDecides (campaign : CampaignData) : Prop :=
  ∀ a ∈ campaign.acceptedAssets.find? fun a ↦ a.assetCode = "XLM", a.issuer = none →
    ∀ b ∈ campaign.acceptedAssets, b.assetCode = "XLM" → b.issuer = none

instance (campaign : CampaignData) : Decidable (FirstNativeDecides campaign) :=
  inferInstanceAs (Decidable (∀ _ ∈ _, _ → ∀ _ ∈ _, _ → _))

/-! ### The readings of the accepted list -/

section Readings

variable {s : Storage} {campaign : CampaignData} {asset : AssetInfo}

/-- The early guard passes for the listed assets. -/
theorem assertAssetIsAccepted_eq_ok_iff {u : Unit} :
    assertAssetIsAccepted asset campaign = .ok u ↔ isAssetInList asset campaign = true := by
  simp [assertAssetIsAccepted]

/-- The view reads the list of the stored campaign. -/
theorem isAssetAccepted_of_campaign (h : s.getCampaign = some campaign) :
    isAssetAccepted s asset = isAssetInList asset campaign := by
  rw [isAssetAccepted, h]

/-- A Stellar address resolves when it is listed. -/
theorem stellar_resolves_iff {address : Address} :
    (∃ token, getTokenAddressForAsset (.stellar address) campaign = .ok token) ↔
      isAssetInList (.stellar address) campaign = true := by
  simp only [getTokenAddressForAsset, bind_eq_ok_iff, failIf_eq_ok_iff, not_not, pure_eq_ok_iff,
    isAssetInList]
  constructor
  · rintro ⟨_, _, hlisted, -⟩
    exact hlisted
  · intro hlisted
    exact ⟨_, (), hlisted, rfl⟩

/-- The native asset resolves when the first entry with code `XLM` has an issuer. -/
theorem native_resolves_iff :
    (∃ token, getTokenAddressForAsset .native campaign = .ok token) ↔
      ∃ a ∈ campaign.acceptedAssets.find? fun a ↦ a.assetCode = "XLM", a.issuer ≠ none := by
  simp only [getTokenAddressForAsset, orFail_eq_ok_iff, Option.bind_eq_some_iff, Option.mem_def,
    Option.ne_none_iff_exists']
  constructor
  · rintro ⟨token, a, hfirst, hissuer⟩
    exact ⟨a, hfirst, token, hissuer⟩
  · rintro ⟨a, hfirst, token, hissuer⟩
    exact ⟨token, a, hfirst, hissuer⟩

/-- The native asset is listed when some entry with code `XLM` has an issuer. -/
theorem native_listed_iff :
    isAssetInList .native campaign = true ↔
      ∃ b ∈ campaign.acceptedAssets, b.assetCode = "XLM" ∧ b.issuer ≠ none := by
  simp [isAssetInList, Option.isSome_iff_ne_none]

/-- A listed asset is one that resolves, as long as the first native entry decides. -/
theorem listed_iff_resolves_iff :
    (isAssetInList asset campaign = true ↔
        ∃ token, getTokenAddressForAsset asset campaign = .ok token) ↔
      (asset = .native → FirstNativeDecides campaign) := by
  cases asset with
  | stellar address => simp [stellar_resolves_iff]
  | native =>
    rw [native_listed_iff, native_resolves_iff]
    simp only [true_implies]
    constructor
    · intro hagree a hfirst hissuer b hb hcode
      by_contra hsome
      obtain ⟨a', hfirst', hissuer'⟩ := hagree.mp ⟨b, hb, hcode, hsome⟩
      obtain rfl : a = a' := Option.mem_unique hfirst hfirst'
      exact hissuer' hissuer
    · intro hdecides
      constructor
      · rintro ⟨b, hb, hcode, hissuer⟩
        have hfound : (campaign.acceptedAssets.find? fun a ↦ a.assetCode = "XLM").isSome := by
          rw [List.find?_isSome]
          exact ⟨b, hb, by simpa using hcode⟩
        obtain ⟨a, hfirst⟩ := Option.isSome_iff_exists.mp hfound
        exact ⟨a, hfirst, fun hnone ↦ hissuer (hdecides a hfirst hnone b hb hcode)⟩
      · rintro ⟨a, hfirst, hissuer⟩
        have hcode : a.assetCode = "XLM" := by simpa using List.find?_some hfirst
        exact ⟨a, List.mem_of_find?_eq_some hfirst, hcode, hissuer⟩

end Readings

/-! ### Where a donation fails for its asset -/

section Failures

variable {s : Storage} {amount : ℤ}

theorem acquireLock_ne_assetNotAccepted :
    s.acquireLock ≠ .error (.contract .assetNotAccepted) :=
  bind_ne_error (failIf_ne_error (by decide)) fun _ _ ↦ pure_ne_error _ _

theorem setTotalRaised_ne_assetNotAccepted :
    s.setTotalRaised amount ≠ .error (.contract .assetNotAccepted) :=
  bind_ne_error (failIf_ne_error (by decide)) fun _ _ ↦ pure_ne_error _ _

theorem incrementAssetRaised_ne_assetNotAccepted {token : Address} :
    s.incrementAssetRaised token amount ≠ .error (.contract .assetNotAccepted) := by
  apply bind_ne_error (failIf_ne_error (by decide))
  intro _ _
  apply bind_ne_error (orFail_ne_error (by decide))
  intro _ _
  exact bind_ne_error (failIf_ne_error (by decide)) fun _ _ ↦ pure_ne_error _ _

theorem incrementDonorAssetDonation_ne_assetNotAccepted {donor token : Address} :
    s.incrementDonorAssetDonation donor token amount ≠ .error (.contract .assetNotAccepted) :=
  bind_ne_error (orFail_ne_error (by decide)) fun _ _ ↦ pure_ne_error _ _

theorem applyDonation_ne_assetNotAccepted {record : DonorRecord} {time ledger : ℕ}
    {asset : AssetInfo} :
    record.applyDonation amount time ledger asset ≠ .error (.contract .assetNotAccepted) := by
  apply bind_ne_error (orFail_ne_error (by decide))
  intro _ _
  exact bind_ne_error (orFail_ne_error (by decide)) fun _ _ ↦ pure_ne_error _ _

theorem countDonation_ne_assetNotAccepted {isNewDonor : Bool} :
    CampaignContract.countDonation s isNewDonor ≠ .error (.contract .assetNotAccepted) := by
  apply bind_ne_error
  · exact bind_ne_error (orFail_ne_error (by decide)) fun _ _ ↦ pure_ne_error _ _
  · intro _ _
    split_ifs
    · exact bind_ne_error (orFail_ne_error (by decide)) fun _ _ ↦ pure_ne_error _ _
    · exact pure_ne_error _ _

theorem refreshReportCache_ne_assetNotAccepted :
    refreshReportCache s ≠ .error (.contract .assetNotAccepted) := by
  unfold refreshReportCache
  split
  · apply bind_ne_error
    · apply bind_ne_error
      · unfold progressBps
        split_ifs
        · exact pure_ne_error _ _
        · exact pure_ne_error _ _
        · exact bind_ne_error (orFail_ne_error (by decide)) fun _ _ ↦ pure_ne_error _ _
      · exact fun _ _ ↦ pure_ne_error _ _
    · exact fun _ _ ↦ pure_ne_error _ _
  · exact pure_ne_error _ _

end Failures

/-- A donation is rejected for its asset by the guard or by the resolution, and by nothing
else. -/
theorem donate_ne_assetNotAccepted {env : Env} {donor : Address} {amount : ℤ}
    {asset : AssetInfo} {w : World} {campaign : CampaignData}
    (hfound : w.storage.getCampaign = some campaign)
    (hlisted : isAssetInList asset campaign = true) {token : Address}
    (hresolves : getTokenAddressForAsset asset campaign = .ok token) :
    CampaignContract.donate env donor amount asset w ≠ .error (.contract .assetNotAccepted) := by
  unfold CampaignContract.donate
  apply bind_ne_error acquireLock_ne_assetNotAccepted
  intro s hs
  obtain ⟨-, rfl⟩ := Storage.acquireLock_eq_ok_iff.mp hs
  have hguard := (assertAssetIsAccepted_eq_ok_iff (u := ())).mpr hlisted
  change orFail (w.storage.getCampaign) _ >>= _ ≠ _
  rw [hfound]
  change assertAssetIsAccepted asset campaign >>= _ ≠ _
  rw [hguard, ok_bind]
  apply bind_ne_error (failIf_ne_error (by decide))
  intro _ _
  apply bind_ne_error (failIf_ne_error (by decide))
  intro _ _
  apply bind_ne_error (failIf_ne_error (by decide))
  intro _ _
  apply bind_ne_error (failIf_ne_error (by decide))
  intro _ _
  apply bind_ne_error (orFail_ne_error (by decide))
  intro raised _
  apply bind_ne_error (orFail_ne_error (by decide))
  intro _ _
  apply bind_ne_error setTotalRaised_ne_assetNotAccepted
  intro _ _
  -- The resolution reads the accepted list, which the new raised amount leaves as it was.
  have hnext : getTokenAddressForAsset asset (campaign.withRaised raised) = .ok token := hresolves
  rw [hnext, ok_bind]
  apply bind_ne_error (failIf_ne_error (by decide))
  intro _ _
  apply bind_ne_error incrementAssetRaised_ne_assetNotAccepted
  intro _ _
  apply bind_ne_error incrementDonorAssetDonation_ne_assetNotAccepted
  intro _ _
  apply bind_ne_error applyDonation_ne_assetNotAccepted
  intro _ _
  apply bind_ne_error countDonation_ne_assetNotAccepted
  intro _ _
  apply bind_ne_error refreshReportCache_ne_assetNotAccepted
  intro _ _
  exact pure_ne_error _ _

/-! ### When the guards agree -/

/-- The three readings of an asset agree, and `donate` does not reject an asset that the view
reports as accepted for its asset. -/
structure GuardsAgree (w : World) (campaign : CampaignData) (asset : AssetInfo) : Prop where
  guard_iff_view : assertAssetIsAccepted asset campaign = .ok () ↔
    isAssetAccepted w.storage asset = true
  view_iff_resolves : isAssetAccepted w.storage asset = true ↔
    ∃ token, getTokenAddressForAsset asset campaign = .ok token
  donate_ne : isAssetAccepted w.storage asset = true → ∀ env donor amount,
    CampaignContract.donate env donor amount asset w ≠ .error (.contract .assetNotAccepted)

/-- The guards agree on every Stellar address, and on the native asset exactly when the first
entry with code `XLM` decides for all of them. -/
theorem guards_agree_iff {w : World} {campaign : CampaignData}
    (hfound : w.storage.getCampaign = some campaign) (asset : AssetInfo) :
    GuardsAgree w campaign asset ↔ (asset = .native → FirstNativeDecides campaign) := by
  have hview : isAssetAccepted w.storage asset = isAssetInList asset campaign :=
    isAssetAccepted_of_campaign hfound
  rw [← listed_iff_resolves_iff]
  constructor
  · intro hagree
    rw [← hview]
    exact hagree.view_iff_resolves
  · intro hresolves
    refine ⟨?_, ?_, ?_⟩
    · rw [hview]
      exact assertAssetIsAccepted_eq_ok_iff
    · rw [hview]
      exact hresolves
    · intro haccepted env donor amount
      rw [hview] at haccepted
      obtain ⟨token, htoken⟩ := hresolves.mp haccepted
      exact donate_ne_assetNotAccepted hfound haccepted htoken

section Examples

open Sample

/-- Two entries for the native asset, the first without an issuer. -/
def doubleListing : List StellarAsset := [⟨"XLM", none⟩, ⟨"XLM", some token⟩]

/-- A campaign whose native entry has its issuer. -/
theorem guards_agree_iff_singleListing :
    ∃ campaign,
      (reached [opening [⟨"XLM", some token⟩] [milestone 100] 100]).storage.getCampaign =
        some campaign ∧
      GuardsAgree (reached [opening [⟨"XLM", some token⟩] [milestone 100] 100]) campaign
        .native := by
  refine ⟨_, rfl, (guards_agree_iff rfl .native).mpr ?_⟩
  decide +kernel

/-- An initialized campaign with two native entries: the view and the early guard accept the
native asset, it does not resolve, and a donation of it is rejected for its asset. -/
theorem guards_disagree_doubleListing :
    (history [opening doubleListing [milestone 100] 100]).length = 1 ∧
    ∃ campaign,
      (reached [opening doubleListing [milestone 100] 100]).storage.getCampaign =
        some campaign ∧
      isAssetAccepted (reached [opening doubleListing [milestone 100] 100]).storage .native =
        true ∧
      assertAssetIsAccepted .native campaign = .ok () ∧
      getTokenAddressForAsset .native campaign = .error (.contract .assetNotAccepted) ∧
      CampaignContract.donate
          ((⟨20, 2, [donor], .donate donor 5 .native⟩ : Invocation).env
            (standardHost contract true))
          donor 5 .native (reached [opening doubleListing [milestone 100] 100]) =
        .error (.contract .assetNotAccepted) ∧
      ¬ GuardsAgree (reached [opening doubleListing [milestone 100] 100]) campaign .native := by
  refine ⟨by decide +kernel, _, rfl, by decide +kernel, rfl, rfl, rfl, ?_⟩
  intro hagree
  obtain ⟨token, htoken⟩ := hagree.view_iff_resolves.mp (by decide +kernel)
  exact ne_error_of_eq_ok htoken _ rfl

end Examples

end OrbitChain.Campaign
