import OrbitChain.Campaign.Backing

/-!
# Solvency of refunds

A step is `KeepsSolvent` when it keeps the proportions in which the tokens were donated. In a run
of such steps that releases nothing after the first claim, the campaign is backed up to the first
claim and reserved from it on, and all donors who have not claimed can be refunded in any order,
as long as their refunds are plain (`refund_solvent`). The anti-dust floor breaks this: it pays a
unit that nothing backs (`refund_insolvent`).
-/

set_option autoImplicit false
set_option relaxedAutoImplicit false

namespace OrbitChain.Campaign

open Foundations

/-- The step keeps the proportions of the tokens: a schedule starts without negative credit and
lists every token once; while a token is donated, the contract holds all that was donated in the
others; a release in the primary token meets no donations in it or none in others; and a refund is
plain. -/
def KeepsSolvent (contract : Address) (r : Receipt Action World) : Prop :=
  match r.label with
  | .invoke ⟨_, _, _, .initializeCampaign _ _ _ acceptedAssets milestones _⟩ =>
    (acceptedAssets.filterMap StellarAsset.issuer).Nodup ∧ 0 ≤ credited milestones
  | .invoke ⟨_, _, _, .donate _ _ asset⟩ =>
    ∀ t ∈ r.before.storage.issuers, r.before.storage.resolvedToken asset ≠ some t →
      r.before.storage.pledgedIn t ≤ r.before.ledger.balance t contract
  | .invoke ⟨_, _, _, .releaseMilestone _ _⟩ =>
    ∀ primary ∈ r.before.storage.primaryIssuer, ∀ t ∈ r.before.storage.issuers, t ≠ primary →
      r.before.storage.pledgedIn primary = 0 ∨ r.before.storage.pledgedIn t = 0
  | .invoke ⟨_, _, _, .claimRefund donor⟩ => PlainRefund r.before.storage donor
  | _ => True

instance (contract : Address) (r : Receipt Action World) : Decidable (KeepsSolvent contract r) :=
  match r with
  | ⟨.transfer _ _ _ _, _, _⟩ => inferInstanceAs (Decidable True)
  | ⟨.invoke ⟨_, _, _, call⟩, before, _⟩ =>
    match call with
    | .initializeCampaign _ _ _ _ _ _ => inferInstanceAs (Decidable (_ ∧ _))
    | .donate _ _ _ => List.decidableBAll _ _
    | .releaseMilestone _ _ =>
      have : DecidablePred fun primary ↦ ∀ t ∈ before.storage.issuers, t ≠ primary →
          before.storage.pledgedIn primary = 0 ∨ before.storage.pledgedIn t = 0 :=
        fun _ ↦ List.decidableBAll _ _
      Option.decidableForallMem _
    | .claimRefund donor => inferInstanceAs (Decidable (PlainRefund before.storage donor))
    | .endCampaign | .cancelCampaign | .extendDeadline _ | .releaseMilestoneMultiAsset _ _
    | .upgrade _ | .freeze | .unfreeze | .blockAsset _ | .unblockAsset _ | .bumpStorage =>
      inferInstanceAs (Decidable True)

/-! ### What a step keeps -/

section Steps

variable {contract : Address} {overflowChecks : Bool} {action : Action} {w next : World}
  {book : PledgeBook Address Address}

/-- A transfer between token holders takes nothing from the contract. -/
theorem balance_le_of_transfer {token source target : Address} {amount : ℤ}
    (hsource : source ≠ contract)
    (hledger : w.ledger.transfer token source target amount = some next.ledger) (t : Address) :
    w.ledger.balance t contract ≤ next.ledger.balance t contract := by
  have hamount := (Ledger.transfer_bounds hledger).1
  rw [Ledger.balance_transfer hledger, if_neg fun hboth ↦ hsource hboth.2.symm, sub_zero]
  split_ifs <;> linarith

/-- Up to the first claim, a step that keeps the proportions keeps a campaign backed. -/
theorem SettledStep.backed
    (h : SettledStep (standardHost contract overflowChecks) action w next)
    (hbook : Mirrors w.storage book) (hkeeps : KeepsSolvent contract ⟨action, w, next⟩)
    (hrefund : action.invokes Call.isRefund = false)
    (hw : w.storage = .empty ∨ ∃ campaign v, Backed contract w campaign v) :
    next.storage = .empty ∨ ∃ campaign v, Backed contract next campaign v := by
  have hbacked : ∀ campaign, w.storage.campaignData = some campaign →
      ∃ v, Backed contract w campaign v := by
    intro campaign hfound
    rcases hw with hempty | ⟨other, v, hw⟩
    · rw [hempty] at hfound
      exact absurd hfound (by simp [Storage.empty])
    · obtain rfl := hw.established.campaign_eq hfound
      exact ⟨v, hw⟩
  cases h with
  | @donated inv _ middle _ donor amount asset campaign token hcall _ h hledger hstorage =>
    obtain ⟨timestamp, sequence, authorisers, call⟩ := inv
    obtain rfl : call = _ := hcall
    obtain ⟨v, hw⟩ := hbacked campaign h.found
    refine .inr ⟨_, _, hw.of_donated hbook rfl h hledger hstorage fun t ht hne ↦ ?_⟩
    refine hkeeps t (by rwa [issuers_of_found h.found]) ?_
    rw [resolvedToken_eq_some h.found h.resolved]
    exact fun hsame ↦ hne (Option.some.inj hsame).symm
  | other hother h =>
    cases h with
    | transferred hsource hledger hstorage _ =>
      rcases hw with hempty | ⟨campaign, v, hw⟩
      · exact .inl (hstorage.trans hempty)
      · exact .inr ⟨campaign, v, hw.congr hbook (hstorage ▸ hw.established) rfl rfl
          (by rw [hstorage]) (by rw [hstorage]) (by rw [hstorage]) (by rw [hstorage])
          (balance_le_of_transfer hsource hledger)⟩
    | @initialized inv _ _ _ _ _ _ _ _ _ hcall hempty h =>
      obtain ⟨timestamp, sequence, authorisers, call⟩ := inv
      obtain rfl : call = _ := hcall
      exact .inr ⟨_, _, .of_initialized h hempty hkeeps.1 hkeeps.2⟩
    | donated _ hcall _ => exact absurd hcall (hother _ _ _ _ rfl)
    | claimed _ hcall _ =>
      rw [Action.invokes, hcall] at hrefund
      exact absurd hrefund.symm Bool.false_ne_true
    | @released inv _ _ _ _ campaign _ primary _ hcall h =>
      obtain ⟨timestamp, sequence, authorisers, call⟩ := inv
      obtain rfl : call = _ := hcall
      obtain ⟨v, hw⟩ := hbacked campaign h.found
      have hprimary : w.storage.primaryIssuer = primary.issuer := by
        rw [Storage.primaryIssuer, h.found, Option.bind_some, h.primary_found, Option.bind_some]
      refine .inr ⟨_, _, hw.of_released hbook rfl h fun issuer hissuer t ht hne ↦ ?_⟩
      exact hkeeps issuer (by rwa [hprimary]) t (by rwa [issuers_of_found h.found]) hne
    | @multiReleased _ _ _ _ _ campaign _ _ _ h =>
      obtain ⟨v, hw⟩ := hbacked campaign h.found
      exact .inr ⟨_, _, hw.of_multiReleased hbook rfl h⟩
    | @administered _ _ _ campaign _ _ _ _ h =>
      obtain ⟨v, hw⟩ := hbacked campaign h.found
      obtain ⟨frozen, blocked, report, hstorage⟩ := h.storage
      exact .inr ⟨_, v, hw.congr hbook (hw.established.of_administered h).2 rfl rfl
        (by rw [hstorage]) (by rw [hstorage]) (by rw [hstorage]) (by rw [hstorage])
        fun t ↦ by rw [h.ledger]⟩

/-- From the first claim on, plain claims and everything but releases keep a campaign reserved. -/
theorem SettledStep.reserved
    (h : SettledStep (standardHost contract overflowChecks) action w next)
    (hbook : Mirrors w.storage book) (hkeeps : KeepsSolvent contract ⟨action, w, next⟩)
    (hrelease : action.invokes Call.isRelease = false) (hconcluded : Concluded w.storage)
    (hw : ∃ campaign v, Reserved contract w campaign v) :
    ∃ campaign v, Reserved contract next campaign v := by
  obtain ⟨campaign, v, hw⟩ := hw
  have hcampaign : w.storage.campaignData ≠ none := by simp [hw.established.found]
  cases h with
  | donated _ _ h _ _ =>
    obtain ⟨other, hfound, hterminal⟩ := hconcluded
    obtain rfl : other = _ := Option.some.inj (hfound.symm.trans h.found)
    exact absurd (h.isTerminal_eq.symm.trans hterminal) Bool.false_ne_true
  | other hother h =>
    cases h with
    | transferred hsource hledger hstorage _ =>
      exact ⟨campaign, v, hw.congr (hstorage ▸ hw.established) rfl rfl (by rw [hstorage])
        (by rw [hstorage]) (balance_le_of_transfer hsource hledger)⟩
    | initialized _ _ _ h => exact absurd h.fresh hcampaign
    | donated _ hcall _ => exact absurd hcall (hother _ _ _ _ rfl)
    | @claimed inv _ _ _ _ _ _ _ hcall h =>
      obtain ⟨timestamp, sequence, authorisers, call⟩ := inv
      obtain rfl : call = _ := hcall
      exact ⟨campaign, v, hw.of_claimed hbook hkeeps h⟩
    | released _ hcall _ | multiReleased _ hcall _ =>
      rw [Action.invokes, hcall] at hrelease
      exact absurd hrelease.symm Bool.false_ne_true
    | administered _ _ h =>
      obtain ⟨rfl, hnext⟩ := hw.established.of_administered h
      obtain ⟨frozen, blocked, report, hstorage⟩ := h.storage
      exact ⟨_, v, hw.congr hnext rfl rfl (by rw [hstorage]) (by rw [hstorage])
        fun t ↦ by rw [h.ledger]⟩

/-- A concluded campaign stays concluded. -/
theorem SettledStep.concluded
    (h : SettledStep (standardHost contract overflowChecks) action w next)
    (hw : Concluded w.storage) : Concluded next.storage := by
  cases h with
  | donated _ _ h _ _ =>
    obtain ⟨other, hfound, hterminal⟩ := hw
    obtain rfl : other = _ := Option.some.inj (hfound.symm.trans h.found)
    exact absurd (h.isTerminal_eq.symm.trans hterminal) Bool.false_ne_true
  | other _ h => exact h.concluded hw

/-- A settled claim is a claim. -/
theorem SettledStep.step_of_isRefund
    (h : SettledStep (standardHost contract overflowChecks) action w next)
    (hrefund : action.invokes Call.isRefund = true) :
    Step (standardHost contract overflowChecks) action w next := by
  cases h with
  | donated hcall _ _ _ _ =>
    rw [Action.invokes, hcall] at hrefund
    exact absurd hrefund Bool.false_ne_true
  | other _ h => exact h

end Steps

/-! ### What a run keeps -/

/-- Nothing is released after the first claim. -/
def ReleasesFirst (history : List (Receipt Action World)) : Prop :=
  history.Pairwise fun r earlier ↦
    earlier.label.invokes Call.isRefund = true → r.label.invokes Call.isRelease = false

instance (history : List (Receipt Action World)) : Decidable (ReleasesFirst history) :=
  inferInstanceAs (Decidable (List.Pairwise _ _))

section Runs

variable {contract : Address} {overflowChecks : Bool} {ledger : Ledger Address Address}
  {wasmHash : BitVec 256} {history : List (Receipt Action World)} {w : World}

theorem SettledRun.mirrors
    (run : SettledRun contract overflowChecks ledger wasmHash history w) :
    ∃ book, Mirrors w.storage book := by
  obtain ⟨steps, hrun⟩ := SettledRun.exists_campaignRun run
  obtain ⟨book, hbook, -⟩ := CampaignRun.mirrors hrun
  exact ⟨book, hbook⟩

/-- A run that keeps the proportions is backed up to the first claim and reserved from it on. -/
theorem SettledRun.backed_or_reserved
    (run : SettledRun contract overflowChecks ledger wasmHash history w)
    (hkeeps : ∀ r ∈ history, KeepsSolvent contract r) (hfirst : ReleasesFirst history) :
    ((∀ r ∈ history, r.label.invokes Call.isRefund = false) →
      w.storage = .empty ∨ ∃ campaign v, Backed contract w campaign v) ∧
    ((∃ r ∈ history, r.label.invokes Call.isRefund = true) →
      Concluded w.storage ∧ ∃ campaign v, Reserved contract w campaign v) := by
  refine SettledRun.induction
    (I := fun history w ↦ (∀ r ∈ history, KeepsSolvent contract r) → ReleasesFirst history →
      ((∀ r ∈ history, r.label.invokes Call.isRefund = false) →
        w.storage = .empty ∨ ∃ campaign v, Backed contract w campaign v) ∧
      ((∃ r ∈ history, r.label.invokes Call.isRefund = true) →
        Concluded w.storage ∧ ∃ campaign v, Reserved contract w campaign v))
    (fun _ _ ↦ ⟨fun _ ↦ .inl rfl, by simp⟩) ?_ run hkeeps hfirst
  intro history w action next prior ih hstep hkeeps hfirst
  obtain ⟨hhead, hrest⟩ := List.pairwise_cons.mp hfirst
  obtain ⟨hbacked, hreserved⟩ := ih (fun r hr ↦ hkeeps r (List.mem_cons_of_mem _ hr)) hrest
  obtain ⟨book, hbook⟩ := SettledRun.mirrors prior
  have hkeep := hkeeps _ List.mem_cons_self
  constructor
  · intro hnone
    exact hstep.backed hbook hkeep (hnone _ List.mem_cons_self)
      (hbacked fun r hr ↦ hnone r (List.mem_cons_of_mem _ hr))
  · rintro ⟨r, hr, hrefund⟩
    by_cases hearlier : ∃ r ∈ history, r.label.invokes Call.isRefund = true
    · obtain ⟨hconcluded, hw⟩ := hreserved hearlier
      obtain ⟨first, hmem, hclaim⟩ := hearlier
      have hrelease := hhead first hmem hclaim
      exact ⟨hstep.concluded hconcluded, hstep.reserved hbook hkeep hrelease hconcluded hw⟩
    · -- the first claim
      have hnone : ∀ r ∈ history, r.label.invokes Call.isRefund = false :=
        fun r hr ↦ eq_false_of_ne_true fun hclaim ↦ hearlier ⟨r, hr, hclaim⟩
      obtain rfl : r = ⟨action, w, next⟩ := by
        rcases List.mem_cons.mp hr with hsame | hr
        · exact hsame
        · exact absurd ⟨r, hr, hrefund⟩ hearlier
      have hclaim := hstep.step_of_isRefund hrefund
      have hconcluded := hclaim.concluded_of_isRefund hrefund
      have hrelease : action.invokes Call.isRelease = false := by
        obtain ⟨inv, donor, -, -, -, rfl, hcall, -⟩ := hclaim.claimed_of_isRefund hrefund
        exact Action.invokes_of_call hcall _
      rcases hbacked hnone with hempty | ⟨campaign, v, hw⟩
      · obtain ⟨campaign, hfound, -⟩ := hconcluded
        rw [hempty] at hfound
        exact absurd hfound (by simp [Storage.empty])
      · exact ⟨hclaim.concluded hconcluded,
          hstep.reserved hbook hkeep hrelease hconcluded ⟨campaign, v, hw.reserved hbook⟩⟩

end Runs

/-- The donors of a history. -/
def contributors (history : List (Receipt Action World)) : List Address :=
  history.filterMap fun r ↦
    match r.label with
    | .invoke ⟨_, _, _, .donate donor _ _⟩ => some donor
    | _ => none

/-- Whoever has a record donated. -/
theorem SettledRun.mem_contributors {contract : Address} {overflowChecks : Bool}
    {ledger : Ledger Address Address} {wasmHash : BitVec 256}
    {history : List (Receipt Action World)} {w : World}
    (run : SettledRun contract overflowChecks ledger wasmHash history w) {d : Address}
    {record : DonorRecord} (hrecord : w.storage.donorData d = some record) :
    d ∈ contributors history := by
  refine SettledRun.induction (I := fun history w ↦ ∀ record, w.storage.donorData d = some record →
    d ∈ contributors history) (fun record hnone ↦ absurd hnone (by
      simp [World.deployed, Storage.empty])) ?_ run record hrecord
  intro history w action next _ ih hstep record hrecord
  have hearlier : ∀ record, w.storage.donorData d = some record →
      d ∈ contributors (⟨action, w, next⟩ :: history) := by
    intro old hold
    have hmem := ih old hold
    unfold contributors at hmem ⊢
    rw [List.filterMap_cons]
    split
    · exact hmem
    · exact List.mem_cons_of_mem _ hmem
  cases hstep with
  | @donated inv _ _ _ donor _ _ _ _ hcall _ h _ hstorage =>
    obtain ⟨timestamp, sequence, authorisers, call⟩ := inv
    obtain rfl : call = _ := hcall
    obtain ⟨new, -, hdonors⟩ := h.donorData
    rw [hstorage, hdonors] at hrecord
    by_cases hd : d = donor
    · rw [hd]
      exact List.mem_cons_self
    · rw [Function.update_of_ne hd] at hrecord
      exact hearlier record hrecord
  | other hother h =>
    by_cases hrefund : action.invokes Call.isRefund = true
    · obtain ⟨inv, donor, campaign, old, numerator, rfl, -, hclaimed⟩ :=
        h.claimed_of_isRefund hrefund
      obtain ⟨report, -, hstorage⟩ := hclaimed.storage
      by_cases hd : d = donor
      · exact hearlier old (hd ▸ hclaimed.donor_found)
      · have hdonors : next.storage.donorData = Function.update w.storage.donorData donor
            (some { old with refundClaimed := true }) := by rw [hstorage]
        rw [hdonors, Function.update_of_ne hd] at hrecord
        exact hearlier record hrecord
    · have hdonation : action.invokes Call.isDonation = false := by
        cases action with
        | transfer => rfl
        | invoke inv =>
          cases hcall : inv.call with
          | donate => exact absurd hcall (hother inv _ _ _ rfl)
          | _ =>
            exact Action.invokes_of_call hcall _
      rw [h.donorData_eq hdonation (eq_false_of_ne_true hrefund)] at hrecord
      exact hearlier record hrecord

/-! ### Orders of the pending donors -/

/-- The donor has a record and has not claimed. -/
def Pending (s : Storage) (d : Address) : Prop :=
  ∃ record, s.donorData d = some record ∧ record.refundClaimed = false

instance (s : Storage) (d : Address) : Decidable (Pending s d) :=
  decidable_of_iff ((s.donorData d).map DonorRecord.refundClaimed = some false)
    Option.map_eq_some_iff

/-- The invocation claims a donor's refund, signed by the donor, within the refund window. -/
structure ClaimsInTime (host : Host) (campaign : CampaignData) (donor : Address)
    (inv : Invocation) : Prop where
  call : inv.call = .claimRefund donor
  typed : inv.WellTyped
  authorised : (inv.env host).Authorised donor
  in_window : WithinRefundWindow (inv.env host) campaign

namespace Reserved

variable {contract : Address} {overflowChecks : Bool} {w : World} {campaign : CampaignData}
  {v : List MilestoneData} {book : PledgeBook Address Address} {donor : Address} {inv : Invocation}

/-- A plain claim in time passes every check but the balance. -/
theorem claimable (h : Reserved contract w campaign v) (hbook : Mirrors w.storage book)
    (hopen : RefundsOpen w.storage campaign) (hfrozen : w.storage.isFrozen = false)
    (hpending : Pending w.storage donor) (hplain : PlainRefund w.storage donor)
    (hclaim : ClaimsInTime (standardHost contract overflowChecks) campaign donor inv) :
    ∃ record numerator, CampaignContract.Claimable
      (inv.env (standardHost contract overflowChecks)) donor w campaign record numerator := by
  obtain ⟨record, hrecord, hunclaimed⟩ := hpending
  obtain ⟨hsums, hrange, hshares⟩ := hplain
  have hraised := h.established.raisedAmount_eq
  have hcount : w.storage.milestoneCount = campaign.milestoneCount := by
    rw [Storage.milestoneCount, h.established.found]
    rfl
  rw [hcount] at hsums
  rw [issuers_of_found h.established.found] at hshares
  refine ⟨record, w.storage.unreleased,
    { lock_free := h.established.lock_free
      authorised := hclaim.authorised
      not_frozen := hfrozen
      found := h.established.found
      donor_found := hrecord
      refunds_open := hopen
      in_window := hclaim.in_window
      not_claimed := hunclaimed
      numerator_eq := ⟨_, CampaignContract.sumReleased_of_inRange hsums, ?_⟩
      calculable := fun t ht hpos ↦ ⟨?_, (hshares t ht).1⟩ }⟩
  · rw [Storage.unreleased, hraised, hcount] at hrange ⊢
    exact uncheckedI128_of_inI128 hrange
  · have hpledged : w.storage.getDonorAssetDonation donor t ≤ w.storage.pledgedIn t :=
      Finset.single_le_sum (fun d _ ↦ hbook.getDonorAssetDonation_nonneg d t)
        (Finset.mem_univ donor)
    have hall := hbook.pledgedIn_le t
    rw [hraised] at hall
    linarith

/-- The contract holds what any pending donors with plain refunds are owed. -/
theorem covers (h : Reserved contract w campaign v) (hbook : Mirrors w.storage book)
    {owing : Address → Prop} (hpending : ∀ d, owing d → w.storage.hasClaimed d = false)
    (howed : ∀ d, owing d → ∀ t, w.storage.refundOwed d t * campaign.raisedAmount ≤
      w.storage.getDonorAssetDonation d t * max w.storage.unreleased 0) :
    Covers contract w owing := by
  intro donors hdonors t
  have hpart : ∑ d ∈ donors, w.storage.getDonorAssetDonation d t ≤ w.storage.pendingIn t := by
    have hsame : ∑ d ∈ donors, w.storage.getDonorAssetDonation d t =
        ∑ d ∈ donors,
          if w.storage.hasClaimed d then 0 else w.storage.getDonorAssetDonation d t := by
      refine Finset.sum_congr rfl fun d hd ↦ ?_
      rw [if_neg (by simp [hpending d (hdonors d hd)])]
    rw [hsame]
    refine Finset.sum_le_sum_of_subset_of_nonneg (Finset.subset_univ donors) fun d _ _ ↦ ?_
    split_ifs
    · exact le_rfl
    · exact hbook.getDonorAssetDonation_nonneg d t
  rcases h.established.raised_nonneg.eq_or_lt with hzero | hraised
  · -- nothing was raised, so nothing is owed
    have hnothing : ∀ d, w.storage.refundOwed d t = 0 := by
      intro d
      have hpledged : w.storage.getDonorAssetDonation d t = 0 := by
        refine le_antisymm ?_ (hbook.getDonorAssetDonation_nonneg d t)
        have hle : w.storage.getDonorAssetDonation d t ≤ w.storage.pledgedIn t :=
          Finset.single_le_sum (fun d _ ↦ hbook.getDonorAssetDonation_nonneg d t)
            (Finset.mem_univ d)
        have hall := hbook.pledgedIn_le t
        rw [h.established.raisedAmount_eq, ← hzero] at hall
        exact hle.trans hall
      exact refundOwed_of_unpledged hpledged
    rw [Finset.sum_eq_zero fun d _ ↦ hnothing d]
    exact w.ledger.balance_nonneg t contract
  · exact (h.tokens t).sum_le hraised (le_max_right _ _) hpart fun d hd ↦ howed d (hdonors d hd) t

end Reserved

theorem filterMap_claimant {host : Host} {campaign : CampaignData} {claim : Address → Invocation}
    {donors : List Address} (hclaims : ∀ d ∈ donors, ClaimsInTime host campaign d (claim d)) :
    (donors.map fun d ↦ Action.invoke (claim d)).filterMap Action.claimant = donors := by
  induction donors with
  | nil => rfl
  | cons d rest ih =>
    have hhead : (Action.invoke (claim d)).claimant = some d := by
      rw [Action.claimant, (hclaims d List.mem_cons_self).call]
      rfl
    rw [List.map_cons, List.filterMap_cons_some hhead,
      ih fun other hother ↦ hclaims other (List.mem_cons_of_mem d hother)]

/-- Claims need no settlement. -/
theorem settledChain_execAll {host : Host} {campaign : CampaignData}
    {claim : Address → Invocation} {donors : List Address}
    (hclaims : ∀ d ∈ donors, ClaimsInTime host campaign d (claim d)) (w : World) :
    (settledChain host).execAll (donors.map fun d ↦ .invoke (claim d)) w =
      (chain host).execAll (donors.map fun d ↦ .invoke (claim d)) w := by
  induction donors generalizing w with
  | nil => rfl
  | cons d rest ih =>
    have hexec : (settledChain host).exec (.invoke (claim d)) w =
        (chain host).exec (.invoke (claim d)) w := by
      have hcall := (hclaims d List.mem_cons_self).call
      simp only [settledChain, settleDonation, hcall]
      cases (chain host).exec (.invoke (claim d)) w <;> rfl
    rw [List.map_cons, System.execAll, System.execAll, hexec]
    exact bind_congr fun next ↦
      ih (fun other hother ↦ hclaims other (List.mem_cons_of_mem d hother)) next

section Solvency

variable {contract : Address} {overflowChecks : Bool} {ledger : Ledger Address Address}
  {wasmHash : BitVec 256} {history : List (Receipt Action World)} {w : World}

/-- In a run that keeps the proportions of the tokens and releases nothing after the first claim,
the donors who have not claimed are refunded in every order of their claims, out of what the
contract holds, when their refunds are plain. -/
theorem refund_solvent
    (run : SettledRun contract overflowChecks ledger wasmHash history w)
    (hkeeps : ∀ r ∈ history, KeepsSolvent contract r) (hfirst : ReleasesFirst history)
    {campaign : CampaignData} (hfound : w.storage.campaignData = some campaign)
    (hopen : RefundsOpen w.storage campaign) (hfrozen : w.storage.isFrozen = false)
    {donors : List Address} (hdistinct : donors.Nodup)
    (hpending : ∀ d ∈ donors, Pending w.storage d) {claim : Address → Invocation}
    (hclaims : ∀ d ∈ donors,
      ClaimsInTime (standardHost contract overflowChecks) campaign d (claim d))
    (hplain : ∀ d ∈ donors, PlainRefund w.storage d) :
    ∃ final, (settledChain (standardHost contract overflowChecks)).execAll
        (donors.map fun d ↦ .invoke (claim d)) w = .ok final ∧
      ∀ t, (donors.map fun d ↦
        final.ledger.sent t contract d - w.ledger.sent t contract d).sum ≤
          w.ledger.balance t contract := by
  obtain ⟨book, hbook⟩ := SettledRun.mirrors run
  obtain ⟨hbacked, hreserved⟩ := SettledRun.backed_or_reserved run hkeeps hfirst
  have hw : ∃ v, Reserved contract w campaign v := by
    by_cases hrefund : ∃ r ∈ history, r.label.invokes Call.isRefund = true
    · obtain ⟨-, found, v, hw⟩ := hreserved hrefund
      obtain rfl := hw.established.campaign_eq hfound
      exact ⟨v, hw⟩
    · have hnone : ∀ r ∈ history, r.label.invokes Call.isRefund = false :=
        fun r hr ↦ eq_false_of_ne_true fun hclaim ↦ hrefund ⟨r, hr, hclaim⟩
      rcases hbacked hnone with hempty | ⟨found, v, hw⟩
      · rw [hempty] at hfound
        exact absurd hfound (by simp [Storage.empty])
      · obtain rfl := hw.established.campaign_eq hfound
        exact ⟨v, hw.reserved hbook⟩
  obtain ⟨v, hw⟩ := hw
  have hclaimable := fun d hd ↦
    hw.claimable hbook hopen hfrozen (hpending d hd) (hplain d hd) (hclaims d hd)
  have hcovers : Covers contract w (· ∈ donors) := by
    refine hw.covers hbook (fun d hd ↦ ?_) fun d hd t ↦ ?_
    · obtain ⟨record, hrecord, hunclaimed⟩ := hpending d hd
      rw [Storage.hasClaimed, hrecord, Option.any_some, hunclaimed]
    · obtain ⟨record, numerator, hclaim⟩ := hclaimable d hd
      exact hclaim.refundOwed_mul_le hw.established hbook hw.issuers_nodup (hplain d hd) t
  have hlist := filterMap_claimant hclaims
  have hset : claimants (donors.map fun d ↦ Action.invoke (claim d)) = donors.toFinset := by
    rw [claimants, hlist]
  have hadmissible : ∀ a ∈ donors.map fun d ↦ Action.invoke (claim d),
      ∃ d, Admissible (standardHost contract overflowChecks) w d a := by
    intro a ha
    obtain ⟨d, hd, rfl⟩ := List.mem_map.mp ha
    obtain ⟨record, numerator, hclaim⟩ := hclaimable d hd
    exact ⟨d, claim d, campaign, record, numerator, rfl, (hclaims d hd).call, (hclaims d hd).typed,
      hclaim⟩
  obtain ⟨final, hexec, hfinal⟩ := (AfterClaims.refl contract w).execAll hw.established hadmissible
    (by rwa [hlist]) (by simp) (hcovers.mono fun d hd ↦ by simpa [hset] using hd)
  refine ⟨final, by rwa [settledChain_execAll hclaims], fun t ↦ ?_⟩
  rw [hset, Finset.empty_union] at hfinal
  have hpaid : (donors.map fun d ↦
      final.ledger.sent t contract d - w.ledger.sent t contract d).sum =
        ∑ d ∈ donors.toFinset, w.storage.refundOwed d t := by
    rw [List.sum_toFinset _ hdistinct]
    refine congrArg List.sum (List.map_congr_left fun d hd ↦ ?_)
    rw [hfinal.sent, if_pos (List.mem_toFinset.mpr hd), add_sub_cancel_left]
  rw [hpaid]
  exact hcovers donors.toFinset (fun d hd ↦ List.mem_toFinset.mp hd) t

end Solvency

namespace Sample

/-- Two donors give amounts of one token, the first milestone is released and the campaign is
cancelled. -/
def partlyReleased (first second target : ℤ) : List Action :=
  [opening [⟨"XLM", some token⟩] [milestone target, milestone 20000] 20000,
    giving donor first token, giving secondDonor second token,
    call creator (.releaseMilestone 0 recipient), call creator .cancelCampaign]

/-- What holds of both sample donors holds of a list of them. -/
theorem forall_mem_donors {p : Address → Prop} (hfirst : p donor) (hsecond : p secondDonor) :
    ∀ d ∈ [secondDonor, donor], p d := by
  intro d hd
  rcases List.mem_pair.mp hd with hsame | hsame
  · rwa [hsame]
  · rwa [hsame]

/-- A donor's own claim. -/
def ownClaim (donor : Address) : Invocation := ⟨20, 2, [donor], .claimRefund donor⟩

/-- What the claims need to know of the campaign. -/
theorem partlyReleased_campaign (first second target : ℤ)
    (h : (settledWorld (partlyReleased first second target)).storage.campaignData.map
      (fun campaign ↦ (campaign.status, campaign.endTime)) = some (.cancelled, 1000)) :
    ∃ campaign, (settledWorld (partlyReleased first second target)).storage.campaignData =
        some campaign ∧ campaign.status = .cancelled ∧ ∀ d ≠ contract,
          ClaimsInTime (standardHost contract true) campaign d (ownClaim d) := by
  obtain ⟨campaign, hfound, hrecord⟩ := Option.map_eq_some_iff.mp h
  obtain ⟨hstatus, hend⟩ := Prod.mk.inj hrecord
  refine ⟨campaign, hfound, hstatus, fun d hd ↦
    { call := rfl
      typed := ⟨show (20 : ℕ) ≤ u64Max by decide, show (2 : ℕ) ≤ u32Max by decide, trivial⟩
      authorised := ⟨List.mem_singleton_self d, hd⟩
      in_window := ?_ }⟩
  rw [withinRefundWindow_iff (by rw [hend]; decide), hend]
  show (20 : ℕ) ≤ 1000 + refundWindow
  decide

end Sample

/-- Donors of 300 and 100 of whose gifts 200 were released get their halves back. -/
theorem refund_solvent_partlyReleased :
    ∃ final, (settledChain (standardHost Sample.contract true)).execAll
        ([Sample.secondDonor, Sample.donor].map fun d ↦ .invoke (Sample.ownClaim d))
        (Sample.settledWorld (Sample.partlyReleased 300 100 200)) = .ok final ∧
      ∀ t, ([Sample.secondDonor, Sample.donor].map fun d ↦
        final.ledger.sent t Sample.contract d - (Sample.settledWorld
          (Sample.partlyReleased 300 100 200)).ledger.sent t Sample.contract d).sum ≤
        (Sample.settledWorld (Sample.partlyReleased 300 100 200)).ledger.balance t
          Sample.contract := by
  obtain ⟨campaign, hfound, hstatus, hclaims⟩ :=
    Sample.partlyReleased_campaign 300 100 200 (by decide +kernel)
  refine refund_solvent (Sample.settledRun (Sample.partlyReleased 300 100 200)) (by decide +kernel)
    (by decide +kernel) hfound (.inl hstatus) (by decide +kernel) (by decide)
    (Sample.forall_mem_donors (by decide +kernel) (by decide +kernel))
    (Sample.forall_mem_donors (hclaims _ (by decide)) (hclaims _ (by decide)))
    (Sample.forall_mem_donors (by decide +kernel) (by decide +kernel))

/-- A release of 9999 leaves one unit of the gifts 1 and 9999, and the anti-dust floor owes it to
both donors. -/
theorem refund_insolvent :
    ¬ ∀ (contract : Address) (overflowChecks : Bool) (ledger : Ledger Address Address)
      (wasmHash : BitVec 256) (history : List (Receipt Action World)) (w : World),
      SettledRun contract overflowChecks ledger wasmHash history w →
      ∀ campaign, w.storage.campaignData = some campaign → RefundsOpen w.storage campaign →
      w.storage.isFrozen = false → ∀ donors : List Address, donors.Nodup →
      (∀ d, d ∈ donors ↔ Pending w.storage d) → ∀ claim : Address → Invocation,
      (∀ d ∈ donors, ClaimsInTime (standardHost contract overflowChecks) campaign d (claim d)) →
      ∃ final, (settledChain (standardHost contract overflowChecks)).execAll
          (donors.map fun d ↦ .invoke (claim d)) w = .ok final ∧
        ∀ t, (donors.map fun d ↦
          final.ledger.sent t contract d - w.ledger.sent t contract d).sum ≤
            w.ledger.balance t contract := by
  intro h
  obtain ⟨campaign, hfound, hstatus, hclaims⟩ :=
    Sample.partlyReleased_campaign 1 9999 9999 (by decide +kernel)
  have hrun := Sample.settledRun (Sample.partlyReleased 1 9999 9999)
  have hdonors : ∀ d, d ∈ [Sample.secondDonor, Sample.donor] ↔
      Pending (Sample.settledWorld (Sample.partlyReleased 1 9999 9999)).storage d := by
    intro d
    constructor
    · exact Sample.forall_mem_donors (by decide +kernel) (by decide +kernel) d
    · rintro ⟨record, hrecord, -⟩
      have hgave := SettledRun.mem_contributors hrun hrecord
      have hlist : contributors (Sample.settledHistory (Sample.partlyReleased 1 9999 9999)) =
          [Sample.secondDonor, Sample.donor] := by decide +kernel
      rwa [hlist] at hgave
  obtain ⟨final, hexec, -⟩ := h _ _ _ _ _ _ hrun campaign hfound (.inl hstatus) (by decide +kernel)
    [Sample.secondDonor, Sample.donor] (by decide) hdonors Sample.ownClaim
    (Sample.forall_mem_donors (hclaims _ (by decide)) (hclaims _ (by decide)))
  have hfails : ((settledChain (standardHost Sample.contract true)).execAll
      ([Sample.secondDonor, Sample.donor].map fun d ↦ .invoke (Sample.ownClaim d))
      (Sample.settledWorld (Sample.partlyReleased 1 9999 9999))).isOk = false := by
    decide +kernel
  rw [hexec] at hfails
  exact Bool.false_ne_true hfails.symm

end OrbitChain.Campaign
