import OrbitChain.Campaign.DonorAccounting

/-!
# What a donor gets back

A donor claims at most once, and pays nothing in after a claim, so what a run refunds to a donor
in a token is what one claim pays: the amount due, once for every accepted entry of the token.
That stays within the donor's pledge exactly when the claim is `WithinPledge`, a bound on the
number of entries and on the unreleased part of what was raised.
-/

set_option autoImplicit false
set_option relaxedAutoImplicit false

namespace OrbitChain.Campaign

open Foundations

/-- A pledge covers what its entries pay: nothing is listed or pledged or left unreleased, or each
entry's share is below the next unit past an equal split and a unit for each entry was pledged. -/
def WithinPledge (entries : ℕ) (pledged numerator raised : ℤ) : Prop :=
  entries = 0 ∨ pledged = 0 ∨ numerator ≤ 0 ∨
    (entries ≤ pledged ∧ pledged * numerator < (pledged / entries + 1) * raised)

open CampaignContract in
/-- What the entries of a token pay is within the pledge exactly when the pledge covers them. -/
theorem entries_mul_refundDue_le_iff {entries : ℕ} {pledged numerator raised : ℤ}
    (hpledged : 0 ≤ pledged) (hraised : 0 < pledged → 0 < raised) :
    entries * refundDue pledged numerator raised ≤ pledged ↔
      WithinPledge entries pledged numerator raised := by
  unfold WithinPledge
  by_cases hentries : entries = 0
  · simp [hentries, hpledged]
  by_cases hzero : pledged = 0
  · simp [hzero, refundDue]
  have hpos : 0 < pledged := lt_of_le_of_ne hpledged (Ne.symm hzero)
  rcases le_or_gt numerator 0 with hnumerator | hnumerator
  · simp [refundDue_of_nonpos hnumerator (hraised hpos), hnumerator, hpledged]
  have hcopies : (0 : ℤ) < entries := by omega
  rw [refundDue_of_pos hpos hnumerator (hraised hpos), mul_max_of_nonneg _ _ hcopies.le,
    max_le_iff, mul_one, mul_share_le_self_iff hcopies (hraised hpos)]
  simp [hentries, hzero, hnumerator.not_ge, and_comm]

/-- What an action refunded to a donor in a token, by the transfer log. -/
def refundedTo (contract donor token : Address) (r : Receipt Action World) : ℤ :=
  if r.label.invokes Call.isRefund then
    r.after.ledger.sent token contract donor - r.before.ledger.sent token contract donor
  else 0

/-- No donor was refunded more than the donor gave, in any token. -/
def RefundsWithin (contract : Address) (history : List (Receipt Action World)) (w : World) : Prop :=
  ∀ d t, (history.map (refundedTo contract d t)).sum ≤ w.storage.getDonorAssetDonation d t

/-- A claim is covered: every token's pledge covers what its entries pay. -/
def CoveredClaim (r : Receipt Action World) : Prop :=
  match r.label with
  | .invoke ⟨_, _, _, .claimRefund donor⟩ =>
    ∀ campaign, r.before.storage.campaignData = some campaign → ∀ token,
      WithinPledge (campaign.issuers.count token)
        (r.before.storage.getDonorAssetDonation donor token)
        (CampaignContract.refundNumerator r.before.storage campaign) campaign.raisedAmount
  | _ => True

/-! ### What a step does to pledges and refunds -/

section Steps

variable {host : Host} {action : Action} {w next : World}

/-- Only donations change what is pledged. -/
theorem Step.donorAssetDonation_eq (h : Step host action w next)
    (hdonation : action.invokes Call.isDonation = false) :
    next.storage.donorAssetDonation = w.storage.donorAssetDonation := by
  cases h with
  | transferred _ _ hstorage => rw [hstorage]
  | donated _ hcall _ =>
    rw [Action.invokes, hcall] at hdonation
    exact absurd hdonation.symm Bool.false_ne_true
  | initialized _ _ _ h =>
    obtain ⟨report, hstorage⟩ := h.storage
    rw [hstorage]
  | claimed _ _ h | released _ _ h | multiReleased _ _ h =>
    obtain ⟨report, -, hstorage⟩ := h.storage
    rw [hstorage]
  | administered _ _ h =>
    obtain ⟨frozen, blocked, report, hstorage⟩ := h.storage
    rw [hstorage]

/-- Only donations and claims change donor records. -/
theorem Step.donorData_eq (h : Step host action w next)
    (hdonation : action.invokes Call.isDonation = false)
    (hrefund : action.invokes Call.isRefund = false) :
    next.storage.donorData = w.storage.donorData := by
  cases h with
  | transferred _ _ hstorage => rw [hstorage]
  | donated _ hcall _ =>
    rw [Action.invokes, hcall] at hdonation
    exact absurd hdonation.symm Bool.false_ne_true
  | claimed _ hcall _ =>
    rw [Action.invokes, hcall] at hrefund
    exact absurd hrefund.symm Bool.false_ne_true
  | initialized _ _ _ h =>
    obtain ⟨report, hstorage⟩ := h.storage
    rw [hstorage]
  | released _ _ h | multiReleased _ _ h =>
    obtain ⟨report, -, hstorage⟩ := h.storage
    rw [hstorage]
  | administered _ _ h =>
    obtain ⟨frozen, blocked, report, hstorage⟩ := h.storage
    rw [hstorage]

/-- A refund is a claim. -/
theorem Step.claimed_of_isRefund (h : Step host action w next)
    (hrefund : action.invokes Call.isRefund = true) :
    ∃ inv donor campaign record numerator, action = .invoke inv ∧
      inv.call = .claimRefund donor ∧
      CampaignContract.Claimed (inv.env host) donor w next campaign record numerator := by
  cases action with
  | transfer => exact absurd hrefund Bool.false_ne_true
  | invoke inv =>
    cases hcall : inv.call with
    | claimRefund donor =>
      obtain ⟨campaign, record, numerator, hclaimed⟩ := h.of_claimRefund hcall
      exact ⟨inv, donor, campaign, record, numerator, rfl, hcall, hclaimed⟩
    | _ =>
      rw [Action.invokes, hcall] at hrefund
      exact absurd hrefund Bool.false_ne_true

/-- Claims are made when the campaign has concluded. -/
theorem Step.concluded_of_isRefund (h : Step host action w next)
    (hrefund : action.invokes Call.isRefund = true) : Concluded w.storage := by
  obtain ⟨inv, donor, campaign, record, numerator, -, -, hclaimed⟩ :=
    h.claimed_of_isRefund hrefund
  refine ⟨campaign, hclaimed.found, ?_⟩
  rcases hclaimed.refunds_open with hstatus | ⟨hstatus, -⟩
  · rw [hstatus]
    rfl
  · rw [hstatus]
    rfl

/-- What a claim refunded: the amount due of each token, once for every entry. -/
theorem refundedTo_of_claimed {inv : Invocation} {donor : Address} {campaign : CampaignData}
    {record : DonorRecord} {numerator : ℤ} (hcall : inv.call = .claimRefund donor)
    (h : CampaignContract.Claimed (inv.env host) donor w next campaign record numerator)
    (d t : Address) :
    refundedTo host.contract d t ⟨.invoke inv, w, next⟩ =
      if donor = d then campaign.issuers.count t *
        CampaignContract.refundDue (w.storage.getDonorAssetDonation donor t) numerator
          campaign.raisedAmount
      else 0 := by
  have hsent := Ledger.sent_transferAll h.ledger t host.contract d
  rw [CampaignContract.paidIn_refundPayments] at hsent
  have hkind : (Action.invoke inv).invokes Call.isRefund = true := by
    exact Action.invokes_of_call hcall _
  have hself : (inv.env host).host.contract = host.contract := rfl
  rw [refundedTo, if_pos hkind, hsent, add_sub_cancel_left]
  simp [hself]

theorem refundedTo_of_not_refund {contract d t : Address}
    (h : action.invokes Call.isRefund = false) :
    refundedTo contract d t ⟨action, w, next⟩ = 0 := by
  rw [refundedTo, if_neg]
  simp [h]

theorem Step.refundedTo_nonneg (h : Step host action w next) (d t : Address) :
    0 ≤ refundedTo host.contract d t ⟨action, w, next⟩ := by
  by_cases hrefund : action.invokes Call.isRefund = true
  · obtain ⟨inv, donor, campaign, record, numerator, rfl, hcall, hclaimed⟩ :=
      h.claimed_of_isRefund hrefund
    rw [refundedTo_of_claimed hcall hclaimed]
    split_ifs
    · exact mul_nonneg (Nat.cast_nonneg _) (CampaignContract.refundDue_nonneg _ _ _)
    · exact le_rfl
  · rw [refundedTo_of_not_refund (eq_false_of_ne_true hrefund)]

theorem coveredClaim_of_not_refund (h : action.invokes Call.isRefund = false) :
    CoveredClaim ⟨action, w, next⟩ := by
  cases action with
  | transfer => exact trivial
  | invoke inv =>
    obtain ⟨timestamp, sequence, authorisers, call⟩ := inv
    cases call with
    | claimRefund donor => exact absurd h.symm Bool.false_ne_true
    | _ => exact trivial

/-- A claim is covered exactly when what it pays of every token is within the pledge. -/
theorem coveredClaim_iff {inv : Invocation} {donor : Address} {campaign : CampaignData}
    {record : DonorRecord} {numerator : ℤ} (hcall : inv.call = .claimRefund donor)
    (h : CampaignContract.Claimed (inv.env host) donor w next campaign record numerator)
    (hpledged : ∀ t, 0 ≤ w.storage.getDonorAssetDonation donor t)
    (hlisted : ∀ t, 0 < w.storage.getDonorAssetDonation donor t → t ∈ campaign.issuers) :
    CoveredClaim ⟨.invoke inv, w, next⟩ ↔ ∀ t,
      refundedTo host.contract donor t ⟨.invoke inv, w, next⟩ ≤
        w.storage.getDonorAssetDonation donor t := by
  have hdue : ∀ t, refundedTo host.contract donor t ⟨.invoke inv, w, next⟩ ≤
        w.storage.getDonorAssetDonation donor t ↔
      WithinPledge (campaign.issuers.count t) (w.storage.getDonorAssetDonation donor t) numerator
        campaign.raisedAmount := by
    intro t
    rw [refundedTo_of_claimed hcall h, if_pos rfl]
    exact entries_mul_refundDue_le_iff (hpledged t) fun hpos ↦
      (h.calculable t (hlisted t hpos) hpos).1
  rw [forall_congr' hdue, h.numerator_eq_refundNumerator]
  obtain ⟨timestamp, sequence, authorisers, call⟩ := inv
  obtain rfl : call = _ := hcall
  constructor
  · intro hcovered
    exact hcovered campaign h.found
  · intro hcovered found hfound
    obtain rfl : found = campaign := Option.some.inj (hfound.symm.trans h.found)
    exact hcovered

end Steps

/-! ### Refunds over runs -/

section Runs

variable {contract : Address} {overflowChecks : Bool} {ledger : Ledger Address Address}
  {wasmHash : BitVec 256} {history : List (Receipt Action World)} {w next : World}

theorem CampaignRun.concluded_of_refund
    (run : CampaignRun contract overflowChecks ledger wasmHash history w) :
    ∀ r ∈ history, r.label.invokes Call.isRefund = true → Concluded w.storage := by
  refine CampaignRun.induction
    (I := fun history w ↦ ∀ r ∈ history, r.label.invokes Call.isRefund = true →
      Concluded w.storage) (by simp) ?_ run
  intro history w action next _ ih hstep r hr hrefund
  rcases List.mem_cons.mp hr with rfl | hr
  · exact hstep.concluded (hstep.concluded_of_isRefund hrefund)
  · exact hstep.concluded (ih r hr hrefund)

/-- Before a donation there was no claim. -/
theorem CampaignRun.not_refund_of_donation
    (run : CampaignRun contract overflowChecks ledger wasmHash history w) {action : Action}
    {next : World} (hstep : Step (standardHost contract overflowChecks) action w next)
    (hdonation : action.invokes Call.isDonation = true) :
    ∀ r ∈ history, r.label.invokes Call.isRefund = false := by
  intro r hr
  by_contra hrefund
  have hconcluded := CampaignRun.concluded_of_refund run r hr (eq_true_of_ne_false hrefund)
  rw [hstep.isDonation_of_concluded hconcluded] at hdonation
  exact absurd hdonation Bool.false_ne_true

/-- Without claims nothing was refunded. -/
theorem sum_refundedTo_of_no_refund {d t : Address}
    (h : ∀ r ∈ history, r.label.invokes Call.isRefund = false) :
    (history.map (refundedTo contract d t)).sum = 0 := by
  refine List.sum_eq_zero fun x hx ↦ ?_
  obtain ⟨r, hr, rfl⟩ := List.mem_map.mp hx
  exact refundedTo_of_not_refund (h r hr)

/-- A donor who has not claimed was refunded nothing. -/
theorem CampaignRun.sum_refundedTo_of_unclaimed
    (run : CampaignRun contract overflowChecks ledger wasmHash history w) (d t : Address)
    (hunclaimed : ∀ record, w.storage.donorData d = some record → record.refundClaimed = false) :
    (history.map (refundedTo contract d t)).sum = 0 := by
  refine CampaignRun.induction
    (I := fun history w ↦ (∀ record, w.storage.donorData d = some record →
      record.refundClaimed = false) → (history.map (refundedTo contract d t)).sum = 0)
    (fun _ ↦ rfl) ?_ run hunclaimed
  intro history w action next prior ih hstep hunclaimed
  rw [List.map_cons, List.sum_cons]
  by_cases hrefund : action.invokes Call.isRefund = true
  · obtain ⟨inv, donor, campaign, record, numerator, rfl, hcall, hclaimed⟩ :=
      hstep.claimed_of_isRefund hrefund
    obtain ⟨report, -, hstorage⟩ := hclaimed.storage
    have hdonors : next.storage.donorData = Function.update w.storage.donorData donor
        (some { record with refundClaimed := true }) := by rw [hstorage]
    have hne : donor ≠ d := by
      rintro rfl
      have hflag := hunclaimed _ (by rw [hdonors, Function.update_self])
      exact absurd hflag.symm Bool.false_ne_true
    have hhead := refundedTo_of_claimed hcall hclaimed d t
    rw [if_neg hne] at hhead
    rw [hdonors, Function.update_of_ne hne.symm] at hunclaimed
    rw [ih hunclaimed]
    simpa [standardHost] using hhead
  · have hrefund := eq_false_of_ne_true hrefund
    rw [refundedTo_of_not_refund hrefund, zero_add]
    by_cases hdonation : action.invokes Call.isDonation = true
    · exact sum_refundedTo_of_no_refund
        (CampaignRun.not_refund_of_donation prior hstep hdonation)
    · rw [hstep.donorData_eq (eq_false_of_ne_true hdonation) hrefund] at hunclaimed
      exact ih hunclaimed

/-- A claim keeps the refunds within what was given exactly when it is covered. -/
theorem refundsWithin_of_claim
    (prior : CampaignRun contract overflowChecks ledger wasmHash history w) {inv : Invocation}
    {donor : Address} {campaign : CampaignData} {record : DonorRecord} {numerator : ℤ}
    (hcall : inv.call = .claimRefund donor)
    (hclaimed : CampaignContract.Claimed (inv.env (standardHost contract overflowChecks)) donor w
      next campaign record numerator)
    (hstep : Step (standardHost contract overflowChecks) (.invoke inv) w next)
    (hsame : ∀ d t, next.storage.getDonorAssetDonation d t =
      w.storage.getDonorAssetDonation d t) :
    RefundsWithin contract (⟨.invoke inv, w, next⟩ :: history) next ↔
      CoveredClaim ⟨.invoke inv, w, next⟩ ∧ RefundsWithin contract history w := by
  obtain ⟨book, hbook, -⟩ := CampaignRun.mirrors prior
  have hpledged : ∀ t, 0 ≤ w.storage.getDonorAssetDonation donor t := by
    intro t
    rw [hbook.pledged]
    exact book.pledged_nonneg donor t
  have hlisted : ∀ t, 0 < w.storage.getDonorAssetDonation donor t → t ∈ campaign.issuers := by
    intro t hpos
    rw [hbook.pledged] at hpos
    obtain ⟨found, hfound, ht⟩ := hbook.listed donor t hpos.ne'
    obtain rfl : found = campaign := Option.some.inj (hfound.symm.trans hclaimed.found)
    exact ht
  have hfirst : ∀ t, (history.map (refundedTo contract donor t)).sum = 0 := by
    intro t
    refine CampaignRun.sum_refundedTo_of_unclaimed prior donor t fun found hfound ↦ ?_
    obtain rfl : found = record := Option.some.inj (hfound.symm.trans hclaimed.donor_found)
    exact hclaimed.not_claimed
  have hcovered := coveredClaim_iff hcall hclaimed hpledged hlisted
  rw [hcovered]
  unfold RefundsWithin
  simp only [List.map_cons, List.sum_cons, hsame]
  constructor
  · intro hall
    refine ⟨fun t ↦ ?_, fun d t ↦ ?_⟩
    · have hbound := hall donor t
      rwa [hfirst, add_zero] at hbound
    · have hhead : 0 ≤ refundedTo contract d t ⟨.invoke inv, w, next⟩ :=
        hstep.refundedTo_nonneg d t
      have hbound := hall d t
      linarith
  · rintro ⟨hhead, hrest⟩ d t
    by_cases hd : donor = d
    · subst hd
      rw [hfirst, add_zero]
      exact hhead t
    · have hnothing : refundedTo contract d t ⟨.invoke inv, w, next⟩ = _ :=
        refundedTo_of_claimed hcall hclaimed d t
      rw [hnothing, if_neg hd, zero_add]
      exact hrest d t

/-- A donation finds nothing refunded. -/
theorem refundsWithin_of_donation
    (prior : CampaignRun contract overflowChecks ledger wasmHash history w) {action : Action}
    (hstep : Step (standardHost contract overflowChecks) action w next)
    (hdonation : action.invokes Call.isDonation = true) :
    RefundsWithin contract (⟨action, w, next⟩ :: history) next := by
  intro d t
  obtain ⟨book, hbook, -⟩ := CampaignRun.mirrors prior
  obtain ⟨book', hbook', -⟩ := hstep.mirrors hbook
  have hhead : action.invokes Call.isRefund = false := Action.isRefund_of_isDonation hdonation
  rw [List.map_cons, List.sum_cons, refundedTo_of_not_refund hhead, zero_add,
    sum_refundedTo_of_no_refund (CampaignRun.not_refund_of_donation prior hstep hdonation),
    hbook'.pledged]
  exact book'.pledged_nonneg d t

/-- A run keeps its refunds within what was given exactly when every claim of it was covered. -/
theorem CampaignRun.refundsWithin_iff
    (run : CampaignRun contract overflowChecks ledger wasmHash history w) :
    RefundsWithin contract history w ↔ ∀ r ∈ history, CoveredClaim r := by
  refine CampaignRun.induction
    (I := fun history w ↦ RefundsWithin contract history w ↔ ∀ r ∈ history, CoveredClaim r)
    ?_ ?_ run
  · exact iff_of_true (fun d t ↦ le_rfl) (by simp)
  intro history w action next prior ih hstep
  rw [List.forall_mem_cons, ← ih]
  by_cases hdonation : action.invokes Call.isDonation = true
  · have hhead : CoveredClaim ⟨action, w, next⟩ :=
      coveredClaim_of_not_refund (Action.isRefund_of_isDonation hdonation)
    have hearlier : ∀ r ∈ history, CoveredClaim r := fun r hr ↦
      coveredClaim_of_not_refund (CampaignRun.not_refund_of_donation prior hstep hdonation r hr)
    exact iff_of_true (refundsWithin_of_donation prior hstep hdonation) ⟨hhead, ih.mpr hearlier⟩
  have hsame : ∀ d t, next.storage.getDonorAssetDonation d t =
      w.storage.getDonorAssetDonation d t := by
    intro d t
    rw [Storage.getDonorAssetDonation,
      hstep.donorAssetDonation_eq (eq_false_of_ne_true hdonation)]
    rfl
  by_cases hrefund : action.invokes Call.isRefund = true
  · obtain ⟨inv, donor, campaign, record, numerator, rfl, hcall, hclaimed⟩ :=
      hstep.claimed_of_isRefund hrefund
    exact refundsWithin_of_claim prior hcall hclaimed hstep hsame
  · have hrefund := eq_false_of_ne_true hrefund
    unfold RefundsWithin
    simp only [List.map_cons, List.sum_cons, refundedTo_of_not_refund hrefund, zero_add,
      coveredClaim_of_not_refund hrefund, true_and, hsame]

/-- In the state a run reached, every donor was refunded at most what the donor gave, in every
token, exactly when every claim of the run was covered. -/
theorem refunds_bounded_iff
    (run : CampaignRun contract overflowChecks ledger wasmHash history w) :
    (∀ d t, 0 ≤ (history.map (refundedTo contract d t)).sum ∧
      (history.map (refundedTo contract d t)).sum ≤ w.storage.getDonorAssetDonation d t) ↔
      ∀ r ∈ history, CoveredClaim r := by
  have hnonneg : ∀ d t, 0 ≤ (history.map (refundedTo contract d t)).sum := by
    intro d t
    refine List.sum_nonneg fun x hx ↦ ?_
    obtain ⟨r, hr, rfl⟩ := List.mem_map.mp hx
    exact (CampaignRun.step_of_mem run hr).1.refundedTo_nonneg d t
  simp only [hnonneg, true_and]
  exact CampaignRun.refundsWithin_iff run

end Runs

/-- Two donors give a token that is listed under two codes; the campaign is cancelled and the first
donor claims. -/
def Sample.listedTwice : List Action :=
  [Sample.opening [⟨"XLM", some Sample.token⟩, ⟨"USDC", some Sample.token⟩]
      [Sample.milestone 1000] 1000,
    Sample.giving Sample.donor 100 Sample.token,
    .transfer Sample.token Sample.donor Sample.contract 100,
    Sample.giving Sample.secondDonor 100 Sample.token,
    .transfer Sample.token Sample.secondDonor Sample.contract 100,
    Sample.call Sample.creator .cancelCampaign,
    Sample.call Sample.donor (.claimRefund Sample.donor)]

theorem refunds_bounded_iff_listedTwice :
    ¬ ∀ r ∈ Sample.history Sample.listedTwice, CoveredClaim r := by
  rw [← refunds_bounded_iff (Sample.run Sample.listedTwice)]
  intro h
  have hbound := (h Sample.donor Sample.token).2
  revert hbound
  decide +kernel

/-- A donor who gave 100 of a token listed twice gets 200 of it back. -/
theorem refund_exceeds_donation :
    ¬ ∀ (contract : Address) (overflowChecks : Bool) (ledger : Ledger Address Address)
      (wasmHash : BitVec 256) (history : List (Receipt Action World)) (w : World),
      CampaignRun contract overflowChecks ledger wasmHash history w → ∀ d t,
        0 ≤ (history.map (refundedTo contract d t)).sum ∧
          (history.map (refundedTo contract d t)).sum ≤ w.storage.getDonorAssetDonation d t := by
  intro h
  have hbound := (h _ _ _ _ _ _ (Sample.run Sample.listedTwice) Sample.donor Sample.token).2
  revert hbound
  decide +kernel

end OrbitChain.Campaign
