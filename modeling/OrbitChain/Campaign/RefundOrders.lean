import OrbitChain.Campaign.RefundBound

/-!
# Orders of claims

What a claim pays is fixed by the state in which refunds began: a claim changes the donor's own
record, the cached report and the balances, and nothing another claim reads but the balances.
`AfterClaims` relates the state in which refunds began to the one a set of donors have claimed
in. It depends on the set alone, not on the order of the claims, and a claim succeeds there when
it would have succeeded at the beginning, its donor is not in the set and the contract still holds
what the donor is owed.
-/

set_option autoImplicit false
set_option relaxedAutoImplicit false

namespace OrbitChain.Campaign

open Foundations

/-- What a donor who has not claimed is owed in a token. -/
def Storage.refundOwed (s : Storage) (donor token : Address) : ℤ :=
  match s.campaignData, s.donorData donor with
  | some campaign, some record =>
    if record.refundClaimed = true then 0
    else campaign.issuers.count token *
      CampaignContract.refundDue (s.getDonorAssetDonation donor token)
        (CampaignContract.refundNumerator s campaign) campaign.raisedAmount
  | _, _ => 0

theorem refundOwed_nonneg (s : Storage) (donor token : Address) :
    0 ≤ s.refundOwed donor token := by
  unfold Storage.refundOwed
  split
  · split_ifs
    · exact le_rfl
    · exact mul_nonneg (Nat.cast_nonneg _) (CampaignContract.refundDue_nonneg _ _ _)
  · exact le_rfl

theorem refundOwed_of_unlisted {s : Storage} {campaign : CampaignData} {token : Address}
    (hfound : s.campaignData = some campaign) (htoken : token ∉ campaign.issuers)
    (donor : Address) : s.refundOwed donor token = 0 := by
  unfold Storage.refundOwed
  rw [hfound]
  split
  · rename_i found record hsame _
    rw [← Option.some.inj hsame, List.count_eq_zero.mpr htoken]
    simp
  · rfl

theorem refundOwed_of_unpledged {s : Storage} {donor token : Address}
    (h : s.getDonorAssetDonation donor token = 0) : s.refundOwed donor token = 0 := by
  unfold Storage.refundOwed
  split
  · simp [h, CampaignContract.refundDue]
  · rfl

/-- A storage that differs from another in donor records and the cached report at most. -/
def SameBooks (s s' : Storage) : Prop :=
  ∃ donors report, s' = { s with donorData := donors, cachedReport := report }

theorem SameBooks.symm {s s' : Storage} (h : SameBooks s s') : SameBooks s' s := by
  obtain ⟨donors, report, rfl⟩ := h
  exact ⟨s.donorData, s.cachedReport, rfl⟩

namespace CampaignContract

variable {env : Env} {donor : Address} {w s : World} {campaign : CampaignData}
  {record : DonorRecord} {numerator : ℤ}

/-- What a claim that passes its checks pays is what its donor is owed. -/
theorem Claimable.refundOwed_eq (h : Claimable env donor w campaign record numerator)
    (token : Address) : w.storage.refundOwed donor token = campaign.issuers.count token *
      refundDue (w.storage.getDonorAssetDonation donor token) numerator campaign.raisedAmount := by
  have hopen : ¬ record.refundClaimed = true := by simp [h.not_claimed]
  simp only [Storage.refundOwed, h.found, h.donor_found, if_neg hopen,
    h.numerator_eq_refundNumerator]

/-- The checks of a claim read nothing of other donors' records. -/
theorem Claimable.of_sameBooks (h : Claimable env donor w campaign record numerator)
    (hbooks : SameBooks w.storage s.storage)
    (hdonor : s.storage.donorData donor = w.storage.donorData donor) :
    Claimable env donor s campaign record numerator := by
  obtain ⟨donors, report, hstorage⟩ := hbooks
  obtain ⟨storage, ledger, events, wasmHash⟩ := s
  obtain rfl : storage = _ := hstorage
  exact
    { lock_free := h.lock_free
      authorised := h.authorised
      not_frozen := h.not_frozen
      found := h.found
      donor_found := hdonor.trans h.donor_found
      refunds_open := h.refunds_open
      in_window := h.in_window
      not_claimed := h.not_claimed
      numerator_eq := h.numerator_eq
      calculable := h.calculable }

end CampaignContract

/-- The world after a set of donors have claimed what they were owed. -/
structure AfterClaims (contract : Address) (w s : World) (claimed : Finset Address) : Prop where
  books : SameBooks w.storage s.storage
  kept : ∀ donor, donor ∉ claimed → s.storage.donorData donor = w.storage.donorData donor
  flagged : ∀ donor ∈ claimed, ∀ record, s.storage.donorData donor = some record →
    record.refundClaimed = true
  balance : ∀ token, s.ledger.balance token contract =
    w.ledger.balance token contract - ∑ donor ∈ claimed, w.storage.refundOwed donor token
  sent : ∀ donor token, s.ledger.sent token contract donor =
    w.ledger.sent token contract donor +
      if donor ∈ claimed then w.storage.refundOwed donor token else 0

namespace AfterClaims

variable {contract : Address} {overflowChecks : Bool} {w s : World} {claimed : Finset Address}

theorem refl (contract : Address) (w : World) : AfterClaims contract w w ∅ where
  books := ⟨w.storage.donorData, w.storage.cachedReport, rfl⟩
  kept := fun _ _ ↦ rfl
  flagged := by simp
  balance := by simp
  sent := by simp

variable {inv : Invocation} {next : World} {donor : Address} {campaign : CampaignData}
  {record : DonorRecord} {numerator : ℤ}

/-- A claim that passes its checks now is the donor's first, and would have passed them when
refunds began. -/
theorem claimable (h : AfterClaims contract w s claimed)
    (hclaim : CampaignContract.Claimable (inv.env (standardHost contract overflowChecks)) donor s
      campaign record numerator) :
    donor ∉ claimed ∧
      CampaignContract.Claimable (inv.env (standardHost contract overflowChecks)) donor w
        campaign record numerator := by
  have hfirst : donor ∉ claimed := by
    intro hmem
    have hflag := h.flagged donor hmem record hclaim.donor_found
    rw [hclaim.not_claimed] at hflag
    exact Bool.false_ne_true hflag
  exact ⟨hfirst, hclaim.of_sameBooks h.books.symm (h.kept donor hfirst).symm⟩

/-- The payments of a claim are what its donor was owed when refunds began. -/
theorem paidIn_eq (h : AfterClaims contract w s claimed)
    (hclaim : CampaignContract.Claimable (inv.env (standardHost contract overflowChecks)) donor w
      campaign record numerator) (token : Address) :
    paidIn token (CampaignContract.refundPayments (s.storage.getDonorAssetDonation donor) numerator
      campaign.raisedAmount campaign.issuers) = w.storage.refundOwed donor token := by
  obtain ⟨donors, cached, hbooks⟩ := h.books
  rw [CampaignContract.paidIn_refundPayments, hclaim.refundOwed_eq, hbooks]
  rfl

/-- A claim adds its donor to the set. -/
theorem claim (h : AfterClaims contract w s claimed)
    (hclaimed : CampaignContract.Claimed (inv.env (standardHost contract overflowChecks)) donor s
      next campaign record numerator) :
    AfterClaims contract w next (insert donor claimed) := by
  obtain ⟨hfirst, hclaim⟩ := h.claimable hclaimed.toClaimable
  obtain ⟨report, -, hstorage⟩ := hclaimed.storage
  have hdonors : next.storage.donorData = Function.update s.storage.donorData donor
      (some { record with refundClaimed := true }) := by rw [hstorage]
  constructor
  · obtain ⟨donors, cached, hbooks⟩ := h.books
    refine ⟨next.storage.donorData, some report, ?_⟩
    have hlock := hclaim.lock_free
    rw [hdonors, hstorage, hbooks, ← hlock]
  · intro other hother
    rw [Finset.mem_insert, not_or] at hother
    rw [hdonors, Function.update_of_ne hother.1, h.kept other hother.2]
  · intro other hother found hfound
    rw [hdonors] at hfound
    by_cases hsame : other = donor
    · subst hsame
      rw [Function.update_self] at hfound
      rw [← Option.some.inj hfound]
    · rw [Function.update_of_ne hsame] at hfound
      exact h.flagged other (Finset.mem_of_mem_insert_of_ne hother hsame) found hfound
  · intro token
    have hne : contract ≠ donor := hclaimed.authorised.2.symm
    have hbalance : next.ledger.balance token contract = s.ledger.balance token contract - _ :=
      Ledger.balance_source_transferAll hne hclaimed.ledger token
    rw [hbalance, h.paidIn_eq hclaim, h.balance, Finset.sum_insert hfirst]
    ring
  · intro other token
    have hsent := Ledger.sent_transferAll hclaimed.ledger token contract other
    have hself : (inv.env (standardHost contract overflowChecks)).host.contract = contract := rfl
    rw [hself, h.paidIn_eq hclaim, h.sent] at hsent
    rw [hsent]
    by_cases hsame : other = donor
    · rw [hsame, if_neg hfirst, if_pos ⟨rfl, rfl⟩, if_pos (Finset.mem_insert_self donor claimed),
        add_zero]
    · simp only [Finset.mem_insert, hsame, Ne.symm hsame, false_or, and_false, if_false, add_zero]

/-- What a claim refunds was fixed when refunds began. -/
theorem refundedTo_eq (h : AfterClaims contract w s claimed) (hcall : inv.call = .claimRefund donor)
    (hclaimed : CampaignContract.Claimed (inv.env (standardHost contract overflowChecks)) donor s
      next campaign record numerator) (d t : Address) :
    refundedTo contract d t ⟨.invoke inv, s, next⟩ =
      if d = donor then w.storage.refundOwed d t else 0 := by
  obtain ⟨-, hclaim⟩ := h.claimable hclaimed.toClaimable
  obtain ⟨donors, cached, hbooks⟩ := h.books
  have hpaid := refundedTo_of_claimed hcall hclaimed d t
  simp only [standardHost] at hpaid
  rw [hpaid]
  by_cases hd : d = donor
  · rw [if_pos hd, if_pos hd.symm, hd, hclaim.refundOwed_eq, hbooks]
    rfl
  · rw [if_neg hd, if_neg (Ne.symm hd)]

/-- A claim that passed its checks when refunds began succeeds once, as long as the contract held
what the claimants are owed. -/
theorem exists_claimed (h : AfterClaims contract w s claimed)
    (hclaim : CampaignContract.Claimable (inv.env (standardHost contract overflowChecks)) donor w
      campaign record numerator)
    (hfirst : donor ∉ claimed) (hreport : campaign.Reportable)
    (hcover : ∀ token, ∑ d ∈ insert donor claimed, w.storage.refundOwed d token ≤
      w.ledger.balance token contract) :
    ∃ next, CampaignContract.Claimed (inv.env (standardHost contract overflowChecks)) donor s next
      campaign record numerator := by
  have hnow := hclaim.of_sameBooks h.books (h.kept donor hfirst)
  have hne : contract ≠ donor := hclaim.authorised.2.symm
  have hpaid : ∀ token, paidIn token (CampaignContract.refundPayments
      (s.storage.getDonorAssetDonation donor) numerator campaign.raisedAmount campaign.issuers) ≤
        s.ledger.balance token contract := by
    intro token
    have hbound := hcover token
    rw [Finset.sum_insert hfirst] at hbound
    rw [h.paidIn_eq hclaim, h.balance]
    linarith
  obtain ⟨ledger, hledger⟩ :=
    Ledger.transferAll_isSome hne CampaignContract.refundPayments_nonneg hpaid
  exact hnow.exists_claimed hreport hledger

end AfterClaims

/-! ### Lists of claims -/

/-- The contract holds what the donors with a property are owed, in every token. -/
def Covers (contract : Address) (w : World) (owing : Address → Prop) : Prop :=
  ∀ donors : Finset Address, (∀ d ∈ donors, owing d) → ∀ token,
    ∑ d ∈ donors, w.storage.refundOwed d token ≤ w.ledger.balance token contract

theorem Covers.mono {contract : Address} {w : World} {owing owing' : Address → Prop}
    (h : Covers contract w owing) (himp : ∀ d, owing' d → owing d) : Covers contract w owing' :=
  fun donors hdonors ↦ h donors fun d hd ↦ himp d (hdonors d hd)

/-- The donor whose refund a call claims. -/
def Call.claimant : Call → Option Address
  | .claimRefund donor => some donor
  | _ => none

def Action.claimant : Action → Option Address
  | .invoke inv => inv.call.claimant
  | .transfer _ _ _ _ => none

theorem Action.claimant_eq_some {action : Action} {donor : Address}
    (h : action.claimant = some donor) :
    ∃ inv, action = .invoke inv ∧ inv.call = .claimRefund donor := by
  cases action with
  | transfer => exact absurd h (by simp [claimant])
  | invoke inv =>
    refine ⟨inv, rfl, ?_⟩
    rw [claimant] at h
    cases hcall : inv.call <;> simp_all [Call.claimant]

/-- The donors whose refunds the actions claim. -/
def claimants (acts : List Action) : Finset Address := (acts.filterMap Action.claimant).toFinset

/-- The action is a claim by a donor that passes every check but the balance. -/
def Admissible (host : Host) (w : World) (donor : Address) (action : Action) : Prop :=
  ∃ inv campaign record numerator, action = .invoke inv ∧ inv.call = .claimRefund donor ∧
    inv.WellTyped ∧ CampaignContract.Claimable (inv.env host) donor w campaign record numerator

theorem Admissible.claimant_eq {host : Host} {w : World} {donor : Address} {action : Action}
    (h : Admissible host w donor action) : action.claimant = some donor := by
  obtain ⟨inv, campaign, record, numerator, rfl, hcall, -⟩ := h
  rw [Action.claimant, hcall]
  rfl

theorem mem_claimants {acts : List Action} {donor : Address} :
    donor ∈ claimants acts ↔ ∃ a ∈ acts, a.claimant = some donor := by
  simp [claimants]

theorem claimants_cons_of_claimant {a : Action} {donor : Address}
    (h : a.claimant = some donor) (rest : List Action) :
    claimants (a :: rest) = insert donor (claimants rest) := by
  rw [claimants, List.filterMap_cons_some h, List.toFinset_cons, claimants]

section Standard

variable {contract : Address} {overflowChecks : Bool} {w s : World} {claimed : Finset Address}
  {inv : Invocation} {donor : Address} {campaign : CampaignData} {v : List MilestoneData}

/-- A claim succeeds when its arguments are well typed and it is a claim. -/
theorem exec_claim_eq_ok_iff {next : World} (hcall : inv.call = .claimRefund donor) :
    (chain (standardHost contract overflowChecks)).exec (.invoke inv) s = .ok next ↔
      inv.WellTyped ∧ ∃ campaign record numerator,
        CampaignContract.Claimed (inv.env (standardHost contract overflowChecks)) donor s next
          campaign record numerator := by
  rw [exec_invoke_eq_ok_iff, hcall]
  exact and_congr_right fun _ ↦ CampaignContract.claimRefund_eq_ok_iff rfl

/-- An admissible claim of a donor who has not claimed succeeds. -/
theorem Admissible.exists_exec {action : Action}
    (h : Admissible (standardHost contract overflowChecks) w donor action)
    (hw : Established w.storage campaign v) (hs : AfterClaims contract w s claimed)
    (hfirst : donor ∉ claimed)
    (hcover : ∀ token, ∑ d ∈ insert donor claimed, w.storage.refundOwed d token ≤
      w.ledger.balance token contract) :
    ∃ next, (chain (standardHost contract overflowChecks)).exec action s = .ok next ∧
      AfterClaims contract w next (insert donor claimed) := by
  obtain ⟨inv, found, record, numerator, rfl, hcall, htyped, hclaim⟩ := h
  obtain rfl := hw.campaign_eq hclaim.found
  obtain ⟨next, hclaimed⟩ := hs.exists_claimed hclaim hfirst hw.reportable hcover
  exact ⟨next, (exec_claim_eq_ok_iff hcall).mpr ⟨htyped, _, _, _, hclaimed⟩, hs.claim hclaimed⟩

/-- A claim that succeeds is an admissible first claim. -/
theorem AfterClaims.admissible_of_exec {next : World} (hs : AfterClaims contract w s claimed)
    (hcall : inv.call = .claimRefund donor)
    (hexec : (chain (standardHost contract overflowChecks)).exec (.invoke inv) s = .ok next) :
    donor ∉ claimed ∧
      Admissible (standardHost contract overflowChecks) w donor (.invoke inv) ∧
      AfterClaims contract w next (insert donor claimed) ∧
      ∀ d t, refundedTo contract d t ⟨.invoke inv, s, next⟩ =
        if d = donor then w.storage.refundOwed d t else 0 := by
  obtain ⟨htyped, campaign, record, numerator, hclaimed⟩ := (exec_claim_eq_ok_iff hcall).mp hexec
  obtain ⟨hfirst, hclaim⟩ := hs.claimable hclaimed.toClaimable
  exact ⟨hfirst, ⟨inv, campaign, record, numerator, rfl, hcall, htyped, hclaim⟩, hs.claim hclaimed,
    hs.refundedTo_eq hcall hclaimed⟩

/-- Admissible claims of different donors all succeed, in the order they are given, when the
contract held what all of them are owed. -/
theorem AfterClaims.execAll {acts : List Action} (hw : Established w.storage campaign v)
    (hs : AfterClaims contract w s claimed)
    (hclaims : ∀ a ∈ acts, ∃ d, Admissible (standardHost contract overflowChecks) w d a)
    (hnodup : (acts.filterMap Action.claimant).Nodup)
    (hfirst : ∀ d ∈ claimants acts, d ∉ claimed)
    (hcover : Covers contract w fun d ↦ d ∈ claimed ∪ claimants acts) :
    ∃ final, (chain (standardHost contract overflowChecks)).execAll acts s = .ok final ∧
      AfterClaims contract w final (claimed ∪ claimants acts) := by
  induction acts generalizing s claimed with
  | nil => exact ⟨s, rfl, by simpa [claimants] using hs⟩
  | cons a rest ih =>
    obtain ⟨d, hadmissible⟩ := hclaims a List.mem_cons_self
    have hclaimant := hadmissible.claimant_eq
    have hunion : claimed ∪ claimants (a :: rest) = insert d claimed ∪ claimants rest := by
      rw [claimants_cons_of_claimant hclaimant, Finset.union_insert, Finset.insert_union]
    rw [hunion] at hcover ⊢
    rw [claimants_cons_of_claimant hclaimant] at hfirst
    rw [List.filterMap_cons_some hclaimant, List.nodup_cons] at hnodup
    obtain ⟨next, hexec, hnext⟩ := hadmissible.exists_exec hw hs
      (hfirst d (Finset.mem_insert_self d _))
      (hcover _ fun other hother ↦ Finset.mem_union_left _ hother)
    have hothers : ∀ other ∈ claimants rest, other ∉ insert d claimed := by
      intro other hother
      rw [Finset.mem_insert, not_or]
      refine ⟨?_, hfirst other (Finset.mem_insert_of_mem hother)⟩
      rintro rfl
      exact hnodup.1 (List.mem_toFinset.mp hother)
    obtain ⟨final, hrest, hfinal⟩ := ih hnext
      (fun b hb ↦ hclaims b (List.mem_cons_of_mem a hb)) hnodup.2 hothers hcover
    exact ⟨final, by rw [System.execAll, hexec]; exact hrest, hfinal⟩

end Standard

end OrbitChain.Campaign
