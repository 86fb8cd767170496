import OrbitChain.Campaign.Invariants
import OrbitChain.Foundations.PledgeBook

/-!
# The books of a campaign

The contract stores the same donations five times: in the campaign record, in the total of all
tokens, in the total of each token, in each donor's amount of each token and in each donor's
record. `Mirrors` says that they are the totals of one `PledgeBook`. Every reachable storage
mirrors a book, and what that book paid out of a token is what the multi-asset releases of the
run transferred (`CampaignRun.mirrors`): donations pledge, multi-asset releases pay out, and every
other action leaves the book alone.
-/

set_option autoImplicit false
set_option relaxedAutoImplicit false

namespace OrbitChain.Campaign

open Foundations

/-- What a donor's record says was donated, nothing without a record. -/
def Storage.totalDonated (s : Storage) (donor : Address) : ℤ :=
  ((s.donorData donor).map DonorRecord.totalDonated).getD 0

/-- The amount raised according to the campaign record. -/
def Storage.raisedAmount (s : Storage) : ℤ :=
  (s.campaignData.map CampaignData.raisedAmount).getD 0

theorem Established.raisedAmount_eq {s : Storage} {campaign : CampaignData}
    {v : List MilestoneData} (h : Established s campaign v) :
    s.raisedAmount = campaign.raisedAmount := by
  rw [Storage.raisedAmount, h.found]
  rfl

/-- What an action moved of a token from the contract to the recipient of a multi-asset release,
by the transfer log, and nothing for any other action. -/
def multiAssetPaid (contract token : Address) (r : Receipt Action World) : ℤ :=
  match r.label with
  | .invoke ⟨_, _, _, .releaseMilestoneMultiAsset _ recipient⟩ =>
    r.after.ledger.sent token contract recipient - r.before.ledger.sent token contract recipient
  | _ => 0

/-- The stored totals are the totals of a book. -/
structure Mirrors (s : Storage) (book : PledgeBook Address Address) : Prop where
  raised : s.raisedAmount = book.raised
  donated : ∀ d, s.totalDonated d = book.donated d
  pledged : ∀ d t, s.getDonorAssetDonation d t = book.pledged d t
  held : ∀ t, s.getAssetRaised t = book.held t
  totalHeld : s.getTotalRaised = book.totalHeld
  listed : ∀ d t, book.pledged d t ≠ 0 →
    ∃ campaign, s.campaignData = some campaign ∧ t ∈ campaign.issuers

namespace Mirrors

variable {s s' : Storage} {book : PledgeBook Address Address}

theorem empty : Mirrors .empty PledgeBook.empty where
  raised := by rw [PledgeBook.raised_empty]; rfl
  donated d := by rw [PledgeBook.donated_empty]; rfl
  pledged _ _ := rfl
  held t := by rw [PledgeBook.held_empty]; rfl
  totalHeld := by rw [PledgeBook.totalHeld_empty]; rfl
  listed d t h := absurd rfl h

/-- A storage with the same books mirrors the same book, as long as the accepted list stays. -/
theorem congr (h : Mirrors s book) (hraised : s'.raisedAmount = s.raisedAmount)
    (hdonated : ∀ d, s'.totalDonated d = s.totalDonated d)
    (hpairs : s'.donorAssetDonation = s.donorAssetDonation)
    (hassets : s'.assetRaised = s.assetRaised) (htotal : s'.totalRaised = s.totalRaised)
    (hlisted : ∀ campaign, s.campaignData = some campaign →
      ∃ campaign', s'.campaignData = some campaign' ∧ campaign'.issuers = campaign.issuers) :
    Mirrors s' book where
  raised := hraised.trans h.raised
  donated d := (hdonated d).trans (h.donated d)
  pledged d t := by rw [Storage.getDonorAssetDonation, hpairs]; exact h.pledged d t
  held t := by rw [Storage.getAssetRaised, hassets]; exact h.held t
  totalHeld := by rw [Storage.getTotalRaised, htotal]; exact h.totalHeld
  listed d t hpledged := by
    obtain ⟨campaign, hcampaign, ht⟩ := h.listed d t hpledged
    obtain ⟨campaign', hcampaign', hissuers⟩ := hlisted campaign hcampaign
    exact ⟨campaign', hcampaign', hissuers ▸ ht⟩

/-- A donation pledges its amount in the token it resolved to. -/
theorem of_donated (h : Mirrors s book) {env : Env} {donor : Address} {amount : ℤ}
    {asset : AssetInfo} {w next : World} {campaign : CampaignData} {token : Address}
    (hdonated : CampaignContract.Donated env donor amount asset w next campaign token)
    (hs : w.storage = s) :
    Mirrors next.storage (book.pledge donor token amount (Int.le_of_lt hdonated.amount_pos)) := by
  subst hs
  obtain ⟨record, hrecord, hdonors⟩ := hdonated.donorData
  have htotal := (DonorRecord.applyDonation_ok hrecord).1
  constructor
  · have hold : w.storage.raisedAmount = campaign.raisedAmount := by
      rw [Storage.raisedAmount, hdonated.found]
      rfl
    rw [PledgeBook.raised_pledge, ← h.raised, hold, Storage.raisedAmount, hdonated.campaignData]
    rfl
  · intro d
    rw [PledgeBook.donated_pledge, ← h.donated, Storage.totalDonated, hdonors]
    by_cases hd : d = donor
    · subst hd
      rw [Function.update_self, if_pos rfl, Option.map_some, Option.getD_some, htotal,
        Storage.totalDonated]
      cases w.storage.donorData d <;> rfl
    · rw [Function.update_of_ne hd, if_neg hd, add_zero]
      rfl
  · intro d t
    change _ = book.pledged d t + _
    rw [← h.pledged, Storage.getDonorAssetDonation, hdonated.donorAssetDonation]
    by_cases hd : d = donor
    · subst hd
      rw [Function.update_self]
      by_cases ht : t = token
      · subst ht
        rw [Function.update_self, if_pos ⟨rfl, rfl⟩]
        rfl
      · rw [Function.update_of_ne ht, if_neg fun h ↦ ht h.2, add_zero]
        rfl
    · rw [Function.update_of_ne hd, if_neg fun h ↦ hd h.1, add_zero]
      rfl
  · intro t
    rw [PledgeBook.held_pledge, ← h.held, Storage.getAssetRaised, hdonated.assetRaised]
    by_cases ht : t = token
    · subst ht
      rw [Function.update_self, if_pos rfl]
      rfl
    · rw [Function.update_of_ne ht, if_neg ht, add_zero]
      rfl
  · rw [PledgeBook.totalHeld_pledge, ← h.totalHeld, Storage.getTotalRaised, hdonated.totalRaised]
    rfl
  · intro d t hpledged
    refine ⟨_, hdonated.campaignData, ?_⟩
    by_cases ht : t = token
    · rw [ht]
      exact mem_issuers_of_resolved hdonated.resolved
    · have hold : book.pledged d t ≠ 0 := by
        intro hzero
        apply hpledged
        change book.pledged d t + _ = 0
        rw [hzero, if_neg fun h ↦ ht h.2, add_zero]
      obtain ⟨found, hfound, ht⟩ := h.listed d t hold
      obtain rfl : found = campaign := Option.some.inj (hfound.symm.trans hdonated.found)
      exact ht

/-- A multi-asset release pays its payments out of the book. -/
theorem of_multiReleased (h : Mirrors s book) {env : Env} {index : ℕ} {recipient : Address}
    {w next : World} {campaign : CampaignData} {milestone : MilestoneData}
    (hreleased : MultiAssetRelease.Released env index recipient w next campaign milestone)
    (hs : w.storage = s) :
    ∃ book', Mirrors next.storage book' ∧ ∀ t, book'.paidOut t = book.paidOut t +
      paidIn t (MultiAssetRelease.milestonePayments w.storage campaign milestone) := by
  subst hs
  obtain ⟨report, -, hstorage⟩ := hreleased.storage
  have hpaid : ∀ x ∈ MultiAssetRelease.milestonePayments w.storage campaign milestone,
      0 ≤ x.2 := fun x hx ↦ zero_le_one.trans (MultiAssetRelease.releasePayments_pos x hx)
  have hheld : ∀ t, paidIn t (MultiAssetRelease.milestonePayments w.storage campaign milestone)
      ≤ book.held t := by
    intro t
    rw [← h.held]
    refine hreleased.deductible.paidIn_le (fun t ↦ ?_) t
    have hnonneg := book.held_nonneg t
    rwa [← h.held] at hnonneg
  refine ⟨book.payOut _ (paidIn_nonneg hpaid) hheld, ?_, fun t ↦ rfl⟩
  constructor
  · rw [hstorage]
    exact h.raised
  · intro d
    rw [hstorage]
    exact h.donated d
  · intro d t
    rw [hstorage]
    exact h.pledged d t
  · intro t
    rw [PledgeBook.held_payOut, ← h.held, hstorage]
    exact MultiAssetRelease.deductAll_getD _ _ t
  · rw [PledgeBook.totalHeld_payOut, ← h.totalHeld, sum_paidIn, hstorage]
    rfl
  · intro d t hpledged
    rw [hstorage]
    exact h.listed d t hpledged

/-- Nothing is recorded of a token that is not accepted. -/
theorem getAssetRaised_of_unlisted (h : Mirrors s book) {campaign : CampaignData}
    (hfound : s.campaignData = some campaign) {t : Address} (ht : t ∉ campaign.issuers) :
    s.getAssetRaised t = 0 := by
  have hnothing : ∀ d, book.pledged d t = 0 := by
    intro d
    by_contra hpledged
    obtain ⟨found, hsame, hlisted⟩ := h.listed d t hpledged
    obtain rfl : found = campaign := Option.some.inj (hsame.symm.trans hfound)
    exact ht hlisted
  have hcollected : book.collected t = 0 := Finset.sum_eq_zero fun d _ ↦ hnothing d
  have hheld := book.held_le_collected t
  have hnonneg := book.held_nonneg t
  rw [h.held]
  omega

/-- The recorded amounts of the accepted tokens add up to the recorded total. -/
theorem sum_issuers (h : Mirrors s book)
    {campaign : CampaignData} (hfound : s.campaignData = some campaign) :
    ∑ t ∈ campaign.issuers.toFinset, s.getAssetRaised t = s.getTotalRaised := by
  rw [h.totalHeld, PledgeBook.totalHeld, ← Finset.sum_congr rfl fun t _ ↦ h.held t]
  refine Finset.sum_subset (Finset.subset_univ _) fun t _ ht ↦ ?_
  exact h.getAssetRaised_of_unlisted hfound fun hlisted ↦ ht (List.mem_toFinset.mpr hlisted)

/-- Nothing recorded is negative. -/
theorem getAssetRaised_nonneg (h : Mirrors s book) (t : Address) : 0 ≤ s.getAssetRaised t := by
  rw [h.held]
  exact book.held_nonneg t

/-- What is recorded of a token is at most what was raised. -/
theorem getAssetRaised_le (h : Mirrors s book) (t : Address) :
    s.getAssetRaised t ≤ s.raisedAmount := by
  rw [h.held, h.raised]
  exact (book.held_le_collected t).trans (book.collected_le_raised t)

theorem getTotalRaised_nonneg (h : Mirrors s book) : 0 ≤ s.getTotalRaised := by
  rw [h.totalHeld]
  exact book.totalHeld_nonneg

theorem getTotalRaised_le (h : Mirrors s book) : s.getTotalRaised ≤ s.raisedAmount := by
  rw [h.totalHeld, h.raised]
  exact book.totalHeld_le_raised

end Mirrors

/-! ### Every run keeps one book -/

theorem multiAssetPaid_of_ne {contract token : Address} {inv : Invocation} {w next : World}
    (h : ∀ index recipient, inv.call ≠ .releaseMilestoneMultiAsset index recipient) :
    multiAssetPaid contract token ⟨.invoke inv, w, next⟩ = 0 := by
  obtain ⟨timestamp, sequence, authorisers, call⟩ := inv
  cases call with
  | releaseMilestoneMultiAsset index recipient => exact absurd rfl (h index recipient)
  | _ => rfl

theorem multiAssetPaid_of_released {host : Host} {token : Address} {inv : Invocation}
    {index : ℕ} {recipient : Address} {w next : World} {campaign : CampaignData}
    {milestone : MilestoneData} (hcall : inv.call = .releaseMilestoneMultiAsset index recipient)
    (h : MultiAssetRelease.Released (inv.env host) index recipient w next campaign milestone) :
    multiAssetPaid host.contract token ⟨.invoke inv, w, next⟩ =
      paidIn token (MultiAssetRelease.milestonePayments w.storage campaign milestone) := by
  obtain ⟨timestamp, sequence, authorisers, call⟩ := inv
  obtain rfl : call = _ := hcall
  have hsent := Ledger.sent_transferAll h.ledger token host.contract recipient
  rw [if_pos ⟨rfl, rfl⟩] at hsent
  change next.ledger.sent token host.contract recipient - _ = _
  rw [hsent, add_sub_cancel_left]

/-- Every step moves a mirrored storage to a mirrored storage, and the book pays out what the
step released over several assets. -/
theorem Step.mirrors {host : Host} {action : Action} {w next : World}
    (hstep : Step host action w next) {book : PledgeBook Address Address}
    (h : Mirrors w.storage book) :
    ∃ book', Mirrors next.storage book' ∧ ∀ t,
      book'.paidOut t = book.paidOut t + multiAssetPaid host.contract t ⟨action, w, next⟩ := by
  cases hstep with
  | transferred _ _ hstorage => exact ⟨book, hstorage ▸ h, fun t ↦ (add_zero _).symm⟩
  | initialized typed hcall hempty hinit =>
    obtain ⟨report, hstorage⟩ := hinit.storage
    refine ⟨book, ?_, fun t ↦ ?_⟩
    · rw [hempty] at h hstorage
      refine h.congr ?_ ?_ ?_ ?_ ?_ ?_ <;> simp [hstorage, Storage.raisedAmount,
        Storage.totalDonated, Storage.empty, CampaignContract.initialCampaign]
    · rw [multiAssetPaid_of_ne (by simp [hcall]), add_zero]
  | donated typed hcall hdonated =>
    refine ⟨_, h.of_donated hdonated rfl, fun t ↦ ?_⟩
    rw [multiAssetPaid_of_ne (by simp [hcall]), add_zero]
    rfl
  | @claimed inv w next donor campaign record numerator typed hcall hclaimed =>
    obtain ⟨report, -, hstorage⟩ := hclaimed.storage
    have hdonors : next.storage.donorData = Function.update w.storage.donorData donor
        (some { record with refundClaimed := true }) := by rw [hstorage]
    refine ⟨book, ?_, fun t ↦ ?_⟩
    · refine h.congr (by rw [hstorage]; rfl) (fun d ↦ ?_) (by rw [hstorage]) (by rw [hstorage])
        (by rw [hstorage]) fun found hfound ↦ ⟨found, by rw [hstorage]; exact hfound, rfl⟩
      rw [Storage.totalDonated, Storage.totalDonated, hdonors]
      by_cases hd : d = donor
      · rw [hd, Function.update_self, hclaimed.donor_found]
        rfl
      · rw [Function.update_of_ne hd]
    · rw [multiAssetPaid_of_ne (by simp [hcall]), add_zero]
  | released typed hcall hreleased =>
    obtain ⟨report, -, hstorage⟩ := hreleased.storage
    refine ⟨book, ?_, fun t ↦ ?_⟩
    · refine h.congr ?_ (fun d ↦ ?_) ?_ ?_ ?_ (fun found hfound ↦ ⟨found, ?_, rfl⟩) <;>
        rw [hstorage]
      · rfl
      · rfl
      · exact hfound
    · rw [multiAssetPaid_of_ne (by simp [hcall]), add_zero]
  | multiReleased typed hcall hreleased =>
    obtain ⟨book', hbook', hpaid⟩ := h.of_multiReleased hreleased rfl
    refine ⟨book', hbook', fun t ↦ ?_⟩
    rw [hpaid, multiAssetPaid_of_released hcall hreleased]
  | @administered inv w next campaign endTime concluded typed hcall hadmin =>
    obtain ⟨frozen, blocked, report, hstorage⟩ := hadmin.storage
    refine ⟨book, ?_, fun t ↦ ?_⟩
    · refine h.congr ?_ (fun d ↦ ?_) ?_ ?_ ?_ (fun found hfound ↦ ?_) <;> rw [hstorage]
      · rw [Storage.raisedAmount, Storage.raisedAmount, hadmin.found]
        rfl
      · rfl
      · obtain rfl : found = campaign := Option.some.inj (hfound.symm.trans hadmin.found)
        exact ⟨_, rfl, rfl⟩
    · rw [multiAssetPaid_of_ne, add_zero]
      intro index recipient hmulti
      rw [hmulti] at hcall
      exact absurd hcall Bool.false_ne_true

/-- A donor gives the whole goal in one token, settles it, and the first of two milestones is
released over all assets. -/
def Sample.splitRelease : List Action :=
  [Sample.opening [⟨"XLM", some Sample.token⟩] [Sample.milestone 500, Sample.milestone 1000] 1000,
    Sample.giving Sample.donor 1000 Sample.token,
    .transfer Sample.token Sample.donor Sample.contract 1000,
    Sample.call Sample.creator (.releaseMilestoneMultiAsset 0 Sample.recipient)]

section Runs

variable {contract : Address} {overflowChecks : Bool} {ledger : Ledger Address Address}
  {wasmHash : BitVec 256} {history : List (Receipt Action World)} {w : World}

/-- Every reachable storage mirrors a book that paid out what the multi-asset releases of the run
transferred. -/
theorem CampaignRun.mirrors
    (run : CampaignRun contract overflowChecks ledger wasmHash history w) :
    ∃ book, Mirrors w.storage book ∧
      ∀ t, book.paidOut t = (history.map (multiAssetPaid contract t)).sum := by
  refine CampaignRun.induction (I := fun history w ↦ ∃ book, Mirrors w.storage book ∧
      ∀ t, book.paidOut t = (history.map (multiAssetPaid contract t)).sum)
    ⟨PledgeBook.empty, Mirrors.empty, fun t ↦ rfl⟩ ?_ run
  rintro history w action next - ⟨book, hbook, hpaid⟩ hstep
  obtain ⟨book', hbook', hpaid'⟩ := hstep.mirrors hbook
  refine ⟨book', hbook', fun t ↦ ?_⟩
  rw [hpaid', hpaid, List.map_cons, List.sum_cons, add_comm]
  rfl

/-- The four records of donations agree: the campaign's raised amount is the sum of the donors'
totals, a donor's total is the sum of the donor's amounts, the amounts given of a token are what
is recorded of it and what multi-asset releases paid in it, and nothing is recorded under a token
that is not the issuer of an accepted entry. -/
theorem donor_accounting
    (run : CampaignRun contract overflowChecks ledger wasmHash history w) :
    w.storage.raisedAmount = ∑ d, w.storage.totalDonated d ∧
    (∀ d, w.storage.totalDonated d = ∑ t, w.storage.getDonorAssetDonation d t) ∧
    (∀ t, ∑ d, w.storage.getDonorAssetDonation d t =
      w.storage.getAssetRaised t + (history.map (multiAssetPaid contract t)).sum) ∧
    ∀ d t, w.storage.getDonorAssetDonation d t ≠ 0 →
      ∃ campaign, w.storage.campaignData = some campaign ∧
        ∃ a ∈ campaign.acceptedAssets, a.issuer = some t := by
  obtain ⟨book, hbook, hpaid⟩ := CampaignRun.mirrors run
  refine ⟨?_, fun d ↦ ?_, fun t ↦ ?_, fun d t hgiven ↦ ?_⟩
  · rw [hbook.raised]
    exact Finset.sum_congr rfl fun d _ ↦ (hbook.donated d).symm
  · rw [hbook.donated]
    exact Finset.sum_congr rfl fun t _ ↦ (hbook.pledged d t).symm
  · rw [hbook.held, ← hpaid, PledgeBook.held, sub_add_cancel]
    exact Finset.sum_congr rfl fun d _ ↦ hbook.pledged d t
  · rw [hbook.pledged] at hgiven
    obtain ⟨campaign, hcampaign, ht⟩ := hbook.listed d t hgiven
    exact ⟨campaign, hcampaign, mem_issuers_iff.mp ht⟩

theorem donor_accounting_splitRelease :
    ∑ d, (Sample.reached Sample.splitRelease).storage.totalDonated d = 1000 ∧
      ∑ d, (Sample.reached Sample.splitRelease).storage.getDonorAssetDonation d Sample.token
        = 500 + 500 := by
  obtain ⟨hraised, -, htoken, -⟩ := donor_accounting (Sample.run Sample.splitRelease)
  rw [← hraised, htoken]
  decide +kernel

/-- The recorded total is the sum of the recorded amounts of the tokens, and none of them is
negative. -/
theorem raised_total_coherent
    (run : CampaignRun contract overflowChecks ledger wasmHash history w) :
    w.storage.getTotalRaised = ∑ t, w.storage.getAssetRaised t ∧
      0 ≤ w.storage.getTotalRaised ∧ ∀ t, 0 ≤ w.storage.getAssetRaised t := by
  obtain ⟨book, hbook, -⟩ := CampaignRun.mirrors run
  refine ⟨?_, ?_, fun t ↦ ?_⟩
  · rw [hbook.totalHeld]
    exact Finset.sum_congr rfl fun t _ ↦ (hbook.held t).symm
  · rw [hbook.totalHeld]
    exact book.totalHeld_nonneg
  · rw [hbook.held]
    exact book.held_nonneg t

theorem raised_total_coherent_splitRelease :
    ∑ t, (Sample.reached Sample.splitRelease).storage.getAssetRaised t = 500 := by
  rw [← (raised_total_coherent (Sample.run Sample.splitRelease)).1]
  decide +kernel

/-! ### The two published totals -/

/-- The `get_total_raised` view, the campaign record, the report and the donors' totals publish
one amount. -/
def TotalsAgree (w : World) : Prop :=
  CampaignContract.getTotalRaised w = w.storage.raisedAmount ∧
  (∀ campaign, w.storage.campaignData = some campaign →
    ∃ report, CampaignContract.getCampaignReport w = .ok (some report) ∧
      report.raisedAmount = CampaignContract.getTotalRaised w) ∧
  CampaignContract.getTotalRaised w = ∑ d, w.storage.totalDonated d

/-- Releasing a milestone over several assets would pay nothing: every accepted token's share of
the pending amount is below one unit. -/
def NothingDue (s : Storage) (index : ℕ) : Prop :=
  ∀ campaign milestone, s.campaignData = some campaign → s.getMilestone index = some milestone →
    ∀ token ∈ campaign.issuers, MultiAssetRelease.computeAssetRelease (s.getAssetRaised token)
      (milestone.targetAmount - milestone.releasedAmount) s.getTotalRaised = none

/-- Every multi-asset release of a history started where nothing was due. -/
def NothingPaid (history : List (Receipt Action World)) : Prop :=
  ∀ r ∈ history, ∀ inv index recipient, r.label = .invoke inv →
    inv.call = .releaseMilestoneMultiAsset index recipient → NothingDue r.before.storage index

/-- A list of payments of at least one unit pays nothing in any token exactly when it is empty. -/
theorem paidIn_eq_zero_iff {payments : List (Address × ℤ)} (h : ∀ x ∈ payments, 1 ≤ x.2) :
    (∀ t, paidIn t payments = 0) ↔ payments = [] := by
  constructor
  · intro hzero
    cases payments with
    | nil => rfl
    | cons x rest =>
      have hrest : 0 ≤ paidIn x.1 rest :=
        paidIn_nonneg (fun y hy ↦ zero_le_one.trans (h y (List.mem_cons_of_mem x hy))) x.1
      have hfirst := h x List.mem_cons_self
      have hsum := hzero x.1
      rw [paidIn_cons, if_pos rfl] at hsum
      omega
  · rintro rfl t
    rfl

/-- A step pays nothing over several assets exactly when it is no such release or nothing was
due. -/
theorem Step.multiAssetPaid_eq_zero_iff {host : Host} {action : Action} {w next : World}
    (h : Step host action w next) :
    (∀ t, multiAssetPaid host.contract t ⟨action, w, next⟩ = 0) ↔
      ∀ inv index recipient, action = .invoke inv →
        inv.call = .releaseMilestoneMultiAsset index recipient → NothingDue w.storage index := by
  cases action with
  | transfer token source target amount =>
    exact ⟨fun _ _ _ _ hinv ↦ (nomatch hinv), fun _ _ ↦ rfl⟩
  | invoke inv =>
    by_cases hmulti : ∃ index recipient, inv.call = .releaseMilestoneMultiAsset index recipient
    · obtain ⟨index, recipient, hcall⟩ := hmulti
      obtain ⟨campaign, milestone, hreleased⟩ := h.of_releaseMilestoneMultiAsset hcall
      have hpaid : (∀ t, multiAssetPaid host.contract t ⟨.invoke inv, w, next⟩ = 0) ↔
          NothingDue w.storage index := by
        simp only [multiAssetPaid_of_released hcall hreleased]
        rw [MultiAssetRelease.milestonePayments,
          paidIn_eq_zero_iff MultiAssetRelease.releasePayments_pos,
          MultiAssetRelease.releasePayments_eq_nil_iff]
        constructor
        · intro hnone found other hfound hother
          obtain rfl : found = campaign := Option.some.inj (hfound.symm.trans hreleased.found)
          obtain rfl : other = milestone :=
            Option.some.inj (hother.symm.trans hreleased.milestone_found)
          exact hnone
        · intro hdue
          exact hdue campaign milestone hreleased.found hreleased.milestone_found
      rw [hpaid]
      constructor
      · rintro hdue inv' index' recipient' hinv hcall'
        obtain rfl : inv = inv' := by simpa using hinv
        obtain ⟨rfl, rfl⟩ : _ ∧ _ := by simpa using hcall.symm.trans hcall'
        exact hdue
      · exact fun hall ↦ hall inv index recipient rfl hcall
    · refine ⟨fun _ inv' index recipient hinv hcall ↦ ?_, fun _ t ↦ multiAssetPaid_of_ne ?_⟩
      · obtain rfl : inv = inv' := by simpa using hinv
        exact absurd ⟨index, recipient, hcall⟩ hmulti
      · exact fun index recipient hcall ↦ hmulti ⟨index, recipient, hcall⟩

theorem Step.multiAssetPaid_nonneg {host : Host} {action : Action} {w next : World}
    (h : Step host action w next) (t : Address) :
    0 ≤ multiAssetPaid host.contract t ⟨action, w, next⟩ := by
  cases action with
  | transfer token source target amount => exact le_rfl
  | invoke inv =>
    by_cases hmulti : ∃ index recipient, inv.call = .releaseMilestoneMultiAsset index recipient
    · obtain ⟨index, recipient, hcall⟩ := hmulti
      obtain ⟨campaign, milestone, hreleased⟩ := h.of_releaseMilestoneMultiAsset hcall
      rw [multiAssetPaid_of_released hcall hreleased]
      exact paidIn_nonneg (fun x hx ↦
        zero_le_one.trans (MultiAssetRelease.releasePayments_pos x hx)) t
    · have hnone : ∀ index recipient, inv.call ≠ .releaseMilestoneMultiAsset index recipient :=
        fun index recipient hcall ↦ hmulti ⟨index, recipient, hcall⟩
      exact (multiAssetPaid_of_ne hnone).ge

/-- The published totals agree in the state a run reached exactly when every multi-asset release
of the run started where nothing was due. -/
theorem totals_agree_iff
    (run : CampaignRun contract overflowChecks ledger wasmHash history w) :
    TotalsAgree w ↔ NothingPaid history := by
  obtain ⟨book, hbook, hpaid⟩ := CampaignRun.mirrors run
  have hnothing : (∀ t, book.paidOut t = 0) ↔
      ∀ r ∈ history, ∀ t, multiAssetPaid contract t r = 0 := by
    constructor
    · intro hzero r hr t
      refine List.all_zero_of_le_zero_le_of_sum_eq_zero ?_ ((hpaid t).symm.trans (hzero t))
        (List.mem_map_of_mem hr)
      intro x hx
      obtain ⟨r', hr', rfl⟩ := List.mem_map.mp hx
      exact (CampaignRun.step_of_mem run hr').1.multiAssetPaid_nonneg t
    · intro hzero t
      rw [hpaid]
      refine List.sum_eq_zero fun x hx ↦ ?_
      obtain ⟨r, hr, rfl⟩ := List.mem_map.mp hx
      exact hzero r hr t
  have hpublished : CampaignContract.getTotalRaised w = w.storage.raisedAmount ↔
      NothingPaid history := by
    calc CampaignContract.getTotalRaised w = w.storage.raisedAmount
        ↔ book.totalHeld = book.raised := by
          rw [CampaignContract.getTotalRaised, hbook.totalHeld, hbook.raised]
      _ ↔ ∀ t, book.paidOut t = 0 := book.totalHeld_eq_raised_iff
      _ ↔ ∀ r ∈ history, ∀ t, multiAssetPaid contract t r = 0 := hnothing
      _ ↔ NothingPaid history := forall₂_congr fun r hr ↦
          (CampaignRun.step_of_mem run hr).1.multiAssetPaid_eq_zero_iff
  refine ⟨fun h ↦ hpublished.mp h.1, fun h ↦ ⟨hpublished.mpr h, fun campaign hfound ↦ ?_, ?_⟩⟩
  · obtain ⟨v, hw⟩ := (CampaignRun.sound run).established hfound
    obtain ⟨report, hreport, hraised⟩ := buildCampaignReport_ok (s := w.storage) hw.reportable
    refine ⟨report, ?_, ?_⟩
    · rw [CampaignContract.getCampaignReport, Storage.getCampaign, hfound]
      simp [hreport]
    · rw [hraised, hpublished.mpr h, Storage.raisedAmount, hfound]
      rfl
  · rw [hpublished.mpr h, hbook.raised]
    exact Finset.sum_congr rfl fun d _ ↦ (hbook.donated d).symm

end Runs

theorem totals_agree_iff_splitRelease :
    ¬ NothingPaid (Sample.history Sample.splitRelease) := by
  rw [← totals_agree_iff (Sample.run Sample.splitRelease)]
  intro h
  have hpublished := h.1
  revert hpublished
  decide +kernel

/-- After a multi-asset release the recorded total has fallen below the amount raised. -/
theorem totals_diverge :
    ¬ ∀ (contract : Address) (overflowChecks : Bool) (ledger : Ledger Address Address)
      (wasmHash : BitVec 256) (history : List (Receipt Action World)) (w : World),
      CampaignRun contract overflowChecks ledger wasmHash history w → TotalsAgree w := by
  intro h
  have hpublished := (h _ _ _ _ _ _ (Sample.run Sample.splitRelease)).1
  revert hpublished
  decide +kernel

end OrbitChain.Campaign
