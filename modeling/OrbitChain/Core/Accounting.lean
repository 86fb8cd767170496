import OrbitChain.Core.Identity
import OrbitChain.Foundations.KeyedTallies
import Mathlib.Algebra.BigOperators.Intervals

/-!
# Accounting of the core contract

A donation writes seven entries by hand. In a run that initializes at most first and whose sums
and counters stay within their types, they remain the figures of one account for each campaign: the
donation history is the list of entries, the raised amount is its balance after the approved
withdrawals, and the amounts by asset and the donor list are tallied beside it (`Tallied`). The
global counters count the entries of all accounts.
-/

set_option autoImplicit false
set_option relaxedAutoImplicit false

namespace OrbitChain.Core

open Foundations OrbitChainContract
open OrbitChain.Campaign (Address)

/-- A step that initializes is the first of its history. -/
def InitializesFirst (earlier : List (Receipt Invocation World)) (r : Receipt Invocation World) :
    Prop :=
  match r.label.call with
  | .initializeContract _ => earlier = []
  | _ => True

instance (earlier : List (Receipt Invocation World)) (r : Receipt Invocation World) :
    Decidable (InitializesFirst earlier r) := by
  unfold InitializesFirst
  split <;> infer_instance

/-- The sums and counters that a receipt's invocation updates stay within their types. -/
def SumsInRange (r : Receipt Invocation World) : Prop :=
  let s := r.before.storage
  match r.label.call with
  | .createCampaign _ _ _ _ => s.getCampaignCount + 1 ≤ u64Max
  | .donate _ campaignId amount asset _ =>
    InI128 (s.raisedOf campaignId + (amount - baseFee)) ∧
      InI128 (s.getAssetRaised campaignId asset + (amount - baseFee)) ∧
      s.getTotalTxCount + 1 ≤ u64Max ∧ s.getTotalDonations + 1 ≤ u64Max
  | .withdraw _ _ _ _ => s.getTotalTxCount + 1 ≤ u64Max ∧ s.getTotalWithdrawals + 1 ≤ u64Max
  | _ => True

instance (r : Receipt Invocation World) : Decidable (SumsInRange r) := by
  unfold SumsInRange
  split <;> infer_instance

/-- The total of the net amounts of donation records. -/
abbrev netTotal (records : List DonationRecord) : ℤ := total DonationRecord.amount records

/-- The figures stored for a campaign are those of its donation history. -/
abbrev Storage.TalliedAt (s : Storage) (approved : ℤ) (campaignId : ℕ) : Prop :=
  Tallied DonationRecord.amount DonationRecord.asset DonationRecord.donor
    (s.getHistory campaignId) approved (s.raisedOf campaignId) (s.assetRaised campaignId)
    (s.getDonors campaignId)

/-- Every campaign is tallied, given the totals of the approved withdrawals. -/
structure Ledgers (approved : ℕ → ℤ) (s : Storage) : Prop where
  tallied : ∀ id, s.TalliedAt (approved id) id
  raised_nonneg : ∀ id, 0 ≤ s.raisedOf id
  history_stored : ∀ id, s.getCampaign id = none → s.getHistory id = []

/-- The global counters count donations and requests of withdrawals. -/
structure Counters (s : Storage) : Prop where
  tx : s.getTotalTxCount = s.getTotalDonations + s.getTotalWithdrawals
  donations : s.getTotalDonations =
    ∑ id ∈ Finset.Icc 1 s.getCampaignCount, (s.getHistory id).length

/-! ### Stored entries -/

section Entries

variable {s s' : Storage} {campaignId id : ℕ}

theorem getD_registerDonor {donors : ℕ → Option (List Address)} {donor : Address} :
    (registerDonor donors campaignId donor id).getD [] =
      if id = campaignId then enlist ((donors campaignId).getD []) donor
      else (donors id).getD [] := by
  unfold registerDonor enlist
  by_cases hid : id = campaignId
  · rw [hid, if_pos rfl]
    split_ifs with hmem
    · rfl
    · rw [Function.update_self, Option.getD_some]
  · rw [if_neg hid]
    split_ifs with hmem
    · rfl
    · rw [Function.update_of_ne hid]

/-- An entry in the history of one campaign is one entry more in all. -/
theorem sum_length_getHistory {ids : Finset ℕ} {record : DonationRecord} (hmem : campaignId ∈ ids)
    (hhistory : s'.history = Function.update s.history campaignId
      (some (s.getHistory campaignId ++ [record]))) :
    ∑ id ∈ ids, (s'.getHistory id).length = (∑ id ∈ ids, (s.getHistory id).length) + 1 := by
  have hlengths : (fun id ↦ (s'.getHistory id).length) =
      Function.update (fun id ↦ (s.getHistory id).length) campaignId
        ((s.getHistory campaignId).length + 1) := by
    funext id
    rw [Storage.getHistory, hhistory]
    by_cases hid : id = campaignId
    · simp [hid]
    · simp [hid, Storage.getHistory]
  rw [hlengths, Finset.sum_update_of_mem hmem,
    Finset.sum_eq_add_sum_sdiff_singleton campaignId _ fun hfree ↦ absurd hmem hfree]
  omega

end Entries

/-! ### Ledgers -/

namespace Ledgers

variable {approved : ℕ → ℤ} {s s' : Storage}

/-- Changes that keep the raised amounts and what is recorded of the donations keep the ledgers. -/
theorem congr (h : Ledgers approved s) (hraised : s'.raisedOf = s.raisedOf)
    (hassets : s'.assetRaised = s.assetRaised) (hhistory : s'.history = s.history)
    (hdonors : s'.donors = s.donors)
    (hstored : ∀ id, s'.getCampaign id = none → s.getCampaign id = none) :
    Ledgers approved s' := by
  have hrecords : s'.getHistory = s.getHistory := by
    funext id
    rw [Storage.getHistory, hhistory, Storage.getHistory]
  have hlisted : s'.getDonors = s.getDonors := by
    funext id
    rw [Storage.getDonors, hdonors, Storage.getDonors]
  refine ⟨fun id ↦ ?_, fun id ↦ ?_, fun id hid ↦ ?_⟩
  · unfold Storage.TalliedAt
    rw [hraised, hassets, hrecords, hlisted]
    exact h.tallied id
  · rw [hraised]
    exact h.raised_nonneg id
  · rw [hrecords]
    exact h.history_stored id (hstored id hid)

/-- A campaign that is not stored after another was updated was not stored before, and is not the
one updated. -/
theorem not_stored_of_update {campaignId : ℕ} {campaign : Campaign}
    (hcampaign : s'.campaign = Function.update s.campaign campaignId (some campaign)) {id : ℕ}
    (hid : s'.getCampaign id = none) : id ≠ campaignId ∧ s.getCampaign id = none := by
  unfold Storage.getCampaign at hid
  rw [hcampaign] at hid
  have hne : id ≠ campaignId := by
    rintro rfl
    simp at hid
  exact ⟨hne, (Function.update_of_ne hne _ _).symm.trans hid⟩

theorem raised_nonneg_update (h : Ledgers approved s) {campaignId : ℕ} {raised : ℤ}
    (hraised : s'.raisedOf = Function.update s.raisedOf campaignId raised)
    (hnonneg : 0 ≤ raised) (id : ℕ) : 0 ≤ s'.raisedOf id := by
  rw [hraised]
  by_cases hid : id = campaignId
  · rw [hid, Function.update_self]
    exact hnonneg
  · rw [Function.update_of_ne hid]
    exact h.raised_nonneg id

/-- A donation is entered in the ledger of its campaign. -/
theorem donate (h : Ledgers approved s) {campaignId : ℕ} {campaign : Campaign}
    {record : DonationRecord} (amount_pos : 0 < record.amount)
    (found : s.campaign campaignId = some campaign)
    (hcampaign : s'.campaign = Function.update s.campaign campaignId
      (some (campaign.withRaised (campaign.raised + record.amount))))
    (hassets : s'.assetRaised = Function.update s.assetRaised campaignId
      (Function.update (s.assetRaised campaignId) record.asset
        (some (s.getAssetRaised campaignId record.asset + record.amount))))
    (hhistory : s'.history = Function.update s.history campaignId
      (some (s.getHistory campaignId ++ [record])))
    (hdonors : s'.donors = registerDonor s.donors campaignId record.donor) :
    Ledgers approved s' := by
  have hraised := Storage.raisedOf_update hcampaign
  have hbalance := Storage.raisedOf_of_found found
  refine ⟨fun id ↦ ?_, fun id ↦ ?_, fun id hid ↦ ?_⟩
  · unfold Storage.TalliedAt Storage.getHistory Storage.getDonors
    rw [hraised, hassets, hhistory, hdonors, getD_registerDonor]
    by_cases hid : id = campaignId
    · subst hid
      rw [Function.update_self, Function.update_self, Function.update_self, if_pos rfl]
      have hentered := (h.tallied id).enter record
      rwa [hbalance] at hentered
    · rw [Function.update_of_ne hid, Function.update_of_ne hid, Function.update_of_ne hid,
        if_neg hid]
      exact h.tallied id
  · have hnonneg := h.raised_nonneg campaignId
    rw [hbalance] at hnonneg
    exact h.raised_nonneg_update hraised (add_nonneg hnonneg (Int.le_of_lt amount_pos)) id
  · obtain ⟨hne, hfree⟩ := not_stored_of_update hcampaign hid
    rw [Storage.getHistory, hhistory, Function.update_of_ne hne]
    exact h.history_stored id hfree

/-- An approval pays out of the ledger of its campaign. -/
theorem approve (h : Ledgers approved s) {approved' : ℕ → ℤ} {campaignId : ℕ}
    {campaign : Campaign} {amount : ℤ} (found : s.campaign campaignId = some campaign)
    (covered : amount ≤ campaign.raised)
    (hcampaign : s'.campaign = Function.update s.campaign campaignId
      (some (campaign.withRaised (campaign.raised - amount))))
    (hassets : s'.assetRaised = s.assetRaised) (hhistory : s'.history = s.history)
    (hdonors : s'.donors = s.donors)
    (hpaid : approved' campaignId = amount + approved campaignId)
    (hothers : ∀ id, id ≠ campaignId → approved' id = approved id) : Ledgers approved' s' := by
  have hraised := Storage.raisedOf_update hcampaign
  have hbalance := Storage.raisedOf_of_found found
  refine ⟨fun id ↦ ?_, fun id ↦ ?_, fun id hid ↦ ?_⟩
  · unfold Storage.TalliedAt Storage.getHistory Storage.getDonors
    rw [hraised, hassets, hhistory, hdonors]
    by_cases hid : id = campaignId
    · subst hid
      rw [Function.update_self, hpaid]
      have hpaidOut := (h.tallied id).payOut amount
      rwa [hbalance] at hpaidOut
    · rw [Function.update_of_ne hid, hothers id hid]
      exact h.tallied id
  · exact h.raised_nonneg_update hraised (Int.sub_nonneg_of_le covered) id
  · rw [Storage.getHistory, hhistory]
    exact h.history_stored id (not_stored_of_update hcampaign hid).2

end Ledgers

/-! ### Runs -/

section Runs

variable {overflowChecks : Bool} {history : List (Receipt Invocation World)} {inv : Invocation}
  {w next : World}

theorem InitializesFirst.of_call {r : Receipt Invocation World}
    (h : InitializesFirst history r) {admin : Address}
    (hcall : r.label.call = .initializeContract admin) : history = [] := by
  simpa only [InitializesFirst, hcall] using h

/-- What a run initializes first and counts within its type respects identity. -/
theorem respectsIdentity_of_run (run : CoreRun overflowChecks history w)
    (hfirst : Throughout InitializesFirst history) (hrange : ∀ r ∈ history, SumsInRange r) :
    Throughout (fun _ r ↦ RespectsIdentity r) history := by
  induction run with
  | start => trivial
  | @accept history w next inv prior hexec ih =>
    have hearlier := ih hfirst.2 fun r hr ↦ hrange r (List.mem_cons_of_mem _ hr)
    refine ⟨?_, hearlier⟩
    have hin := hrange _ List.mem_cons_self
    unfold SumsInRange at hin
    unfold RespectsIdentity
    cases hcall : inv.call with
    | initializeContract admin =>
      obtain rfl := hfirst.1.of_call hcall
      obtain rfl := prior.eq_start
      simp only [hcall]
      exact ⟨rfl, by simp [World.deployed, Storage.empty]⟩
    | createCampaign => simpa only [hcall] using hin
    | _ => simp only [hcall]
  | reject _ _ ih => exact ih hfirst hrange

/-- A step whose sums stay in range keeps the ledgers. -/
theorem Ledgers.step {ids : List ℕ} (wellFormed : WellFormed w.storage)
    (numbered : Numbered ids w.storage)
    (h : Ledgers (approvedTotal overflowChecks · history) w.storage)
    (hexec : (chain overflowChecks).exec inv w = .ok next)
    (hrange : SumsInRange ⟨inv, w, next⟩) :
    Ledgers (approvedTotal overflowChecks · (⟨inv, w, next⟩ :: history)) next.storage := by
  obtain ⟨replied, hreply, hstep⟩ := step_of_exec hexec
  have hunapproved (hcall : ∀ admin campaignId, inv.call ≠ .approveWithdrawal admin campaignId) :
      (approvedTotal overflowChecks · (⟨inv, w, next⟩ :: history)) =
        (approvedTotal overflowChecks · history) := by
    funext id
    exact hstep.approvedTotal_eq hreply hcall history
  unfold SumsInRange at hrange
  cases hstep with
  | initialized hcall | requested hcall | submitted hcall =>
    rw [hunapproved (by simp [hcall])]
    exact h.congr rfl rfl rfl rfl fun _ hid ↦ hid
  | @created creator title goal deadline count hcall _ hcount =>
    rw [hunapproved (by simp [hcall])]
    rw [hcall] at hrange
    obtain rfl := (uncheckedU64_eq_iff hcount).mpr hrange
    refine h.congr ?_ rfl rfl rfl fun id hid ↦ ?_
    · rw [Storage.raisedOf_update (s := w.storage) rfl]
      refine Function.update_eq_self_iff.mpr ?_
      rw [Storage.raisedOf, numbered.next_free]
      rfl
    · by_cases hnew : id = w.storage.getCampaignCount + 1
      · simp [hnew, Storage.getCampaign, World.commit] at hid
      · exact (Function.update_of_ne hnew _ _).symm.trans hid
  | @donated donor campaignId amount asset memo campaign raised assetRaised _ _ hcall _ _ amount_gt
      found _ hraised hasset =>
    rw [hunapproved (by simp [hcall])]
    simp only [hcall] at hrange
    obtain ⟨hrange, hassetRange, -⟩ := hrange
    rw [Storage.raisedOf_of_found found] at hrange
    cases Except.ok.inj ((uncheckedI128_of_inI128 hrange).symm.trans hraised)
    cases Except.ok.inj ((uncheckedI128_of_inI128 hassetRange).symm.trans hasset)
    have hpos : 0 < (donationRecord inv donor amount asset).amount := Int.sub_pos_of_lt amount_gt
    exact h.donate hpos found rfl rfl rfl rfl
  | @approved admin campaignId campaign request raised hcall _ _ open_request _ found covered
      hraised =>
    have happroved (id : ℕ) : approvedBy overflowChecks id ⟨inv, w, _⟩ = _ :=
      approvedBy_approved hcall hreply
    obtain rfl := wellFormed.raised_of_approved open_request found covered hraised
    refine h.approve found covered rfl rfl rfl rfl ?_ fun id hid ↦ ?_
    · rw [approvedTotal_cons, happroved, if_pos rfl]
    · rw [approvedTotal_cons, happroved, if_neg (Ne.symm hid), zero_add]

/-- A step in a run that initializes first and whose counters stay in range keeps the counters. -/
theorem Counters.step {ids : List ℕ} {approved : ℕ → ℤ} (prior : CoreRun overflowChecks history w)
    (numbered : Numbered ids w.storage) (ledgers : Ledgers approved w.storage)
    (h : Counters w.storage) (hexec : (chain overflowChecks).exec inv w = .ok next)
    (hfirst : InitializesFirst history ⟨inv, w, next⟩) (hrange : SumsInRange ⟨inv, w, next⟩) :
    Counters next.storage := by
  obtain ⟨replied, -, hstep⟩ := step_of_exec hexec
  unfold SumsInRange at hrange
  cases hstep with
  | @initialized admin hcall =>
    obtain rfl := hfirst.of_call hcall
    obtain rfl := prior.eq_start
    exact ⟨rfl, rfl⟩
  | @created creator title goal deadline count hcall _ hcount =>
    rw [hcall] at hrange
    obtain rfl := (uncheckedU64_eq_iff hcount).mpr hrange
    refine ⟨h.tx, ?_⟩
    have hnew := ledgers.history_stored _ numbered.next_free
    calc w.storage.getTotalDonations
        = ∑ id ∈ Finset.Icc 1 w.storage.getCampaignCount, (w.storage.getHistory id).length :=
          h.donations
      _ = ∑ id ∈ Finset.Icc 1 (w.storage.getCampaignCount + 1),
            (w.storage.getHistory id).length := by
          rw [Finset.sum_Icc_succ_top (Nat.le_add_left 1 _), hnew, List.length_nil, add_zero]
  | @donated donor campaignId amount asset memo campaign _ _ txCount donationCount hcall _ _ _
      found _ _ _ htx hdonations =>
    simp only [hcall] at hrange
    obtain ⟨-, -, htxRange, hdonationsRange⟩ := hrange
    obtain rfl := (uncheckedU64_eq_iff htx).mpr htxRange
    obtain rfl := (uncheckedU64_eq_iff hdonations).mpr hdonationsRange
    have hmem : campaignId ∈ Finset.Icc 1 w.storage.getCampaignCount :=
      Finset.mem_Icc.mpr (numbered.stored _ _ found)
    constructor
    · change w.storage.getTotalTxCount + 1 =
        w.storage.getTotalDonations + 1 + w.storage.getTotalWithdrawals
      rw [h.tx]
      omega
    · exact (congrArg (· + 1) h.donations).trans (sum_length_getHistory hmem rfl).symm
  | @requested creator campaignId recipient amount campaign txCount withdrawalCount hcall _ _ _ _ _
      _ htx hwithdrawals =>
    rw [hcall] at hrange
    obtain rfl := (uncheckedU64_eq_iff htx).mpr hrange.1
    obtain rfl := (uncheckedU64_eq_iff hwithdrawals).mpr hrange.2
    refine ⟨?_, h.donations⟩
    change w.storage.getTotalTxCount + 1 =
      w.storage.getTotalDonations + (w.storage.getTotalWithdrawals + 1)
    rw [h.tx]
    omega
  | approved | submitted => exact ⟨h.tx, h.donations⟩

/-- The ledgers and counters balance in every state of such a run. -/
theorem balanced_of_run (run : CoreRun overflowChecks history w)
    (hfirst : Throughout InitializesFirst history) (hrange : ∀ r ∈ history, SumsInRange r) :
    Ledgers (approvedTotal overflowChecks · history) w.storage ∧ Counters w.storage := by
  induction run with
  | start => exact ⟨⟨fun _ ↦ .empty, fun _ ↦ le_rfl, fun _ _ ↦ rfl⟩, ⟨rfl, rfl⟩⟩
  | accept prior hexec ih =>
    have hearlier := fun r hr ↦ hrange r (List.mem_cons_of_mem _ hr)
    obtain ⟨ledgers, counters⟩ := ih hfirst.2 hearlier
    have numbered := numbered_of_run prior (respectsIdentity_of_run prior hfirst.2 hearlier)
    have hin := hrange _ List.mem_cons_self
    exact ⟨ledgers.step (wellFormed_of_run prior) numbered hexec hin,
      counters.step prior numbered ledgers hexec hfirst.1 hin⟩
  | reject _ _ ih => exact ih hfirst hrange

/-- The figures stored for a campaign agree with its donation history and its approved
withdrawals. -/
structure Reconciled (overflowChecks : Bool) (history : List (Receipt Invocation World))
    (s : Storage) (campaignId : ℕ) (campaign : Campaign) : Prop where
  raised : campaign.raised + approvedTotal overflowChecks campaignId history =
    netTotal (s.getHistory campaignId)
  raised_nonneg : 0 ≤ campaign.raised
  asset : ∀ asset, s.getAssetRaised campaignId asset =
    netTotal ((s.getHistory campaignId).filter fun record ↦ record.asset = asset)
  asset_stored : ∀ asset, (s.assetRaised campaignId asset).isSome ↔
    asset ∈ (s.getHistory campaignId).map DonationRecord.asset
  assets : ∑ asset ∈ ((s.getHistory campaignId).map DonationRecord.asset).toFinset,
    s.getAssetRaised campaignId asset = netTotal (s.getHistory campaignId)
  donors_nodup : (s.getDonors campaignId).Nodup
  mem_donors : ∀ donor, donor ∈ s.getDonors campaignId ↔
    ∃ record ∈ s.getHistory campaignId, record.donor = donor

/-- In every state of a run that initializes at most first and whose sums and counters stay within
their types, the figures of every stored campaign are reconciled and the global counters count
all donations and requests. -/
theorem accounts_reconcile (run : CoreRun overflowChecks history w)
    (hfirst : Throughout InitializesFirst history) (hrange : ∀ r ∈ history, SumsInRange r) :
    (∀ campaignId campaign, w.storage.getCampaign campaignId = some campaign →
      Reconciled overflowChecks history w.storage campaignId campaign) ∧
    w.storage.getTotalTxCount = w.storage.getTotalDonations + w.storage.getTotalWithdrawals ∧
    w.storage.getTotalDonations =
      ∑ id ∈ Finset.Icc 1 w.storage.getCampaignCount, (w.storage.getHistory id).length ∧
    ∀ id, w.storage.getHistory id ≠ [] → id ∈ Finset.Icc 1 w.storage.getCampaignCount := by
  obtain ⟨ledgers, counters⟩ := balanced_of_run run hfirst hrange
  have numbered := numbered_of_run run (respectsIdentity_of_run run hfirst hrange)
  refine ⟨fun id campaign found ↦ ?_, counters.tx, counters.donations, fun id hhistory ↦ ?_⟩
  · have htallied := ledgers.tallied id
    have hraised := Storage.raisedOf_of_found found
    exact {
      raised := by
        rw [← hraised]
        exact htallied.balance_add
      raised_nonneg := by
        rw [← hraised]
        exact ledgers.raised_nonneg id
      asset := htallied.figure
      asset_stored := htallied.figure_stored
      assets := htallied.sum_figures
      donors_nodup := htallied.parties_nodup
      mem_donors := fun donor ↦ (htallied.mem_parties donor).trans List.mem_map }
  · cases hfound : w.storage.getCampaign id with
    | none => exact absurd (ledgers.history_stored id hfound) hhistory
    | some campaign => exact Finset.mem_Icc.mpr (numbered.stored id campaign hfound)

end Runs

/-- Two donors give to a campaign in two assets, and a withdrawal is requested and approved. -/
def Sample.twoDonors : List Invocation :=
  [⟨0, [alice], .initializeContract alice⟩,
    ⟨0, [alice], .createCampaign alice "wells" 1000 10⟩,
    ⟨1, [mallory], .donate mallory 1 400 "XLM" "for water"⟩,
    ⟨2, [alice], .donate alice 1 150 "USDC" ""⟩,
    ⟨3, [mallory], .donate mallory 1 200 "XLM" ""⟩,
    ⟨4, [alice], .withdraw alice 1 mallory 120⟩,
    ⟨5, [alice], .approveWithdrawal alice 1⟩]

/-- Of the 450 given in that run 330 are left. -/
theorem accounts_reconcile_twoDonors :
    Reconciled true ((chain true).replay Sample.twoDonors .deployed).1
      ((chain true).replay Sample.twoDonors .deployed).2.storage 1
      ⟨1, Sample.alice, "wells", 1000, 330, 10, true⟩ :=
  (accounts_reconcile ((chain true).run_replay Sample.twoDonors .deployed)
    (by decide +kernel) (by decide +kernel)).1 1 _ (by decide +kernel)

end OrbitChain.Core
