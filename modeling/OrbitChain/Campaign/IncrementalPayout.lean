import OrbitChain.Campaign.MilestoneSchedule
import OrbitChain.Campaign.ReleaseShares
import OrbitChain.Foundations.CumulativeTargets

/-!
# What releases pay

Targets are cumulative, and a milestone is documented to be worth the increment over the target
before it. Both release paths pay the milestone's target less its own released amount, which is
that increment only when the released amount was the previous target all along. A release that
starts so (`Staged`) pays the increment, and then everything a run releases is within the amount
raised and within the goal.
-/

set_option autoImplicit false
set_option relaxedAutoImplicit false

namespace OrbitChain.Campaign

open Foundations

namespace Storage

/-- The target of a milestone. -/
def target (s : Storage) (i : ℕ) : ℤ :=
  ((s.getMilestone i).map MilestoneData.targetAmount).getD 0

/-- The released amount of a milestone. -/
def released (s : Storage) (i : ℕ) : ℤ :=
  ((s.getMilestone i).map MilestoneData.releasedAmount).getD 0

/-- The cumulative target before a milestone. -/
def reached (s : Storage) : ℕ → ℤ
  | 0 => 0
  | i + 1 => s.target i

/-- The token contracts of the accepted assets. -/
def issuers (s : Storage) : List Address := (s.campaignData.map CampaignData.issuers).getD []

/-- The token contract of the first accepted asset. -/
def primaryIssuer (s : Storage) : Option Address :=
  s.campaignData.bind fun campaign ↦ campaign.acceptedAssets.head?.bind StellarAsset.issuer

end Storage

/-- What an action released, over all tokens, by the transfer log. -/
def releasePaid (contract : Address) (r : Receipt Action World) : ℤ :=
  if r.label.invokes Call.isRelease then
    r.after.ledger.outgoings contract - r.before.ledger.outgoings contract
  else 0

/-- A release pays the increment of its milestone: all of it in the primary asset, and short of
less than one unit for each token over several assets. -/
def PaysIncrement (contract : Address) (r : Receipt Action World) : Prop :=
  match r.label with
  | .invoke ⟨_, _, _, .releaseMilestone index _⟩ =>
    releasePaid contract r = increment r.before.storage.reached index
  | .invoke ⟨_, _, _, .releaseMilestoneMultiAsset index _⟩ =>
    releasePaid contract r ≤ increment r.before.storage.reached index ∧
      increment r.before.storage.reached index - r.before.storage.issuers.length <
        releasePaid contract r
  | _ => True

/-- Before its release a milestone counts what was reached before it as released, and its target
has been raised. -/
def Staged (s : Storage) (index : ℕ) : Prop :=
  s.released index = s.reached index ∧ 0 ≤ s.reached index ∧ s.reached index ≤ s.target index ∧
    s.target index ≤ s.raisedAmount

instance (s : Storage) (index : ℕ) : Decidable (Staged s index) :=
  inferInstanceAs (Decidable (_ ∧ _ ∧ _ ∧ _))

/-- The contract holds some of the first accepted asset. -/
def PrimaryHeld (contract : Address) (w : World) : Prop :=
  0 < (w.storage.primaryIssuer.map fun issuer ↦ w.ledger.balance issuer contract).getD 0

instance (contract : Address) (w : World) : Decidable (PrimaryHeld contract w) :=
  inferInstanceAs (Decidable (0 < _))

/-- The pending amount can be shared exactly: every recorded token is listed once and its product
with the pending amount is in range. -/
def SharesExact (s : Storage) (index : ℕ) : Prop :=
  MultiAssetRelease.ListedOnce s.assetRaised s.issuers ∧
    ∀ t ∈ s.issuers, InI128 (s.getAssetRaised t * (s.target index - s.released index))

-- The list bounds the tokens to check; there are too many addresses to go through them all.
instance (s : Storage) (index : ℕ) : Decidable (SharesExact s index) :=
  have : Decidable (∀ t ∈ s.issuers,
      InI128 (s.getAssetRaised t * (s.target index - s.released index))) :=
    List.decidableBAll _ _
  inferInstanceAs (Decidable (_ ∧ _))

/-- The condition on a release under which it pays the increment. -/
def ReleasesIncrement (contract : Address) (r : Receipt Action World) : Prop :=
  match r.label with
  | .invoke ⟨_, _, _, .releaseMilestone index _⟩ =>
    Staged r.before.storage index ∧ PrimaryHeld contract r.before
  | .invoke ⟨_, _, _, .releaseMilestoneMultiAsset index _⟩ =>
    Staged r.before.storage index ∧ SharesExact r.before.storage index
  | _ => True

instance (contract : Address) (r : Receipt Action World) :
    Decidable (ReleasesIncrement contract r) := by
  unfold ReleasesIncrement
  split <;> infer_instance

/-! ### What one release pays -/

section Found

variable {s : Storage} {campaign : CampaignData} {milestone : MilestoneData} {index : ℕ}

theorem target_of_found (h : s.getMilestone index = some milestone) :
    s.target index = milestone.targetAmount := by
  rw [Storage.target, h]
  rfl

theorem released_of_found (h : s.getMilestone index = some milestone) :
    s.released index = milestone.releasedAmount := by
  rw [Storage.released, h]
  rfl

theorem issuers_of_found (h : s.campaignData = some campaign) : s.issuers = campaign.issuers := by
  rw [Storage.issuers, h]
  rfl

/-- The pending amount of a staged milestone is its increment. -/
theorem Staged.pending_eq (h : Staged s index) (hm : s.getMilestone index = some milestone) :
    milestone.targetAmount - milestone.releasedAmount = increment s.reached index := by
  rw [← target_of_found hm, ← released_of_found hm, h.1]
  rfl

theorem Staged.increment_nonneg (h : Staged s index) : 0 ≤ increment s.reached index :=
  sub_nonneg.mpr h.2.2.1

end Found

theorem releasePaid_of_release {contract : Address} {inv : Invocation} {w next : World}
    (h : inv.call.isRelease = true) : releasePaid contract ⟨.invoke inv, w, next⟩ =
      next.ledger.outgoings contract - w.ledger.outgoings contract :=
  if_pos h

theorem releasePaid_of_other {contract : Address} {action : Action} {w next : World}
    (h : action.invokes Call.isRelease = false) :
    releasePaid contract ⟨action, w, next⟩ = 0 :=
  if_neg (ne_true_of_eq_false h)

/-- A staged release in a primary asset that the contract holds pays the increment. -/
theorem releasePaid_of_released {host : Host} {inv : Invocation} {index : ℕ}
    {recipient : Address} {w next : World} {campaign : CampaignData} {milestone : MilestoneData}
    {primary : StellarAsset} (hcall : inv.call = .releaseMilestone index recipient)
    (h : ReleaseMilestone.Released (inv.env host) index recipient w next campaign milestone primary)
    (hstaged : Staged w.storage index) (hheld : PrimaryHeld host.contract w) :
    releasePaid host.contract ⟨.invoke inv, w, next⟩ = increment w.storage.reached index := by
  have hledger := Ledger.outgoings_transferAll h.ledger
  have hcontract : (inv.env host).host.contract = host.contract := rfl
  have hnonneg := hstaged.increment_nonneg
  rw [hcontract, hstaged.pending_eq h.milestone_found] at hledger
  rw [releasePaid_of_release (by rw [hcall]; rfl), hledger, add_sub_cancel_left]
  unfold PrimaryHeld at hheld
  rw [Storage.primaryIssuer, h.found, Option.bind_some, h.primary_found, Option.bind_some] at hheld
  unfold ReleaseMilestone.primaryPayment
  cases hissuer : primary.issuer with
  | none =>
    rw [hissuer] at hheld
    exact absurd hheld (lt_irrefl 0)
  | some issuer =>
    rw [hissuer] at hheld
    have hbalance : 0 < w.ledger.balance issuer host.contract := hheld
    dsimp only
    by_cases hpays : 0 < increment w.storage.reached index
    · rw [if_pos ⟨hbalance, hpays⟩]
      simp
    · rw [if_neg fun hboth ↦ hpays hboth.2]
      exact le_antisymm hnonneg (not_lt.mp hpays)

/-- A staged release with exact shares pays the increment up to rounding. -/
theorem releasePaid_of_multiReleased {host : Host} {inv : Invocation} {index : ℕ}
    {recipient : Address} {w next : World} {campaign : CampaignData} {milestone : MilestoneData}
    (hcall : inv.call = .releaseMilestoneMultiAsset index recipient)
    (h : MultiAssetRelease.Released (inv.env host) index recipient w next campaign milestone)
    {book : PledgeBook Address Address} (hbook : Mirrors w.storage book)
    (hstaged : Staged w.storage index) (hexact : SharesExact w.storage index) :
    releasePaid host.contract ⟨.invoke inv, w, next⟩ ≤ increment w.storage.reached index ∧
      increment w.storage.reached index - w.storage.issuers.length <
        releasePaid host.contract ⟨.invoke inv, w, next⟩ := by
  have hledger := Ledger.outgoings_transferAll h.ledger
  have hcontract : (inv.env host).host.contract = host.contract := rfl
  obtain ⟨hlisted, hrange⟩ := hexact
  rw [issuers_of_found h.found] at hlisted hrange ⊢
  rw [target_of_found h.milestone_found, released_of_found h.milestone_found] at hrange
  have hnonneg := hstaged.increment_nonneg
  rw [← hstaged.pending_eq h.milestone_found] at hnonneg ⊢
  have hrecorded : ∀ t, 0 ≤ (w.storage.assetRaised t).getD 0 := hbook.getAssetRaised_nonneg
  have htotal : 0 < w.storage.getTotalRaised :=
    lt_of_le_of_ne hbook.getTotalRaised_nonneg h.total_ne.symm
  have hsum := hbook.sum_issuers h.found
  rw [hcontract] at hledger
  rw [releasePaid_of_release (by rw [hcall]; rfl), hledger, add_sub_cancel_left]
  have hmost : _ ≤ max (milestone.targetAmount - milestone.releasedAmount) 0 :=
    MultiAssetRelease.sum_releasePayments_le hlisted.dueOnce hrecorded htotal hsum
  rw [max_eq_left hnonneg] at hmost
  exact ⟨hmost, MultiAssetRelease.sub_length_lt_sum_releasePayments hlisted.dueOnce hrecorded htotal
    hsum hnonneg hrange⟩

/-- A release that meets the condition pays the increment. -/
theorem Step.paysIncrement {host : Host} {action : Action} {w next : World}
    (hstep : Step host action w next) {book : PledgeBook Address Address}
    (hbook : Mirrors w.storage book)
    (h : ReleasesIncrement host.contract ⟨action, w, next⟩) :
    PaysIncrement host.contract ⟨action, w, next⟩ := by
  cases action with
  | transfer => exact trivial
  | invoke inv =>
    obtain ⟨timestamp, sequence, authorisers, call⟩ := inv
    cases call with
    | releaseMilestone index recipient =>
      obtain ⟨campaign, milestone, primary, hreleased⟩ := hstep.of_releaseMilestone rfl
      exact releasePaid_of_released rfl hreleased h.1 h.2
    | releaseMilestoneMultiAsset index recipient =>
      obtain ⟨campaign, milestone, hreleased⟩ := hstep.of_releaseMilestoneMultiAsset rfl
      exact releasePaid_of_multiReleased rfl hreleased hbook h.1 h.2
    | _ => exact trivial

theorem PaysIncrement.le {contract : Address} {r : Receipt Action World} {index : ℕ}
    (h : PaysIncrement contract r) (hindex : r.label.releasedIndex = some index) :
    releasePaid contract r ≤ increment r.before.storage.reached index := by
  obtain ⟨action, w, next⟩ := r
  obtain ⟨timestamp, sequence, authorisers, recipient, rfl | rfl⟩ := Action.of_releasedIndex hindex
  · exact le_of_eq h
  · exact h.1

theorem ReleasesIncrement.staged {contract : Address} {r : Receipt Action World} {index : ℕ}
    (h : ReleasesIncrement contract r) (hindex : r.label.releasedIndex = some index) :
    Staged r.before.storage index := by
  obtain ⟨action, w, next⟩ := r
  obtain ⟨timestamp, sequence, authorisers, recipient, rfl | rfl⟩ := Action.of_releasedIndex hindex
  · exact h.1
  · exact h.1

/-! ### What a step does to the schedule -/

theorem Established.target_eq {s : Storage} {campaign : CampaignData} {v : List MilestoneData}
    (h : Established s campaign v) (i : ℕ) :
    s.target i = ((v.map MilestoneData.targetAmount)[i]?).getD 0 := by
  rw [Storage.target, h.getMilestone, List.getElem?_map]

theorem Sound.raisedAmount_nonneg {s : Storage} (h : Sound s) : 0 ≤ s.raisedAmount := by
  rcases h with rfl | ⟨campaign, v, hv⟩
  · exact le_rfl
  · rw [hv.raisedAmount_eq]
    exact hv.raised_nonneg

section Steps

variable {host : Host} {action : Action} {w next : World} (h : Step host action w next)
  (hw : Sound w.storage) (hcampaign : w.storage.campaignData ≠ none)
include h hw hcampaign

/-- The targets are fixed at initialization, and the raised amount never falls. -/
theorem Step.schedule :
    next.storage.target = w.storage.target ∧
      w.storage.raisedAmount ≤ next.storage.raisedAmount := by
  obtain ⟨campaign, hfound⟩ := Option.ne_none_iff_exists'.mp hcampaign
  obtain ⟨v, hv⟩ := hw.established hfound
  obtain ⟨campaign', v', hv', -, hvector⟩ := h.vectorStep hv
  constructor
  · funext i
    rw [hv.target_eq, hv'.target_eq, hvector.targets]
  · rw [hv.raisedAmount_eq, hv'.raisedAmount_eq]
    exact hvector.raised_le

theorem Step.reached_eq : next.storage.reached = w.storage.reached := by
  funext i
  cases i with
  | zero => rfl
  | succ i => exact congrFun (h.schedule hw hcampaign).1 i

end Steps

/-! ### What a run releases -/

/-- The milestones a history released, newest first. -/
def releasedIndices (history : List (Receipt Action World)) : List ℕ :=
  history.filterMap fun r ↦ r.label.releasedIndex

/-- The stages a history paid: distinct released milestones whose targets lie between zero and
the amount raised, and payments of at most their increments. -/
structure PaidStages (contract : Address) (history : List (Receipt Action World)) (w : World) :
    Prop where
  distinct : (releasedIndices history).Nodup
  released : ∀ i ∈ releasedIndices history, IsReleased w.storage i
  low : ∀ i ∈ releasedIndices history, 0 ≤ w.storage.reached i
  rise : ∀ i ∈ releasedIndices history, w.storage.reached i ≤ w.storage.target i
  high : ∀ i ∈ releasedIndices history, w.storage.target i ≤ w.storage.raisedAmount
  paid : (history.map (releasePaid contract)).sum ≤
    ((releasedIndices history).map (increment w.storage.reached)).sum

theorem releasedIndices_of_none {action : Action} {w next : World}
    {history : List (Receipt Action World)} (h : action.releasedIndex = none) :
    releasedIndices (⟨action, w, next⟩ :: history) = releasedIndices history :=
  List.filterMap_cons_none h

theorem releasedIndices_of_some {action : Action} {w next : World}
    {history : List (Receipt Action World)} {index : ℕ} (h : action.releasedIndex = some index) :
    releasedIndices (⟨action, w, next⟩ :: history) = index :: releasedIndices history :=
  List.filterMap_cons_some h

section PaidStages

variable {contract : Address} {history : List (Receipt Action World)} {action : Action}
  {w next : World}

/-- A step that releases nothing keeps the account of paid stages. -/
theorem PaidStages.keep (h : PaidStages contract history w) (hnone : action.releasedIndex = none)
    (htarget : ∀ i ∈ releasedIndices history, next.storage.target i = w.storage.target i)
    (hreached : ∀ i ∈ releasedIndices history, next.storage.reached i = w.storage.reached i)
    (hraised : w.storage.raisedAmount ≤ next.storage.raisedAmount)
    (hreleased : ∀ i ∈ releasedIndices history, IsReleased next.storage i) :
    PaidStages contract (⟨action, w, next⟩ :: history) next := by
  have hother : action.invokes Call.isRelease = false := by
    rw [action.isRelease_eq_isSome, hnone]
    rfl
  have hincrement : (releasedIndices history).map (increment next.storage.reached) =
      (releasedIndices history).map (increment w.storage.reached) := by
    refine List.map_congr_left fun i hi ↦ ?_
    rw [increment, increment, hreached i hi]
    exact congrArg (fun target ↦ target - _) (htarget i hi)
  constructor
  · rw [releasedIndices_of_none hnone]
    exact h.distinct
  · rw [releasedIndices_of_none hnone]
    exact hreleased
  · rw [releasedIndices_of_none hnone]
    intro i hi
    rw [hreached i hi]
    exact h.low i hi
  · rw [releasedIndices_of_none hnone]
    intro i hi
    rw [hreached i hi, htarget i hi]
    exact h.rise i hi
  · rw [releasedIndices_of_none hnone]
    intro i hi
    rw [htarget i hi]
    exact (h.high i hi).trans hraised
  · rw [releasedIndices_of_none hnone, List.map_cons, List.sum_cons,
      releasePaid_of_other hother, zero_add, hincrement]
    exact h.paid

/-- A staged release of a further milestone adds its stage. -/
theorem PaidStages.release (h : PaidStages contract history w) {index : ℕ}
    (hindex : action.releasedIndex = some index) (hstaged : Staged w.storage index)
    (hpaid : releasePaid contract ⟨action, w, next⟩ ≤ increment w.storage.reached index)
    (hfresh : ¬ IsReleased w.storage index) (htarget : next.storage.target = w.storage.target)
    (hreached : next.storage.reached = w.storage.reached)
    (hraised : w.storage.raisedAmount ≤ next.storage.raisedAmount)
    (hreleased : ∀ i, IsReleased next.storage i ↔ index = i ∨ IsReleased w.storage i) :
    PaidStages contract (⟨action, w, next⟩ :: history) next := by
  obtain ⟨-, hlow, hrise, hhigh⟩ := hstaged
  constructor
  · rw [releasedIndices_of_some hindex, List.nodup_cons]
    exact ⟨fun hmem ↦ hfresh (h.released index hmem), h.distinct⟩
  · rw [releasedIndices_of_some hindex]
    intro i hi
    rw [hreleased]
    exact (List.mem_cons.mp hi).imp Eq.symm (h.released i)
  · rw [releasedIndices_of_some hindex, hreached]
    exact List.forall_mem_cons.mpr ⟨hlow, h.low⟩
  · rw [releasedIndices_of_some hindex, hreached, htarget]
    exact List.forall_mem_cons.mpr ⟨hrise, h.rise⟩
  · rw [releasedIndices_of_some hindex, htarget]
    exact List.forall_mem_cons.mpr ⟨hhigh.trans hraised, fun i hi ↦ (h.high i hi).trans hraised⟩
  · rw [releasedIndices_of_some hindex, hreached, List.map_cons, List.sum_cons, List.map_cons,
      List.sum_cons]
    exact add_le_add hpaid h.paid

end PaidStages

/-- A step that meets the condition keeps the account of paid stages. -/
theorem Step.paidStages {host : Host} {action : Action} {w next : World}
    {history : List (Receipt Action World)} (hstep : Step host action w next)
    (hw : Sound w.storage) {book : PledgeBook Address Address} (hbook : Mirrors w.storage book)
    (hpaid : PaidStages host.contract history w)
    (h : ReleasesIncrement host.contract ⟨action, w, next⟩) :
    PaidStages host.contract (⟨action, w, next⟩ :: history) next := by
  by_cases hcampaign : w.storage.campaignData = none
  · have hnone := hstep.releasedIndex_of_fresh hcampaign
    have hnothing : ∀ i, i ∉ releasedIndices history := by
      intro i hi
      rcases hw with hempty | ⟨campaign, v, hv⟩
      · have hreleased := hpaid.released i hi
        rw [IsReleased, hempty, Storage.getMilestone_empty] at hreleased
        exact absurd hreleased (by simp [IsReleasedRecord])
      · exact absurd hcampaign (by simp [hv.found])
    have hzero : w.storage.raisedAmount = 0 := by
      rw [Storage.raisedAmount, hcampaign]
      rfl
    refine hpaid.keep hnone ?_ ?_ ?_ ?_
    · exact fun i hi ↦ absurd hi (hnothing i)
    · exact fun i hi ↦ absurd hi (hnothing i)
    · rw [hzero]
      exact (hstep.sound hw).raisedAmount_nonneg
    · exact fun i hi ↦ absurd hi (hnothing i)
  · obtain ⟨htarget, hraised⟩ := hstep.schedule hw hcampaign
    have hreached := hstep.reached_eq hw hcampaign
    have hreleased := hstep.isReleased_iff hw hcampaign
    cases hindex : action.releasedIndex with
    | none =>
      refine hpaid.keep hindex (fun i _ ↦ congrFun htarget i) (fun i _ ↦ congrFun hreached i)
        hraised fun i hi ↦ ?_
      rw [hreleased]
      exact .inr (hpaid.released i hi)
    | some index =>
      refine hpaid.release hindex (h.staged hindex) ((hstep.paysIncrement hbook h).le hindex)
        (hstep.not_isReleased hindex) htarget hreached hraised fun i ↦ ?_
      rw [hreleased, hindex, Option.some.injEq]

/-- What was paid for stages is within every bound of their targets. -/
theorem PaidStages.sum_le {contract : Address} {history : List (Receipt Action World)} {w : World}
    (h : PaidStages contract history w) {campaign : CampaignData} {v : List MilestoneData}
    (hv : Established w.storage campaign v) {bound : ℤ} (hbound : 0 ≤ bound)
    (hhigh : ∀ i ∈ releasedIndices history, w.storage.target i ≤ bound) :
    (history.map (releasePaid contract)).sum ≤ bound := by
  refine h.paid.trans ?_
  rw [← List.sum_toFinset _ h.distinct]
  refine sum_increment_le hbound (fun i hi ↦ h.low i (List.mem_toFinset.mp hi))
    (fun i hi ↦ hhigh i (List.mem_toFinset.mp hi)) ?_
  rintro i ⟨first, hfirst, hle⟩ ⟨last, hlast, hge⟩
  cases i with
  | zero =>
    obtain rfl : first = 0 := Nat.le_zero.mp hle
    exact h.rise 0 (List.mem_toFinset.mp hfirst)
  | succ i =>
    have hlength : last < v.length := by
      have hreleased := h.released last (List.mem_toFinset.mp hlast)
      rw [IsReleased, hv.getMilestone] at hreleased
      by_contra hout
      rw [List.getElem?_eq_none (not_lt.mp hout)] at hreleased
      exact absurd hreleased (by simp [IsReleasedRecord])
    have hascending := List.pairwise_iff_getElem.mp hv.schedule.ascending i (i + 1) (by omega)
      (by omega) (Nat.lt_succ_self i)
    show w.storage.target i ≤ w.storage.target (i + 1)
    rw [hv.target_eq, hv.target_eq, List.getElem?_map, List.getElem?_map,
      List.getElem?_eq_getElem (by omega), List.getElem?_eq_getElem (by omega)]
    exact hascending.le

/-- The creator opens a campaign whose second milestone counts the first target as released. -/
def Sample.stagedRelease : List Action :=
  [Sample.opening [⟨"XLM", some Sample.token⟩]
      [Sample.milestone 500, { Sample.milestone 1000 with releasedAmount := 500 }] 1000,
    Sample.giving Sample.donor 1000 Sample.token,
    .transfer Sample.token Sample.donor Sample.contract 1000,
    Sample.call Sample.creator (.releaseMilestone 0 Sample.recipient),
    Sample.call Sample.creator (.releaseMilestoneMultiAsset 1 Sample.recipient)]

/-- Two milestones with nothing released, paid one after the other out of an overfunded
contract. -/
def Sample.overfundedRelease : List Action :=
  [Sample.opening [⟨"XLM", some Sample.token⟩] [Sample.milestone 500, Sample.milestone 1000] 1000,
    Sample.giving Sample.donor 1000 Sample.token,
    .transfer Sample.token Sample.donor Sample.contract 1500,
    Sample.call Sample.creator (.releaseMilestone 0 Sample.recipient),
    Sample.call Sample.creator (.releaseMilestone 1 Sample.recipient)]

/-- When every release of a run starts staged, with the primary asset held or exact shares, every
release pays the increment of its milestone and everything released is within the amount raised
and within the goal. -/
theorem incremental_payout {contract : Address} {overflowChecks : Bool}
    {ledger : Ledger Address Address} {wasmHash : BitVec 256}
    {history : List (Receipt Action World)} {w : World}
    (run : CampaignRun contract overflowChecks ledger wasmHash history w)
    (h : ∀ r ∈ history, ReleasesIncrement contract r) :
    (∀ r ∈ history, PaysIncrement contract r) ∧
      (history.map (releasePaid contract)).sum ≤ w.storage.raisedAmount ∧
      ∀ campaign, w.storage.campaignData = some campaign →
        (history.map (releasePaid contract)).sum ≤ campaign.goalAmount := by
  have hsound := CampaignRun.sound run
  have hpaid : PaidStages contract history w := by
    refine CampaignRun.induction
      (I := fun history w ↦ (∀ r ∈ history, ReleasesIncrement contract r) →
        PaidStages contract history w) (fun _ ↦ ?_) ?_ run h
    · constructor <;> simp [releasedIndices]
    · intro history w action next prior ih hstep h
      obtain ⟨book, hbook, -⟩ := CampaignRun.mirrors prior
      exact hstep.paidStages (CampaignRun.sound prior) hbook
        (ih fun r hr ↦ h r (List.mem_cons_of_mem _ hr)) (h _ List.mem_cons_self)
  refine ⟨fun r hr ↦ ?_, ?_, fun campaign hfound ↦ ?_⟩
  · obtain ⟨hstep, earlier, hearlier⟩ := CampaignRun.step_of_mem run hr
    obtain ⟨book, hbook, -⟩ := CampaignRun.mirrors hearlier
    exact hstep.paysIncrement hbook (h r hr)
  · rcases hsound with hempty | ⟨campaign, v, hv⟩
    · have hnone : releasedIndices history = [] := by
        refine List.eq_nil_iff_forall_not_mem.mpr fun i hi ↦ ?_
        have hreleased := hpaid.released i hi
        rw [IsReleased, hempty, Storage.getMilestone_empty] at hreleased
        exact absurd hreleased (by simp [IsReleasedRecord])
      have hsum := hpaid.paid
      rw [hnone] at hsum
      rw [hempty]
      exact hsum
    · exact hpaid.sum_le hv (CampaignRun.sound run).raisedAmount_nonneg hpaid.high
  · obtain ⟨v, hv⟩ := hsound.established hfound
    refine hpaid.sum_le hv hv.goal_pos.le fun i hi ↦ ?_
    rw [hv.target_eq, List.getElem?_map]
    cases hm : v[i]? with
    | none => exact hv.goal_pos.le
    | some m => exact hv.schedule.target_le (List.mem_of_getElem? hm)

theorem incremental_payout_stagedRelease :
    ((Sample.history Sample.stagedRelease).map (releasePaid Sample.contract)).sum ≤
      (Sample.reached Sample.stagedRelease).storage.raisedAmount :=
  (incremental_payout (Sample.run Sample.stagedRelease) (by decide +kernel)).2.1

/-- With nothing counted as released, two milestones pay more than was raised. -/
theorem payouts_exceed_raised :
    ¬ ∀ (contract : Address) (overflowChecks : Bool) (ledger : Ledger Address Address)
      (wasmHash : BitVec 256) (history : List (Receipt Action World)) (w : World),
      CampaignRun contract overflowChecks ledger wasmHash history w →
        (∀ r ∈ history, PaysIncrement contract r) ∧
          (history.map (releasePaid contract)).sum ≤ w.storage.raisedAmount ∧
          ∀ campaign, w.storage.campaignData = some campaign →
            (history.map (releasePaid contract)).sum ≤ campaign.goalAmount := by
  intro h
  have hraised := (h _ _ _ _ _ _ (Sample.run Sample.overfundedRelease)).2.1
  revert hraised
  decide +kernel

end OrbitChain.Campaign
