import OrbitChain.Campaign.DonorAccounting

/-!
# A multi-asset release in shares

What a release pays in a token is the token's share of the pending amount, provided that no token
is due a share again after its first entry (`paidIn_releasePayments`), which is so when every token
of which something is recorded is listed once. The shares of all tokens add up to the pending
amount, short of less than one unit for each entry, and the walk over the list goes through exactly
when no token's share exceeds what is recorded of it.
-/

set_option autoImplicit false
set_option relaxedAutoImplicit false

namespace OrbitChain.Campaign

open Foundations

namespace MultiAssetRelease

/-- What one entry of a token pays, nothing below one unit. -/
def assetDue (assetRaised milestoneRelease totalRaised : ℤ) : ℤ :=
  (computeAssetRelease assetRaised milestoneRelease totalRaised).getD 0

/-- No token of which something is recorded is listed twice. -/
def ListedOnce (recorded : Address → Option ℤ) (tokens : List Address) : Prop :=
  ∀ t ∈ tokens, 0 < (recorded t).getD 0 → tokens.count t ≤ 1

instance (recorded : Address → Option ℤ) (tokens : List Address) :
    Decidable (ListedOnce recorded tokens) :=
  List.decidableBAll (fun t ↦ 0 < (recorded t).getD 0 → tokens.count t ≤ 1) tokens

variable {milestoneRelease totalRaised assetRaised : ℤ} {recorded : Address → Option ℤ}
  {assets : List StellarAsset}

theorem assetDue_of_none
    (h : computeAssetRelease assetRaised milestoneRelease totalRaised = none) :
    assetDue assetRaised milestoneRelease totalRaised = 0 := by
  rw [assetDue, h, Option.getD_none]

/-- What is due is the share, unless its product is out of range. -/
theorem assetDue_eq_share (hasset : 0 ≤ assetRaised) (hrelease : 0 ≤ milestoneRelease)
    (htotal : 0 < totalRaised) (hrange : InI128 (assetRaised * milestoneRelease)) :
    assetDue assetRaised milestoneRelease totalRaised =
      share assetRaised milestoneRelease totalRaised := by
  unfold assetDue computeAssetRelease
  by_cases hguard : totalRaised = 0 ∨ assetRaised ≤ 0 ∨ milestoneRelease ≤ 0
  · rw [if_pos hguard, Option.getD_none]
    have hzero : assetRaised * milestoneRelease = 0 := by
      rcases hguard with h | h | h
      · omega
      · rw [le_antisymm h hasset, zero_mul]
      · rw [le_antisymm h hrelease, mul_zero]
    rw [share, hzero, Int.zero_ediv]
  · have hnonneg := share_nonneg hasset hrelease htotal
    rw [if_neg hguard, checkedI128_of_inI128 hrange, Option.bind_eq_bind, Option.bind_some,
      Int.tdiv_eq_ediv_of_nonneg (mul_nonneg hasset hrelease), ← share]
    unfold minTransferAmount
    by_cases hunit : 1 ≤ share assetRaised milestoneRelease totalRaised
    · rw [if_pos hunit, Option.getD_some]
    · rw [if_neg hunit, Option.getD_none]
      omega

theorem assetDue_le_share (hasset : 0 ≤ assetRaised) (hrelease : 0 ≤ milestoneRelease)
    (htotal : 0 < totalRaised) : assetDue assetRaised milestoneRelease totalRaised ≤
      share assetRaised milestoneRelease totalRaised := by
  by_cases hrange : InI128 (assetRaised * milestoneRelease)
  · exact (assetDue_eq_share hasset hrelease htotal hrange).le
  · have hnone : assetDue assetRaised milestoneRelease totalRaised = 0 := by
      unfold assetDue computeAssetRelease checkedI128
      rw [if_neg hrange]
      split_ifs <;> rfl
    rw [hnone]
    exact share_nonneg hasset hrelease htotal

/-- What is due is at most the share of what is pending, nothing when nothing is. -/
theorem assetDue_mul_le (hasset : 0 ≤ assetRaised) (htotal : 0 < totalRaised) :
    assetDue assetRaised milestoneRelease totalRaised * totalRaised ≤
      assetRaised * max milestoneRelease 0 := by
  rcases le_total 0 milestoneRelease with hrelease | hrelease
  · rw [max_eq_left hrelease]
    exact le_trans (mul_le_mul_of_nonneg_right (assetDue_le_share hasset hrelease htotal)
      htotal.le) (share_mul_le htotal)
  · have hnone : assetDue assetRaised milestoneRelease totalRaised = 0 := by
      rw [assetDue, computeAssetRelease, if_pos (.inr (.inr hrelease))]
      rfl
    rw [hnone, max_eq_right hrelease, zero_mul, mul_zero]

/-- A release of part of a whole pays no more in a token than is recorded of it, and in all no
more than is released and less than one unit per token below it; a release of the whole pays
everything recorded. -/
theorem release_shares_bounds {amounts : List ℤ} (hnonneg : ∀ amount ∈ amounts, 0 ≤ amount)
    (htotal : 0 < amounts.sum) (hrelease : 0 < milestoneRelease)
    (hle : milestoneRelease ≤ amounts.sum)
    (hrange : ∀ amount ∈ amounts, InI128 (amount * milestoneRelease)) :
    (∀ amount ∈ amounts, 0 ≤ assetDue amount milestoneRelease amounts.sum ∧
      assetDue amount milestoneRelease amounts.sum ≤ amount) ∧
    milestoneRelease - amounts.length <
      (amounts.map fun amount ↦ assetDue amount milestoneRelease amounts.sum).sum ∧
    (amounts.map fun amount ↦ assetDue amount milestoneRelease amounts.sum).sum ≤
      milestoneRelease ∧
    (milestoneRelease = amounts.sum →
      ∀ amount ∈ amounts, assetDue amount milestoneRelease amounts.sum = amount) := by
  have hdue : ∀ amount ∈ amounts, assetDue amount milestoneRelease amounts.sum =
      share amount milestoneRelease amounts.sum := fun amount hmem ↦
    assetDue_eq_share (hnonneg amount hmem) hrelease.le htotal (hrange amount hmem)
  rw [List.map_congr_left hdue]
  refine ⟨fun amount hmem ↦ ?_, sub_length_lt_sum_map_share htotal, sum_map_share_le htotal,
    fun hwhole amount hmem ↦ ?_⟩
  · rw [hdue amount hmem]
    exact ⟨share_nonneg (hnonneg amount hmem) hrelease.le htotal,
      share_le_self (hnonneg amount hmem) htotal hle⟩
  · rw [hdue amount hmem, hwhole, share_whole htotal]

/-- Ten units recorded in three tokens, seven of them released: three, three and nothing. -/
theorem release_shares_bounds_threeTokens :
    (∀ amount ∈ [5, 5, 0], 0 ≤ assetDue amount 7 10 ∧ assetDue amount 7 10 ≤ amount) ∧
    7 - 3 < ([5, 5, 0].map fun amount ↦ assetDue amount 7 10).sum ∧
    ([5, 5, 0].map fun amount ↦ assetDue amount 7 10).sum ≤ 7 ∧
    ((7 : ℤ) = 10 → ∀ amount ∈ [5, 5, 0], assetDue amount 7 10 = amount) :=
  @release_shares_bounds 7 [5, 5, 0] (by decide) (by decide) (by decide) (by decide) (by decide)

/-! ### What a release pays in a token -/

/-- No token that is listed several times is due a share again of what its first entry leaves. -/
def DueOnce (milestoneRelease totalRaised : ℤ) (recorded : Address → Option ℤ)
    (tokens : List Address) : Prop :=
  ∀ t ∈ tokens, 1 < tokens.count t →
    computeAssetRelease ((recorded t).getD 0 -
      assetDue ((recorded t).getD 0) milestoneRelease totalRaised) milestoneRelease totalRaised =
      none

instance (milestoneRelease totalRaised : ℤ) (recorded : Address → Option ℤ)
    (tokens : List Address) : Decidable (DueOnce milestoneRelease totalRaised recorded tokens) :=
  List.decidableBAll _ tokens

theorem ListedOnce.dueOnce {tokens : List Address} (h : ListedOnce recorded tokens) :
    DueOnce milestoneRelease totalRaised recorded tokens := by
  intro t ht hcount
  have hnothing : (recorded t).getD 0 ≤ 0 := by
    by_contra hpos
    exact absurd (h t ht (not_le.mp hpos)) (not_le.mpr hcount)
  have hnone : computeAssetRelease ((recorded t).getD 0) milestoneRelease totalRaised = none :=
    if_pos (.inr (.inl hnothing))
  rw [assetDue_of_none hnone, sub_zero, hnone]

/-- After an entry of a token has been paid, no token of the rest is due a share twice. -/
theorem DueOnce.tail {token : Address} {tokens : List Address}
    (h : DueOnce milestoneRelease totalRaised recorded (token :: tokens)) :
    DueOnce milestoneRelease totalRaised
      (Function.update recorded token (some ((recorded token).getD 0 -
        assetDue ((recorded token).getD 0) milestoneRelease totalRaised))) tokens := by
  intro t ht hcount
  by_cases htoken : t = token
  · subst htoken
    have hleft := h t List.mem_cons_self (by rw [List.count_cons_self]; omega)
    rw [Function.update_self, Option.getD_some, assetDue_of_none hleft, sub_zero, hleft]
  · rw [Function.update_of_ne htoken]
    refine h t (List.mem_cons_of_mem token ht) ?_
    rwa [List.count_cons_of_ne (Ne.symm htoken)]

theorem DueOnce.tail_of_none {token : Address} {tokens : List Address}
    (h : DueOnce milestoneRelease totalRaised recorded (token :: tokens)) :
    DueOnce milestoneRelease totalRaised recorded tokens := by
  intro t ht hcount
  refine h t (List.mem_cons_of_mem token ht) ?_
  rw [List.count_cons]
  omega

/-- What a release pays in a token is what one entry of it pays. -/
theorem paidIn_releasePayments
    (hdue : DueOnce milestoneRelease totalRaised recorded (assets.filterMap StellarAsset.issuer))
    (t : Address) :
    paidIn t (releasePayments milestoneRelease totalRaised recorded assets) =
      if t ∈ assets.filterMap StellarAsset.issuer then
        assetDue ((recorded t).getD 0) milestoneRelease totalRaised
      else 0 := by
  induction assets generalizing recorded with
  | nil => rfl
  | cons asset rest ih =>
    rw [releasePayments, paidIn_append]
    cases hissuer : asset.issuer with
    | none =>
      rw [List.filterMap_cons_none hissuer] at hdue ⊢
      simp only [entryPayments, hissuer, deductAll, paidIn_nil, zero_add]
      exact ih hdue
    | some token =>
      rw [List.filterMap_cons_some hissuer] at hdue ⊢
      cases hrelease : computeAssetRelease ((recorded token).getD 0) milestoneRelease
          totalRaised with
      | none =>
        simp only [entryPayments, hissuer, hrelease, deductAll, paidIn_nil, zero_add]
        rw [ih hdue.tail_of_none]
        by_cases ht : t = token
        · rw [ht, if_pos List.mem_cons_self, assetDue_of_none hrelease, ite_self]
        · simp only [List.mem_cons, ht, false_or]
      | some amount =>
        have hfirst : assetDue ((recorded token).getD 0) milestoneRelease totalRaised = amount := by
          rw [assetDue, hrelease, Option.getD_some]
        have htail := hdue.tail
        rw [hfirst] at htail
        simp only [entryPayments, hissuer, hrelease, deductAll, paidIn_cons, paidIn_nil, add_zero]
        rw [ih htail]
        by_cases ht : t = token
        · -- a further entry of the token finds nothing due
          subst ht
          rw [if_pos rfl, if_pos List.mem_cons_self, hfirst, Function.update_self, Option.getD_some]
          by_cases hagain : t ∈ rest.filterMap StellarAsset.issuer
          · have hcount := List.count_pos_iff.mpr hagain
            have hleft := hdue t List.mem_cons_self (by rw [List.count_cons_self]; omega)
            rw [if_pos hagain, ← hfirst, assetDue_of_none hleft, add_zero]
          · rw [if_neg hagain, add_zero]
        · rw [if_neg (Ne.symm ht), Function.update_of_ne ht, zero_add]
          simp only [List.mem_cons, ht, false_or]

/-- What a release pays in a token is within the token's proportion. -/
theorem paidIn_releasePayments_mul_le
    (hdue : DueOnce milestoneRelease totalRaised recorded (assets.filterMap StellarAsset.issuer))
    {t : Address} (hrecorded : 0 ≤ (recorded t).getD 0) (htotal : 0 < totalRaised) :
    paidIn t (releasePayments milestoneRelease totalRaised recorded assets) * totalRaised ≤
      (recorded t).getD 0 * max milestoneRelease 0 := by
  rw [paidIn_releasePayments hdue]
  split_ifs
  · exact assetDue_mul_le hrecorded htotal
  · rw [zero_mul]
    exact mul_nonneg hrecorded (le_max_right _ _)

/-! ### When the walk goes through -/

/-- Payments that the recorded amounts cover can be deducted one by one. -/
theorem deductible_of_covered {payments : List (Address × ℤ)} {total : ℤ}
    (hpos : ∀ x ∈ payments, 0 ≤ x.2)
    (hcover : ∀ t, paidIn t payments ≤ (recorded t).getD 0)
    (hrange : ∀ t, InI128 ((recorded t).getD 0)) (htotal : 0 ≤ total)
    (hsum : InI128 (total + (payments.map Prod.snd).sum)) :
    Deductible recorded total payments := by
  induction payments generalizing recorded total with
  | nil => exact trivial
  | cons x rest ih =>
    have hx := hpos x List.mem_cons_self
    have hrest : ∀ y ∈ rest, 0 ≤ y.2 := fun y hy ↦ hpos y (List.mem_cons_of_mem x hy)
    have hcovered := hcover x.1
    have htail := paidIn_nonneg hrest x.1
    rw [paidIn_cons, if_pos rfl] at hcovered
    rw [List.map_cons, List.sum_cons, ← add_assoc] at hsum
    have hleft : InI128 ((recorded x.1).getD 0 - x.2) :=
      inI128_zero.of_between (hrange x.1) (by omega) (by omega)
    have hsums : 0 ≤ (rest.map Prod.snd).sum := by
      refine List.sum_nonneg fun y hy ↦ ?_
      obtain ⟨p, hp, rfl⟩ := List.mem_map.mp hy
      exact hrest p hp
    refine ⟨hleft, by omega, inI128_zero.of_between hsum (by omega) (by omega), ?_⟩
    refine ih hrest (fun t ↦ ?_) (fun t ↦ ?_) (by omega) hsum
    · by_cases ht : t = x.1
      · rw [ht, Function.update_self, Option.getD_some]
        omega
      · have hother := hcover t
        rw [paidIn_cons, if_neg (Ne.symm ht), zero_add] at hother
        rw [Function.update_of_ne ht]
        exact hother
    · by_cases ht : t = x.1
      · rw [ht, Function.update_self]
        exact hleft
      · rw [Function.update_of_ne ht]
        exact hrange t

/-! ### What a release pays in all -/

/-- What a release pays in all is the sum of what is due of the listed tokens. -/
theorem sum_releasePayments
    (hdue : DueOnce milestoneRelease totalRaised recorded
      (assets.filterMap StellarAsset.issuer)) :
    ((releasePayments milestoneRelease totalRaised recorded assets).map Prod.snd).sum =
      ∑ t ∈ (assets.filterMap StellarAsset.issuer).toFinset,
        assetDue ((recorded t).getD 0) milestoneRelease totalRaised := by
  rw [← sum_paidIn]
  simp only [paidIn_releasePayments hdue]
  rw [← Finset.sum_filter]
  refine Finset.sum_congr ?_ fun _ _ ↦ rfl
  ext t
  simp

section Totals

variable
  (hdue : DueOnce milestoneRelease totalRaised recorded (assets.filterMap StellarAsset.issuer))
  (hrecorded : ∀ t, 0 ≤ (recorded t).getD 0) (htotal : 0 < totalRaised)
  (hsum : ∑ t ∈ (assets.filterMap StellarAsset.issuer).toFinset, (recorded t).getD 0
    = totalRaised)
include hdue hrecorded htotal hsum

/-- A release pays at most the pending amount, and nothing when none is. -/
theorem sum_releasePayments_le :
    ((releasePayments milestoneRelease totalRaised recorded assets).map Prod.snd).sum ≤
      max milestoneRelease 0 := by
  refine le_of_mul_le_mul_right ?_ htotal
  rw [sum_releasePayments hdue, Finset.sum_mul]
  calc ∑ t ∈ (assets.filterMap StellarAsset.issuer).toFinset,
        assetDue ((recorded t).getD 0) milestoneRelease totalRaised * totalRaised
      ≤ ∑ t ∈ (assets.filterMap StellarAsset.issuer).toFinset,
          (recorded t).getD 0 * max milestoneRelease 0 :=
        Finset.sum_le_sum fun t _ ↦ assetDue_mul_le (hrecorded t) htotal
    _ = max milestoneRelease 0 * totalRaised := by rw [← Finset.sum_mul, hsum, mul_comm]

/-- A release pays the pending amount up to less than one unit for each entry. -/
theorem sub_length_lt_sum_releasePayments (hrelease : 0 ≤ milestoneRelease)
    (hrange : ∀ t ∈ assets.filterMap StellarAsset.issuer,
      InI128 ((recorded t).getD 0 * milestoneRelease)) :
    milestoneRelease - (assets.filterMap StellarAsset.issuer).length <
      ((releasePayments milestoneRelease totalRaised recorded assets).map Prod.snd).sum := by
  have hnonempty : (assets.filterMap StellarAsset.issuer).toFinset.Nonempty := by
    by_contra hempty
    rw [Finset.not_nonempty_iff_eq_empty.mp hempty, Finset.sum_empty] at hsum
    omega
  have hshares : milestoneRelease - (_ : ℤ) < _ := sub_card_lt_sum_share htotal hsum hnonempty
  have hcard := List.toFinset_card_le (assets.filterMap StellarAsset.issuer)
  have hshare : ∑ t ∈ (assets.filterMap StellarAsset.issuer).toFinset,
        assetDue ((recorded t).getD 0) milestoneRelease totalRaised =
      ∑ t ∈ (assets.filterMap StellarAsset.issuer).toFinset,
        share ((recorded t).getD 0) milestoneRelease totalRaised :=
    Finset.sum_congr rfl fun t ht ↦ assetDue_eq_share (hrecorded t) hrelease htotal
      (hrange t (List.mem_toFinset.mp ht))
  rw [sum_releasePayments hdue, hshare]
  omega

end Totals

end MultiAssetRelease

end OrbitChain.Campaign
