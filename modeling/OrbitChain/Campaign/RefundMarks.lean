import OrbitChain.Campaign.RefundPolicy

/-!
# The mark of a refunded donor

A claim marks its donor's record, and a later donation rewrites that record with the mark kept. The
mark is only ever set by a claim, which finds the campaign concluded, so a marked donor means a
concluded campaign. The view and the claim ask for the same policy: a donor to whom the view does
not answer yes cannot claim.
-/

set_option autoImplicit false
set_option relaxedAutoImplicit false

namespace OrbitChain.Campaign

open Foundations

/-! ### Where a mark comes from -/

/-- Refunds are open in concluded campaigns only. -/
theorem RefundsOpen.isTerminal {s : Storage} {campaign : CampaignData}
    (h : RefundsOpen s campaign) : campaign.status.isTerminal = true := by
  rcases h with hcancelled | ⟨hended, -⟩
  · rw [hcancelled]
    rfl
  · rw [hended]
    rfl

/-- A donation marks nobody. -/
theorem refunded_of_donated {env : Env} {giver : Address} {amount : ℤ} {asset : AssetInfo}
    {w next : World} {campaign : CampaignData} {token : Address}
    (h : CampaignContract.Donated env giver amount asset w next campaign token) {donor : Address}
    (hrefunded : Refunded donor next) : Refunded donor w := by
  obtain ⟨record, happly, hdata⟩ := h.donorData
  obtain ⟨marked, hfound, hmarked⟩ := hrefunded
  rw [hdata] at hfound
  by_cases hgiver : donor = giver
  · subst hgiver
    rw [Function.update_self] at hfound
    obtain rfl := Option.some.inj hfound
    rw [(DonorRecord.applyDonation_ok happly).2.2.1] at hmarked
    cases hbefore : w.storage.donorData donor with
    | none =>
      rw [hbefore] at hmarked
      exact absurd hmarked Bool.false_ne_true
    | some before =>
      rw [hbefore] at hmarked
      exact ⟨before, hbefore, hmarked⟩
  · rw [Function.update_of_ne hgiver] at hfound
    exact ⟨marked, hfound, hmarked⟩

/-- A marked donor was marked before the step, or claimed in it. -/
theorem Step.refunded_or_claimed {host : Host} {action : Action} {w next : World}
    (h : Step host action w next) {donor : Address} (hrefunded : Refunded donor next) :
    Refunded donor w ∨ action.claimant = some donor := by
  have hother (hsame : next.storage.donorData = w.storage.donorData) : Refunded donor w := by
    rw [Refunded, hsame] at hrefunded
    exact hrefunded
  cases h with
  | donated _ _ h => exact .inl (refunded_of_donated h hrefunded)
  | @claimed _ _ _ claimant _ _ _ _ hcall h =>
    obtain ⟨report, -, hstorage⟩ := h.storage
    by_cases hclaimant : claimant = donor
    · rw [Action.claimant, hcall, hclaimant]
      exact .inr rfl
    · obtain ⟨record, hfound, hmarked⟩ := hrefunded
      have hdata : next.storage.donorData donor = w.storage.donorData donor := by
        rw [hstorage]
        exact Function.update_of_ne (Ne.symm hclaimant) _ _
      exact .inl ⟨record, hdata ▸ hfound, hmarked⟩
  | transferred _ _ hstorage => exact .inl (hother (by rw [hstorage]))
  | initialized _ _ _ h =>
    obtain ⟨report, hstorage⟩ := h.storage
    exact .inl (hother (by rw [hstorage]))
  | released _ _ h | multiReleased _ _ h =>
    obtain ⟨report, -, hstorage⟩ := h.storage
    exact .inl (hother (by rw [hstorage]))
  | administered _ _ h =>
    obtain ⟨frozen, blocked, report, hstorage⟩ := h.storage
    exact .inl (hother (by rw [hstorage]))

/-- A claim finds the campaign concluded. -/
theorem Step.concluded_of_claimant {host : Host} {action : Action} {w next : World}
    (h : Step host action w next) {donor : Address} (hclaimant : action.claimant = some donor) :
    Concluded w.storage := by
  obtain ⟨inv, rfl, hcall⟩ := Action.claimant_eq_some hclaimant
  obtain ⟨campaign, record, numerator, hclaimed⟩ := h.of_claimRefund hcall
  exact ⟨campaign, hclaimed.found, hclaimed.refunds_open.isTerminal⟩

/-! ### Claims of donors who are not eligible -/

/-- The view answers no, or traps, when a claim at the same time would be refused. -/
theorem isRefundEligible_of_claimed {env : Env} {donor : Address} {w next : World}
    {campaign : CampaignData} {record : DonorRecord} {numerator : ℤ}
    (h : CampaignContract.Claimed env donor w next campaign record numerator) :
    CampaignContract.isRefundEligible env donor w = .ok true :=
  (CampaignContract.isRefundEligible_eq_ok_true_iff h.found h.donor_found).mpr
    ⟨h.refunds_open, h.in_window, h.not_claimed⟩

section Standard

variable {contract : Address} {overflowChecks : Bool} {ledger : Ledger Address Address}
  {wasmHash : BitVec 256} {history : List (Receipt Action World)} {w : World}

/-- Only in concluded campaigns are donors marked. -/
theorem CampaignRun.concluded_of_refunded
    (run : CampaignRun contract overflowChecks ledger wasmHash history w) {donor : Address}
    (hrefunded : Refunded donor w) : Concluded w.storage := by
  refine CampaignRun.induction (I := fun _ w ↦ ∀ donor, Refunded donor w → Concluded w.storage)
    ?_ ?_ run donor hrefunded
  · rintro donor ⟨record, hfound, -⟩
    exact absurd hfound.symm (Option.some_ne_none record)
  · intro history w action next prior ih hstep donor hrefunded
    refine hstep.concluded ?_
    rcases hstep.refunded_or_claimed hrefunded with hbefore | hclaimant
    · exact ih donor hbefore
    · exact hstep.concluded_of_claimant hclaimant

/-- Every mark found by a step of the run is there at its end. -/
theorem CampaignRun.refunded_kept
    (run : CampaignRun contract overflowChecks ledger wasmHash history w) {donor : Address} :
    ∀ r ∈ history, Refunded donor r.before → Refunded donor r.after ∧ Refunded donor w := by
  refine CampaignRun.induction (I := fun history w ↦ ∀ r ∈ history, Refunded donor r.before →
    Refunded donor r.after ∧ Refunded donor w) (by simp) ?_ run
  intro history w action next prior ih hstep r hr hrefunded
  rcases List.mem_cons.mp hr with rfl | hr
  · exact ⟨hstep.refunded hrefunded, hstep.refunded hrefunded⟩
  · obtain ⟨hafter, hreached⟩ := ih r hr hrefunded
    exact ⟨hafter, hstep.refunded hreached⟩

/-- A donor is refunded at most once along a run; a mark is never taken back and means that the
campaign is concluded; and a claim of a donor to whom the view does not answer yes fails and leaves
everything as it was. -/
theorem refund_at_most_once
    (run : CampaignRun contract overflowChecks ledger wasmHash history w) :
    (history.Pairwise fun later earlier ↦ ∀ donor, later.label.claimant = some donor →
      earlier.label.claimant ≠ some donor) ∧
    (∀ donor, ∀ r ∈ history, Refunded donor r.before →
      Refunded donor r.after ∧ Refunded donor w) ∧
    (∀ donor, Refunded donor w → Concluded w.storage) ∧
    ∀ inv donor, inv.call = .claimRefund donor →
      CampaignContract.isRefundEligible (inv.env (standardHost contract overflowChecks)) donor w ≠
        .ok true →
      (chain (standardHost contract overflowChecks)).replay [.invoke inv] w = ([], w) := by
  refine ⟨run.once (marksOnce_claims contract overflowChecks ledger wasmHash),
    fun donor ↦ CampaignRun.refunded_kept run, fun donor ↦ CampaignRun.concluded_of_refunded run,
    fun inv donor hcall hineligible ↦ ?_⟩
  cases hexec : (chain (standardHost contract overflowChecks)).exec (.invoke inv) w with
  | error failure => exact System.replay_cons_of_error _ hexec []
  | ok next =>
    obtain ⟨campaign, record, numerator, hclaimed⟩ :=
      (step_of_exec (CampaignRun.untouched run) hexec).of_claimRefund hcall
    exact absurd (isRefundEligible_of_claimed hclaimed) hineligible

end Standard

/-- The donor of the sample run has been refunded, and cannot claim again. -/
theorem refund_at_most_once_refundAtGoal :
    (chain (standardHost Sample.contract true)).replay
      [Sample.call Sample.donor (.claimRefund Sample.donor)]
      (Sample.reached Sample.refundAtGoal) = ([], Sample.reached Sample.refundAtGoal) :=
  (refund_at_most_once (Sample.run Sample.refundAtGoal)).2.2.2
    ⟨20, 2, [Sample.donor], .claimRefund Sample.donor⟩ Sample.donor rfl (by decide +kernel)

end OrbitChain.Campaign
