import OrbitChain.Campaign.MilestoneOrder
import OrbitChain.Campaign.RefundOrders

/-!
# Refunds and releases after the conclusion

A release looks at the milestone and not at the campaign's status, so a milestone that was
`Unlocked` when refunds began can be released between two claims and changes the fraction the
second one is paid. Donations alone unlock milestones and end with the campaign: when no milestone
is `Unlocked` as refunds begin, none is released afterwards, and what each donor is refunded does
not depend on the order of claims and release attempts (`refund_fairness`).
-/

set_option autoImplicit false
set_option relaxedAutoImplicit false

namespace OrbitChain.Campaign

open Foundations

/-- The calls that begin refunds: the campaign becomes `Cancelled`, or a donor claims. -/
def Call.beginsRefunds : Call → Bool
  | .cancelCampaign | .claimRefund _ => true
  | _ => false

/-- No milestone waits for its release. -/
def NothingUnlocked (s : Storage) : Prop := ∀ m ∈ s.getMilestonesVec, m.status ≠ .unlocked

instance (s : Storage) : Decidable (NothingUnlocked s) := List.decidableBAll ..

/-- The action does not begin refunds while a milestone waits for its release. -/
def BeginsSettled (r : Receipt Action World) : Prop :=
  r.label.invokes Call.beginsRefunds = true → NothingUnlocked r.before.storage

instance (r : Receipt Action World) : Decidable (BeginsSettled r) :=
  inferInstanceAs (Decidable (_ → _))

/-! ### What a step does to unlocked milestones -/

section Steps

variable {host : Host} {action : Action} {w next : World} {campaign : CampaignData}
  {v : List MilestoneData}

theorem Established.nothingUnlocked_iff {s : Storage} (hs : Established s campaign v) :
    NothingUnlocked s ↔ ∀ m ∈ v, m.status ≠ .unlocked := by
  rw [NothingUnlocked, Storage.getMilestonesVec_of_vec hs.vec]

/-- When no milestone waits for its release, none is released. -/
theorem Step.isRelease_of_nothingUnlocked (h : Step host action w next)
    (hw : Established w.storage campaign v) (hlocked : NothingUnlocked w.storage) :
    action.invokes Call.isRelease = false := by
  have hnone : ∀ {index : ℕ} {milestone : MilestoneData},
      w.storage.getMilestone index = some milestone → milestone.status ≠ .unlocked := by
    intro index milestone hfound
    exact hw.nothingUnlocked_iff.mp hlocked milestone
      (List.mem_of_getElem? (hw.milestone_found hfound))
  cases h with
  | released _ _ h => exact absurd h.unlocked (hnone h.milestone_found)
  | multiReleased _ _ h => exact absurd h.unlocked (hnone h.milestone_found)
  | transferred => rfl
  | initialized _ hcall _ _ | donated _ hcall _ | claimed _ hcall _ =>
    exact Action.invokes_of_call hcall _
  | administered _ hcall _ =>
    rw [Action.invokes, Call.isRelease_eq_isSome, Call.releasedIndex_of_administrative hcall]
    rfl

/-- Only donations and releases write milestones. -/
theorem Step.milestonesVec_eq (h : Step host action w next)
    (hw : Established w.storage campaign v)
    (hdonation : action.invokes Call.isDonation = false)
    (hrelease : action.invokes Call.isRelease = false) :
    ∃ campaign', Established next.storage campaign' v := by
  cases h with
  | transferred _ _ hstorage => exact ⟨campaign, by rwa [hstorage]⟩
  | initialized _ _ _ h => exact absurd h.fresh (by simp [hw.found])
  | donated _ hcall _ =>
    rw [Action.invokes, hcall] at hdonation
    exact absurd hdonation.symm Bool.false_ne_true
  | released _ hcall _ | multiReleased _ hcall _ =>
    rw [Action.invokes, hcall] at hrelease
    exact absurd hrelease.symm Bool.false_ne_true
  | claimed _ _ h => exact ⟨_, (hw.of_claimed h).2⟩
  | administered _ _ h => exact ⟨_, (hw.of_administered h).2⟩

/-- Without donations, no milestone begins to wait for its release. -/
theorem Step.nothingUnlocked (h : Step host action w next)
    (hw : Established w.storage campaign v)
    (hdonation : action.invokes Call.isDonation = false)
    (hlocked : NothingUnlocked w.storage) : NothingUnlocked next.storage := by
  obtain ⟨campaign', hnext⟩ :=
    h.milestonesVec_eq hw hdonation (h.isRelease_of_nothingUnlocked hw hlocked)
  rwa [hnext.nothingUnlocked_iff, ← hw.nothingUnlocked_iff]

/-- When refunds begin, the campaign has concluded. -/
theorem Step.concluded_of_beginsRefunds (h : Step host action w next)
    (hbegins : action.invokes Call.beginsRefunds = true) :
    (∃ campaign, w.storage.campaignData = some campaign) ∧ Concluded next.storage := by
  cases action with
  | transfer => exact absurd hbegins Bool.false_ne_true
  | invoke inv =>
    cases hcall : inv.call with
    | cancelCampaign =>
      obtain ⟨campaign, endTime, concluded, hcancelled⟩ := h.of_administrative (by rw [hcall]; rfl)
      obtain ⟨frozen, blocked, report, hstorage⟩ := hcancelled.storage
      refine ⟨⟨campaign, hcancelled.found⟩, _, by rw [hstorage], ?_⟩
      rw [hcall]
      rfl
    | claimRefund donor =>
      have hrefund : (Action.invoke inv).invokes Call.isRefund = true := by
        exact Action.invokes_of_call hcall _
      have hconcluded := h.concluded_of_isRefund hrefund
      exact ⟨Exists.imp (fun _ ↦ And.left) hconcluded, h.concluded hconcluded⟩
    | _ =>
      rw [Action.invokes, hcall] at hbegins
      exact absurd hbegins Bool.false_ne_true

theorem Action.isDonation_of_beginsRefunds (h : action.invokes Call.beginsRefunds = true) :
    action.invokes Call.isDonation = false := by
  obtain ⟨timestamp, sequence, authorisers, call⟩ | _ := action
  · cases call with
    | donate => exact absurd h Bool.false_ne_true
    | _ => rfl
  · rfl

theorem Action.beginsRefunds_of_isRefund (h : action.invokes Call.isRefund = true) :
    action.invokes Call.beginsRefunds = true := by
  obtain ⟨timestamp, sequence, authorisers, call⟩ | _ := action
  · cases call with
    | claimRefund => rfl
    | _ => exact absurd h Bool.false_ne_true
  · exact absurd h Bool.false_ne_true

/-- A release keeps the campaign record. -/
theorem Step.established_of_isRelease (h : Step host action w next)
    (hw : Established w.storage campaign v) (hrelease : action.invokes Call.isRelease = true) :
    ∃ v', Established next.storage campaign v' := by
  cases h with
  | released _ _ h => exact ⟨_, (hw.of_released h).2.2⟩
  | multiReleased _ _ h => exact ⟨_, (hw.of_multiReleased h).2.2⟩
  | transferred => exact absurd hrelease Bool.false_ne_true
  | initialized _ _ _ h => exact absurd h.fresh (by simp [hw.found])
  | donated _ hcall _ | claimed _ hcall _ =>
    rw [Action.invokes, hcall] at hrelease
    exact absurd hrelease Bool.false_ne_true
  | administered _ hcall _ =>
    rw [Action.invokes, Call.isRelease_eq_isSome, Call.releasedIndex_of_administrative hcall]
      at hrelease
    exact absurd hrelease Bool.false_ne_true

/-- Only a cancellation makes a campaign `Cancelled`. -/
theorem Step.cancelled_before (h : Step host action w next)
    (hfound : next.storage.campaignData = some campaign) (hstatus : campaign.status = .cancelled)
    (hbegins : action.invokes Call.beginsRefunds = false) :
    ∃ found, w.storage.campaignData = some found ∧ found.status = .cancelled := by
  cases h with
  | transferred _ _ hstorage => exact ⟨campaign, by rw [← hfound, hstorage], hstatus⟩
  | initialized _ _ _ h =>
    obtain ⟨report, hstorage⟩ := h.storage
    rw [hstorage] at hfound
    rw [← Option.some.inj hfound] at hstatus
    exact absurd hstatus (by simp [CampaignContract.initialCampaign])
  | @donated _ _ _ _ _ _ found _ _ _ h =>
    rw [h.campaignData] at hfound
    rw [← Option.some.inj hfound, CampaignData.withRaised] at hstatus
    refine ⟨found, h.found, ?_⟩
    split_ifs at hstatus
    exact hstatus
  | claimed _ hcall _ =>
    rw [Action.invokes, hcall] at hbegins
    exact absurd hbegins.symm Bool.false_ne_true
  | released _ _ h | multiReleased _ _ h =>
    obtain ⟨report, -, hstorage⟩ := h.storage
    rw [hstorage] at hfound
    exact ⟨campaign, hfound, hstatus⟩
  | @administered inv _ _ found _ _ _ hcall h =>
    obtain ⟨frozen, blocked, report, hstorage⟩ := h.storage
    rw [hstorage] at hfound
    rw [← Option.some.inj hfound] at hstatus
    refine ⟨found, h.found, ?_⟩
    cases hkind : inv.call with
    | cancelCampaign =>
      rw [Action.invokes, hkind] at hbegins
      exact absurd hbegins.symm Bool.false_ne_true
    | endCampaign =>
      rw [hkind] at hstatus
      exact absurd hstatus (by simp [Call.targetStatus])
    | _ =>
      rw [hkind] at hstatus
      exact hstatus

end Steps

section Runs

variable {contract : Address} {overflowChecks : Bool} {ledger : Ledger Address Address}
  {wasmHash : BitVec 256} {history : List (Receipt Action World)} {w : World}

/-- Once refunds have begun, with no milestone waiting for its release, none ever waits again. -/
theorem CampaignRun.nothingUnlocked_of_begun
    (run : CampaignRun contract overflowChecks ledger wasmHash history w)
    (hsettled : ∀ r ∈ history, BeginsSettled r)
    (hbegun : ∃ r ∈ history, r.label.invokes Call.beginsRefunds = true) :
    Concluded w.storage ∧ NothingUnlocked w.storage := by
  refine CampaignRun.induction (I := fun history w ↦ (∀ r ∈ history, BeginsSettled r) →
    (∃ r ∈ history, r.label.invokes Call.beginsRefunds = true) →
      Concluded w.storage ∧ NothingUnlocked w.storage) (by simp) ?_ run hsettled hbegun
  intro history w action next prior ih hstep hsettled hbegun
  by_cases hbegins : action.invokes Call.beginsRefunds = true
  · obtain ⟨⟨campaign, hfound⟩, hconcluded⟩ := hstep.concluded_of_beginsRefunds hbegins
    obtain ⟨v, hw⟩ := (CampaignRun.sound prior).established hfound
    have hlocked : NothingUnlocked w.storage := hsettled _ List.mem_cons_self hbegins
    exact ⟨hconcluded,
      hstep.nothingUnlocked hw (Action.isDonation_of_beginsRefunds hbegins) hlocked⟩
  · obtain ⟨r, hr, hbegun⟩ := hbegun
    rcases List.mem_cons.mp hr with rfl | hr
    · exact absurd hbegun hbegins
    · obtain ⟨hconcluded, hlocked⟩ :=
        ih (fun r hr ↦ hsettled r (List.mem_cons_of_mem _ hr)) ⟨r, hr, hbegun⟩
      have ⟨campaign, hfound, _⟩ := hconcluded
      obtain ⟨v, hw⟩ := (CampaignRun.sound prior).established hfound
      exact ⟨hstep.concluded hconcluded,
        hstep.nothingUnlocked hw (hstep.isDonation_of_concluded hconcluded) hlocked⟩

/-- A campaign is cancelled by a cancellation. -/
theorem CampaignRun.begun_of_cancelled
    (run : CampaignRun contract overflowChecks ledger wasmHash history w)
    {campaign : CampaignData} (hfound : w.storage.campaignData = some campaign)
    (hstatus : campaign.status = .cancelled) :
    ∃ r ∈ history, r.label.invokes Call.beginsRefunds = true := by
  refine CampaignRun.induction (I := fun history w ↦ ∀ campaign,
    w.storage.campaignData = some campaign → campaign.status = .cancelled →
      ∃ r ∈ history, r.label.invokes Call.beginsRefunds = true)
    (fun _ hnone ↦ by simp [World.deployed, Storage.empty] at hnone) ?_ run campaign hfound hstatus
  intro history w action next _ ih hstep campaign hfound hstatus
  by_cases hbegins : action.invokes Call.beginsRefunds = true
  · exact ⟨_, List.mem_cons_self, hbegins⟩
  have hbefore := hstep.cancelled_before hfound hstatus (eq_false_of_ne_true hbegins)
  obtain ⟨found, hfound, hstatus⟩ := hbefore
  obtain ⟨r, hr, hbegun⟩ := ih found hfound hstatus
  exact ⟨r, List.mem_cons_of_mem _ hr, hbegun⟩

end Runs

/-! ### Orders of claims and release attempts -/

section Orders

variable {contract : Address} {overflowChecks : Bool} {w s : World} {claimed : Finset Address}
  {campaign : CampaignData} {v : List MilestoneData} {acts : List Action}

theorem SameBooks.established {s' : Storage} {s : Storage} (h : SameBooks s s')
    (hs : Established s campaign v) : Established s' campaign v := by
  obtain ⟨donors, report, rfl⟩ := h
  exact hs.congr rfl hs.vec rfl hs.lock_free rfl

/-- A donor with an admissible claim at the head of a list counts as one who has claimed. -/
theorem claimed_or_admissible_cons {host : Host} {donor : Address} {a : Action}
    (h : Admissible host w donor a) (claimed : Finset Address) (rest : List Action)
    (d : Address) :
    (d ∈ insert donor claimed ∨ ∃ b ∈ rest, Admissible host w d b) ↔
      d ∈ claimed ∨ ∃ b ∈ a :: rest, Admissible host w d b := by
  rw [Finset.mem_insert, List.exists_mem_cons_iff]
  constructor
  · rintro ((rfl | hd) | hd)
    · exact .inr (.inl h)
    · exact .inl hd
    · exact .inr (.inr hd)
  · rintro (hd | hd | hd)
    · exact .inl (.inr hd)
    · exact .inl (.inl (Option.some.inj (hd.claimant_eq.symm.trans h.claimant_eq)))
    · exact .inr hd

/-- A failed attempt at the head of a list was no first admissible claim. -/
theorem claimed_or_admissible_cons_of_error (hw : Established w.storage campaign v)
    (hs : AfterClaims contract w s claimed) {a : Action} {rest : List Action} {failure : Failure}
    (hexec : (chain (standardHost contract overflowChecks)).exec a s = .error failure)
    (hcover : Covers contract w fun d ↦ d ∈ claimed ∨
      ∃ b ∈ a :: rest, Admissible (standardHost contract overflowChecks) w d b) (d : Address) :
    (d ∈ claimed ∨ ∃ b ∈ rest, Admissible (standardHost contract overflowChecks) w d b) ↔
      d ∈ claimed ∨
        ∃ b ∈ a :: rest, Admissible (standardHost contract overflowChecks) w d b := by
  rw [List.exists_mem_cons_iff]
  refine ⟨fun hd ↦ hd.imp_right .inr, ?_⟩
  rintro (hd | hd | hd)
  · exact .inl hd
  · -- A first admissible claim would have succeeded.
    refine .inl (by_contra fun hfirst ↦ ?_)
    have hheld := hcover (insert d claimed) fun other hother ↦ by
      rcases Finset.mem_insert.mp hother with rfl | hother
      · exact .inr ⟨a, List.mem_cons_self, hd⟩
      · exact .inl hother
    obtain ⟨next, hok, -⟩ := hd.exists_exec hw hs hfirst hheld
    rw [hexec] at hok
    exact absurd hok (by simp)
  · exact .inr hd

/-- When no milestone waits for its release, a claim or a release attempt that succeeds is an
admissible first claim. -/
theorem AfterClaims.claim_of_exec {a : Action} {next : World}
    (hw : Established w.storage campaign v) (hlocked : NothingUnlocked w.storage)
    (hkind : a.invokes Call.isRefund = true ∨ a.invokes Call.isRelease = true)
    (hs : AfterClaims contract w s claimed)
    (hexec : (chain (standardHost contract overflowChecks)).exec a s = .ok next) :
    ∃ donor, donor ∉ claimed ∧ Admissible (standardHost contract overflowChecks) w donor a ∧
      AfterClaims contract w next (insert donor claimed) ∧
      ∀ d t, refundedTo contract d t ⟨a, s, next⟩ =
        if d = donor then w.storage.refundOwed d t else 0 := by
  have hs' := hs.books.established hw
  have hlocked' : NothingUnlocked s.storage := by
    rwa [hs'.nothingUnlocked_iff, ← hw.nothingUnlocked_iff]
  have hstep := step_of_exec hs'.untouched hexec
  have hrefund : a.invokes Call.isRefund = true := by
    refine hkind.resolve_right fun hrelease ↦ ?_
    rw [hstep.isRelease_of_nothingUnlocked hs' hlocked'] at hrelease
    exact Bool.false_ne_true hrelease
  obtain ⟨inv, donor, -, -, -, rfl, hcall, -⟩ := hstep.claimed_of_isRefund hrefund
  exact ⟨donor, hs.admissible_of_exec hcall hexec⟩

/-- When no milestone waits for its release, a list of claims and release attempts refunds exactly
the donors with an admissible claim in it, each what the donor was owed at the beginning. -/
theorem AfterClaims.replay (hw : Established w.storage campaign v)
    (hlocked : NothingUnlocked w.storage)
    (hkind : ∀ a ∈ acts,
      a.invokes Call.isRefund = true ∨ a.invokes Call.isRelease = true)
    (hs : AfterClaims contract w s claimed)
    (hcover : Covers contract w fun d ↦ d ∈ claimed ∨
      ∃ a ∈ acts, Admissible (standardHost contract overflowChecks) w d a) :
    ∃ final : Finset Address,
      (∀ d, d ∈ final ↔ d ∈ claimed ∨
        ∃ a ∈ acts, Admissible (standardHost contract overflowChecks) w d a) ∧
      ∀ d t, (((chain (standardHost contract overflowChecks)).replay acts s).1.map
          (refundedTo contract d t)).sum =
        if d ∈ final ∧ d ∉ claimed then w.storage.refundOwed d t else 0 := by
  induction acts generalizing s claimed with
  | nil =>
    refine ⟨claimed, by simp, fun d t ↦ ?_⟩
    rw [if_neg fun h ↦ h.2 h.1]
    rfl
  | cons a rest ih =>
    have hkind' : ∀ b ∈ rest, b.invokes Call.isRefund = true ∨ b.invokes Call.isRelease = true :=
      fun b hb ↦ hkind b (List.mem_cons_of_mem a hb)
    cases hexec : (chain (standardHost contract overflowChecks)).exec a s with
    | ok next =>
      obtain ⟨donor, hfirst, hadmissible, hnext, hpaid⟩ :=
        hs.claim_of_exec hw hlocked (hkind a List.mem_cons_self) hexec
      have hstart := claimed_or_admissible_cons hadmissible claimed rest
      obtain ⟨final, hfinal, hsum⟩ := ih hkind' hnext (hcover.mono fun d ↦ (hstart d).mp)
      refine ⟨final, fun d ↦ (hfinal d).trans (hstart d), fun d t ↦ ?_⟩
      rw [System.replay_cons_of_ok _ hexec, List.map_append, List.sum_append, hsum,
        List.map_singleton, List.sum_singleton, hpaid]
      by_cases hd : d = donor
      · have hin : d ∈ final := (hfinal d).mpr (.inl (hd ▸ Finset.mem_insert_self donor claimed))
        rw [if_neg fun h ↦ h.2 (hd ▸ Finset.mem_insert_self donor claimed), if_pos hd,
          if_pos ⟨hin, hd ▸ hfirst⟩, zero_add]
      · rw [if_neg hd, add_zero]
        simp only [Finset.mem_insert, hd, false_or]
    | error failure =>
      have hstart := claimed_or_admissible_cons_of_error hw hs hexec hcover
      obtain ⟨final, hfinal, hsum⟩ := ih hkind' hs (hcover.mono fun d ↦ (hstart d).mp)
      refine ⟨final, fun d ↦ (hfinal d).trans (hstart d), fun d t ↦ ?_⟩
      rw [System.replay_cons_of_error _ hexec, hsum]

/-- After a release in a campaign that was not cancelled, no claim succeeds. -/
theorem not_refund_after_release {i : ℕ} (hw : Established w.storage campaign v)
    (hstatus : campaign.status ≠ .cancelled) (hreleased : IsReleased w.storage i)
    (hkind : ∀ a ∈ acts, a.invokes Call.isRefund = true ∨ a.invokes Call.isRelease = true) :
    ∀ r ∈ ((chain (standardHost contract overflowChecks)).replay acts w).1,
      r.label.invokes Call.isRefund = false := by
  induction acts generalizing w v with
  | nil => simp [System.replay]
  | cons a rest ih =>
    have hkind' : ∀ b ∈ rest, b.invokes Call.isRefund = true ∨ b.invokes Call.isRelease = true :=
      fun b hb ↦ hkind b (List.mem_cons_of_mem a hb)
    cases hexec : (chain (standardHost contract overflowChecks)).exec a w with
    | error failure =>
      rw [System.replay_cons_of_error _ hexec]
      exact ih hw hreleased hkind'
    | ok next =>
      have hstep := step_of_exec hw.untouched hexec
      have hrefund : a.invokes Call.isRefund = false := by
        by_contra hrefund
        obtain ⟨inv, donor, found, record, numerator, -, -, hclaimed⟩ :=
          hstep.claimed_of_isRefund (eq_true_of_ne_false hrefund)
        obtain rfl := hw.campaign_eq hclaimed.found
        rcases hclaimed.refunds_open with hcancelled | ⟨-, hnone⟩
        · exact hstatus hcancelled
        · rw [hw.anyMilestoneReleased_iff.mpr ⟨_, hreleased⟩] at hnone
          exact absurd hnone.symm Bool.false_ne_true
      have hkept : IsReleased next.storage i :=
        (hstep.isReleased_iff (.inr ⟨_, _, hw⟩) (by simp [hw.found]) i).mpr (.inr hreleased)
      obtain ⟨v', hnext⟩ := hstep.established_of_isRelease hw
        ((hkind a List.mem_cons_self).resolve_left (ne_true_of_eq_false hrefund))
      simp only [System.replay_cons_of_ok _ hexec, List.mem_append, List.mem_singleton]
      rintro r (hr | rfl)
      · exact ih hnext hkept hkind' r hr
      · exact hrefund

/-- When a claim succeeds among claims and release attempts that begin refunds settled, no
milestone waited for its release at the beginning. -/
theorem nothingUnlocked_of_refund (hw : Established w.storage campaign v)
    (hcancelled : campaign.status = .cancelled → NothingUnlocked w.storage)
    (hkind : ∀ a ∈ acts, a.invokes Call.isRefund = true ∨ a.invokes Call.isRelease = true)
    (hsettled : ∀ r ∈ ((chain (standardHost contract overflowChecks)).replay acts w).1,
      BeginsSettled r)
    (hrefund : ∃ r ∈ ((chain (standardHost contract overflowChecks)).replay acts w).1,
      r.label.invokes Call.isRefund = true) : NothingUnlocked w.storage := by
  by_cases hstatus : campaign.status = .cancelled
  · exact hcancelled hstatus
  induction acts with
  | nil => simp [System.replay] at hrefund
  | cons a rest ih =>
    have hkind' : ∀ b ∈ rest, b.invokes Call.isRefund = true ∨ b.invokes Call.isRelease = true :=
      fun b hb ↦ hkind b (List.mem_cons_of_mem a hb)
    cases hexec : (chain (standardHost contract overflowChecks)).exec a w with
    | error failure =>
      rw [System.replay_cons_of_error _ hexec] at hsettled hrefund
      exact ih hkind' hsettled hrefund
    | ok next =>
      have hstep := step_of_exec hw.untouched hexec
      simp only [System.replay_cons_of_ok _ hexec, List.mem_append, List.mem_singleton]
        at hsettled hrefund
      rcases hkind a List.mem_cons_self with hclaim | hrelease
      · exact hsettled _ (.inr rfl) (Action.beginsRefunds_of_isRefund hclaim)
      · -- the release comes first, so no claim succeeds
        exfalso
        obtain ⟨index, hindex⟩ := Option.isSome_iff_exists.mp
          ((Action.isRelease_eq_isSome a).symm.trans hrelease)
        have hreleased : IsReleased next.storage index :=
          (hstep.isReleased_iff (.inr ⟨_, _, hw⟩) (by simp [hw.found]) index).mpr (.inl hindex)
        obtain ⟨v', hnext⟩ := hstep.established_of_isRelease hw hrelease
        obtain ⟨r, hr | rfl, hclaim⟩ := hrefund
        · rw [not_refund_after_release hnext hstatus hreleased hkind' r hr] at hclaim
          exact Bool.false_ne_true hclaim
        · obtain ⟨inv, donor, -, -, -, rfl, hcall, -⟩ := hstep.claimed_of_isRefund hclaim
          rw [Action.invokes, hcall] at hrelease
          exact Bool.false_ne_true hrelease

end Orders

/-! ### Fairness -/

/-- What decides the outcome of an attempt once refunds have begun: who signed it, what it calls
and whether it comes within the refund window. -/
structure Attempt where
  authorisers : List Address
  call : Call
  inTime : Prop

def Action.attempt (host : Host) (s : Storage) : Action → Option Attempt
  | .invoke inv => some
    { authorisers := inv.authorisers
      call := inv.call
      inTime := inv.WellTyped ∧ ∀ campaign, s.campaignData = some campaign →
        WithinRefundWindow (inv.env host) campaign }
  | .transfer _ _ _ _ => none

/-- Two lists make the same attempts, in any order and at any times of which the refund window does
not tell the difference. -/
def SameAttempts (host : Host) (s : Storage) (acts acts' : List Action) : Prop :=
  (acts.map (Action.attempt host s)).Perm (acts'.map (Action.attempt host s))

theorem sameAttempts_of_perm {host : Host} {s : Storage} {acts acts' : List Action}
    (h : acts.Perm acts') : SameAttempts host s acts acts' :=
  h.map _

theorem SameAttempts.symm {host : Host} {s : Storage} {acts acts' : List Action}
    (h : SameAttempts host s acts acts') : SameAttempts host s acts' acts :=
  List.Perm.symm h

/-- What a list of attempts refunds to a donor in a token. -/
def refundedOver (contract : Address) (overflowChecks : Bool) (acts : List Action) (w : World)
    (donor token : Address) : ℤ :=
  (((chain (standardHost contract overflowChecks)).replay acts w).1.map
    (refundedTo contract donor token)).sum

theorem SameAttempts.exists_attempt {host : Host} {s : Storage} {acts acts' : List Action}
    (h : SameAttempts host s acts acts') {a : Action} (ha : a ∈ acts) :
    ∃ a' ∈ acts', a'.attempt host s = a.attempt host s :=
  List.mem_map.mp (h.mem_iff.mp (List.mem_map_of_mem ha))

theorem kind_of_attempt {host : Host} {s : Storage} {kind kind' : Call → Bool} {a a' : Action}
    (hsame : a'.attempt host s = a.attempt host s)
    (h : a'.invokes kind = true ∨ a'.invokes kind' = true) :
    a.invokes kind = true ∨ a.invokes kind' = true := by
  cases a' with
  | transfer => exact absurd h (by simp [Action.invokes])
  | invoke inv' =>
    cases a with
    | transfer => exact absurd hsame (by simp [Action.attempt])
    | invoke inv =>
      simp only [Action.attempt, Option.some.injEq, Attempt.mk.injEq] at hsame
      rw [Action.invokes, Action.invokes, ← hsame.2.1]
      exact h

/-- The attempt decides whether a claim is admissible. -/
theorem Admissible.of_attempt {host : Host} {w : World} {donor : Address} {a a' : Action}
    (h : Admissible host w donor a) (hsame : a'.attempt host w.storage = a.attempt host w.storage) :
    Admissible host w donor a' := by
  obtain ⟨inv, campaign, record, numerator, rfl, hcall, htyped, hclaim⟩ := h
  cases a' with
  | transfer => exact absurd hsame (by simp [Action.attempt])
  | invoke inv' =>
    simp only [Action.attempt, Option.some.injEq, Attempt.mk.injEq] at hsame
    obtain ⟨hsigners, hcall', htime⟩ := hsame
    have hinTime : inv.WellTyped ∧ ∀ campaign, w.storage.campaignData = some campaign →
        WithinRefundWindow (inv.env host) campaign := by
      refine ⟨htyped, fun found hfound ↦ ?_⟩
      obtain rfl : campaign = found := Option.some.inj (hclaim.found.symm.trans hfound)
      exact hclaim.in_window
    obtain ⟨htyped', hwindow⟩ := htime.mpr hinTime
    have hsigned : donor ∈ inv'.authorisers := by
      rw [hsigners]
      exact hclaim.authorised.1
    refine ⟨inv', campaign, record, numerator, rfl, hcall'.trans hcall, htyped', ?_⟩
    exact
      { lock_free := hclaim.lock_free
        authorised := ⟨hsigned, hclaim.authorised.2⟩
        not_frozen := hclaim.not_frozen
        found := hclaim.found
        donor_found := hclaim.donor_found
        refunds_open := hclaim.refunds_open
        in_window := hwindow campaign hclaim.found
        not_claimed := hclaim.not_claimed
        numerator_eq := hclaim.numerator_eq
        calculable := hclaim.calculable }

section Fairness

variable {contract : Address} {overflowChecks : Bool} {ledger : Ledger Address Address}
  {wasmHash : BitVec 256} {history : List (Receipt Action World)} {w : World}

/-- When no milestone waits for its release, what a list of claims and release attempts refunds is
decided by the attempts it makes. -/
theorem refundedOver_eq {campaign : CampaignData} {v : List MilestoneData}
    {acts acts' : List Action} (hw : Established w.storage campaign v)
    (hlocked : NothingUnlocked w.storage)
    (hsame : SameAttempts (standardHost contract overflowChecks) w.storage acts acts')
    (hkind : ∀ a ∈ acts, a.invokes Call.isRefund = true ∨ a.invokes Call.isRelease = true)
    (hkind' : ∀ a ∈ acts', a.invokes Call.isRefund = true ∨ a.invokes Call.isRelease = true)
    (hcover : Covers contract w fun d ↦
      ∃ a ∈ acts, Admissible (standardHost contract overflowChecks) w d a) (d t : Address) :
    refundedOver contract overflowChecks acts w d t =
      refundedOver contract overflowChecks acts' w d t := by
  have hadmissible : ∀ d, (∃ a ∈ acts, Admissible (standardHost contract overflowChecks) w d a) ↔
      ∃ a ∈ acts', Admissible (standardHost contract overflowChecks) w d a := by
    intro d
    constructor
    · rintro ⟨a, ha, hd⟩
      obtain ⟨a', ha', heq⟩ := hsame.exists_attempt ha
      exact ⟨a', ha', hd.of_attempt heq⟩
    · rintro ⟨a, ha, hd⟩
      obtain ⟨a', ha', heq⟩ := hsame.symm.exists_attempt ha
      exact ⟨a', ha', hd.of_attempt heq⟩
  have hstart := AfterClaims.refl contract w
  obtain ⟨final, hfinal, hsum⟩ := hstart.replay hw hlocked hkind
    (hcover.mono fun d hd ↦ hd.resolve_left (Finset.notMem_empty d))
  obtain ⟨final', hfinal', hsum'⟩ := hstart.replay hw hlocked hkind'
    (hcover.mono fun d hd ↦ (hadmissible d).mpr (hd.resolve_left (Finset.notMem_empty d)))
  have hclaimed : final = final' := by
    ext d
    rw [hfinal, hfinal', hadmissible]
  rw [refundedOver, refundedOver, hsum, hsum', hclaimed]

/-- In a run that never begins refunds while a milestone waits for its release, no release succeeds
once refunds have begun; and claims and release attempts after the conclusion refund the same in
any order that keeps to this, when the contract holds what the claimants are owed. -/
theorem refund_fairness
    (run : CampaignRun contract overflowChecks ledger wasmHash history w)
    (hsettled : ∀ r ∈ history, BeginsSettled r) :
    ((∃ r ∈ history, r.label.invokes Call.beginsRefunds = true) → ∀ action next,
      (chain (standardHost contract overflowChecks)).exec action w = .ok next →
      action.invokes Call.isRelease = false) ∧
    (Concluded w.storage → ∀ acts acts',
      SameAttempts (standardHost contract overflowChecks) w.storage acts acts' →
      (∀ a ∈ acts, a.invokes Call.isRefund = true ∨ a.invokes Call.isRelease = true) →
      (∀ r ∈ ((chain (standardHost contract overflowChecks)).replay acts w).1, BeginsSettled r) →
      (∀ r ∈ ((chain (standardHost contract overflowChecks)).replay acts' w).1,
        BeginsSettled r) →
      (Covers contract w fun d ↦
        ∃ a ∈ acts, Admissible (standardHost contract overflowChecks) w d a) →
      ∀ d t, refundedOver contract overflowChecks acts w d t =
        refundedOver contract overflowChecks acts' w d t) := by
  constructor
  · intro hbegun action next hexec
    obtain ⟨⟨campaign, hfound, -⟩, hlocked⟩ :=
      CampaignRun.nothingUnlocked_of_begun run hsettled hbegun
    obtain ⟨v, hw⟩ := (CampaignRun.sound run).established hfound
    exact (step_of_exec (CampaignRun.untouched run) hexec).isRelease_of_nothingUnlocked hw hlocked
  · rintro ⟨campaign, hfound, -⟩ acts acts' hsame hkind hreplay hreplay' hcover d t
    obtain ⟨v, hw⟩ := (CampaignRun.sound run).established hfound
    have hcancelled : campaign.status = .cancelled → NothingUnlocked w.storage := by
      intro hstatus
      have hbegun := CampaignRun.begun_of_cancelled run hfound hstatus
      exact (CampaignRun.nothingUnlocked_of_begun run hsettled hbegun).2
    have hkind' : ∀ a ∈ acts',
        a.invokes Call.isRefund = true ∨ a.invokes Call.isRelease = true := by
      intro a ha
      obtain ⟨b, hb, heq⟩ := hsame.symm.exists_attempt ha
      exact kind_of_attempt heq (hkind b hb)
    by_cases hlocked : NothingUnlocked w.storage
    · exact refundedOver_eq hw hlocked hsame hkind hkind' hcover d t
    · have hnone : ∀ {list : List Action}, (∀ a ∈ list, a.invokes Call.isRefund = true ∨
            a.invokes Call.isRelease = true) →
          (∀ r ∈ ((chain (standardHost contract overflowChecks)).replay list w).1,
            BeginsSettled r) → refundedOver contract overflowChecks list w d t = 0 := by
        intro list hlist hbegins
        refine sum_refundedTo_of_no_refund fun r hr ↦ ?_
        by_contra hrefund
        exact hlocked (nothingUnlocked_of_refund hw hcancelled hlist hbegins
          ⟨r, hr, eq_true_of_ne_false hrefund⟩)
      rw [hnone hkind hreplay, hnone hkind' hreplay']

end Fairness

namespace Sample

/-- Two donors give amounts and the campaign is cancelled. -/
def cancellation (first second : ℤ) : List Action :=
  [opening [⟨"XLM", some token⟩] [milestone 500, milestone 1000] 1000,
    giving donor first token, .transfer token donor contract first,
    giving secondDonor second token, .transfer token secondDonor contract second,
    call creator .cancelCampaign]

def claim (donor : Address) : Action := call donor (.claimRefund donor)

def releasing (index : ℕ) : Action := call creator (.releaseMilestone index recipient)

end Sample

/-- After a campaign is cancelled below its first milestone nothing is released, and its two donors
get the same in both orders, with a release attempt between their claims. -/
theorem refund_fairness_cancellation :
    (∀ action next, (chain (standardHost Sample.contract true)).exec action
        (Sample.reached (Sample.cancellation 300 100)) = .ok next →
      action.invokes Call.isRelease = false) ∧
    ∀ d t, refundedOver Sample.contract true
        [Sample.claim Sample.donor, Sample.releasing 0, Sample.claim Sample.secondDonor]
        (Sample.reached (Sample.cancellation 300 100)) d t =
      refundedOver Sample.contract true
        [Sample.claim Sample.secondDonor, Sample.releasing 0, Sample.claim Sample.donor]
        (Sample.reached (Sample.cancellation 300 100)) d t := by
  have hstatus : (Sample.reached (Sample.cancellation 300 100)).storage.campaignData.map
      (fun campaign ↦ (campaign.status, campaign.issuers)) =
        some (.cancelled, [Sample.token]) := by decide +kernel
  obtain ⟨campaign, hfound, hrecord⟩ := Option.map_eq_some_iff.mp hstatus
  obtain ⟨hcancelled, hissuers⟩ := Prod.mk.inj hrecord
  obtain ⟨hreleases, hfair⟩ :=
    refund_fairness (Sample.run (Sample.cancellation 300 100)) (by decide +kernel)
  refine ⟨hreleases (by decide +kernel), hfair ⟨campaign, hfound, by rw [hcancelled]; rfl⟩ _ _
    (sameAttempts_of_perm (by decide)) (by decide) (by decide +kernel) (by decide +kernel) ?_⟩
  intro donors hdonors token
  by_cases htoken : token = Sample.token
  · have hsub : donors ⊆ {Sample.donor, Sample.secondDonor} := by
      intro d hd
      obtain ⟨a, ha, hadmissible⟩ := hdonors d hd
      have hclaimant : d ∈ claimants [Sample.claim Sample.donor, Sample.releasing 0,
          Sample.claim Sample.secondDonor] := mem_claimants.mpr ⟨a, ha, hadmissible.claimant_eq⟩
      exact hclaimant
    refine le_trans (Finset.sum_le_sum_of_subset_of_nonneg hsub
      fun d _ _ ↦ refundOwed_nonneg _ d token) ?_
    rw [htoken]
    decide +kernel
  · rw [Finset.sum_eq_zero fun d _ ↦ refundOwed_of_unlisted hfound (by simpa [hissuers]) d]
    exact Ledger.balance_nonneg _ token _

/-- A milestone unlocked before the cancellation is released after it, and what a donor gets back
depends on whether the claim or the release comes first. -/
theorem refund_unfair :
    ¬ (∀ (contract : Address) (overflowChecks : Bool) (ledger : Ledger Address Address)
      (wasmHash : BitVec 256) (history : List (Receipt Action World)) (w : World),
      CampaignRun contract overflowChecks ledger wasmHash history w →
      (∃ r ∈ history, r.label.invokes Call.beginsRefunds = true) → ∀ action next,
      (chain (standardHost contract overflowChecks)).exec action w = .ok next →
      action.invokes Call.isRelease = false) ∧
    ¬ ∀ (contract : Address) (overflowChecks : Bool) (ledger : Ledger Address Address)
      (wasmHash : BitVec 256) (history : List (Receipt Action World)) (w : World),
      CampaignRun contract overflowChecks ledger wasmHash history w → Concluded w.storage →
      ∀ acts acts' : List Action, acts.Perm acts' →
      (∀ a ∈ acts, a.invokes Call.isRefund = true ∨ a.invokes Call.isRelease = true) →
      ∀ d t, refundedOver contract overflowChecks acts w d t =
        refundedOver contract overflowChecks acts' w d t := by
  constructor
  · intro h
    have hreleased : ((chain (standardHost Sample.contract true)).exec (Sample.releasing 0)
        (Sample.reached (Sample.cancellation 300 300))).isOk = true := by decide +kernel
    obtain ⟨next, hexec⟩ := isOk_iff.mp hreleased
    have hclosed := h _ _ _ _ _ _ (Sample.run (Sample.cancellation 300 300)) (by decide +kernel)
      _ next hexec
    exact absurd hclosed (by decide)
  · intro h
    have hstatus : (Sample.reached (Sample.cancellation 300 300)).storage.campaignData.map
        CampaignData.status = some .cancelled := by decide +kernel
    obtain ⟨campaign, hfound, hcancelled⟩ := Option.map_eq_some_iff.mp hstatus
    have hequal := h _ _ _ _ _ _ (Sample.run (Sample.cancellation 300 300))
      ⟨campaign, hfound, by rw [hcancelled]; rfl⟩
      [Sample.claim Sample.donor, Sample.releasing 0]
      [Sample.releasing 0, Sample.claim Sample.donor]
      (List.Perm.swap ..) (by decide) Sample.donor Sample.token
    revert hequal
    decide +kernel

end OrbitChain.Campaign
