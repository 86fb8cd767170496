import OrbitChain.Campaign.MilestoneSchedule

/-!
# What a release has waited for

A milestone should be released only once the campaign has raised its target, and only after a
donation unlocked it. Both releases check nothing but that the milestone is unlocked, so the gate
is as good as the list of milestones the campaign was initialized with, and `initialize` stores
whatever statuses, released amounts and first target it is given. A milestone that was passed in
as locked is unlocked by a donation that reached its target, and by nothing else
(`CampaignRun.unlocked_by_donation`).
-/

set_option autoImplicit false
set_option relaxedAutoImplicit false

namespace OrbitChain.Campaign

open Foundations

/-- Milestone `i` of a storage has a status. -/
def HasStatus (s : Storage) (i : ℕ) (status : MilestoneStatus) : Prop :=
  (s.getMilestone i).map MilestoneData.status = some status

/-- A donation of the history unlocked milestone `i`. -/
def FlippedByDonation (history : List (Receipt Action World)) (i : ℕ) : Prop :=
  ∃ r ∈ history, r.label.invokes Call.isDonation = true ∧
    HasStatus r.before.storage i .locked ∧ HasStatus r.after.storage i .unlocked

/-- A release of milestone `i` after a history was gated: its target is positive and was raised,
and a donation unlocked it. -/
structure GatedRelease (w : World) (history : List (Receipt Action World)) (i : ℕ) : Prop where
  reached : ∃ campaign m, w.storage.campaignData = some campaign ∧
    w.storage.getMilestone i = some m ∧ 0 < m.targetAmount ∧
      m.targetAmount ≤ campaign.raisedAmount
  flipped : FlippedByDonation history i

/-- Every release of a run was gated. -/
def ReleasesGated (history : List (Receipt Action World)) : Prop :=
  ∀ later r earlier, history = later ++ r :: earlier →
    ∀ i, r.label.releasedIndex = some i → GatedRelease r.before earlier i

/-- Every milestone a run releases was passed to the initialization locked and with a positive
target. -/
def ReleasesPassedLocked (history : List (Receipt Action World)) : Prop :=
  ∀ later r earlier, history = later ++ r :: earlier → ∀ i, r.label.releasedIndex = some i →
    ∀ first ∈ earlier, ∀ goalAmount milestones, Initializes first goalAmount milestones →
      ∃ m, milestones[i]? = some m ∧ m.status = .locked ∧ 0 < m.targetAmount

/-- Every list of milestones a run admits is locked, with nothing released and positive, strictly
ascending targets. -/
def AdmitsLocked (history : List (Receipt Action World)) : Prop :=
  ∀ r ∈ history, ∀ goalAmount milestones, Initializes r goalAmount milestones →
    (∀ m ∈ milestones, m.status = .locked ∧ m.releasedAmount = 0 ∧ 0 < m.targetAmount) ∧
      milestones.Pairwise fun m later ↦ m.targetAmount < later.targetAmount

/-- Every list of milestones a run passes to the initialization is locked, with nothing released
and a positive first target. -/
def PassesLocked (history : List (Receipt Action World)) : Prop :=
  ∀ r ∈ history, ∀ goalAmount milestones, Initializes r goalAmount milestones →
    (∀ m ∈ milestones, m.status = .locked ∧ m.releasedAmount = 0) ∧
      ∀ first ∈ milestones.head?, 0 < first.targetAmount

/-! ### Unlocking -/

theorem FlippedByDonation.cons {history : List (Receipt Action World)} {i : ℕ}
    (h : FlippedByDonation history i) (r : Receipt Action World) :
    FlippedByDonation (r :: history) i := by
  obtain ⟨r', hr', hflip⟩ := h
  exact ⟨r', List.mem_cons_of_mem _ hr', hflip⟩

theorem Established.hasStatus_iff {s : Storage} {campaign : CampaignData} {v : List MilestoneData}
    (h : Established s campaign v) {i : ℕ} {status : MilestoneStatus} :
    HasStatus s i status ↔ ∃ m, v[i]? = some m ∧ m.status = status := by
  rw [HasStatus, h.getMilestone, Option.map_eq_some_iff]

/-- How a milestone stands to the one it was at initialization: if it is locked it was locked, and
if it was locked and no longer is, its target was raised and a donation unlocked it. -/
structure UnlockedByDonation (raised : ℤ) (history : List (Receipt Action World)) (i : ℕ)
    (initial m : MilestoneData) : Prop where
  locked : m.status = .locked → initial.status = .locked
  unlocked : initial.status = .locked → m.status ≠ .locked →
    m.targetAmount ≤ raised ∧ FlippedByDonation history i

/-- A milestone that only advances from an unlocked or released status stays accounted for. -/
theorem UnlockedByDonation.advance {raised raised' : ℤ} {history : List (Receipt Action World)}
    {i : ℕ} {initial m m' : MilestoneData} (h : UnlockedByDonation raised history i initial m)
    (hraised : raised ≤ raised') (hadvances : Advances m m')
    (hunlocked : m'.status ≠ .locked → m.status ≠ .locked) (r : Receipt Action World) :
    UnlockedByDonation raised' (r :: history) i initial m' := by
  constructor
  · intro hlocked
    rcases hadvances.status with hsame | hnext
    · exact h.locked (hsame.symm.trans hlocked)
    · rw [hlocked] at hnext
      cases hm : m.status <;> simp [hm, MilestoneStatus.canTransitionTo] at hnext
  · intro hinitial hnot
    obtain ⟨htarget, hflipped⟩ := h.unlocked hinitial (hunlocked hnot)
    have hterms : m'.targetAmount = m.targetAmount := congrArg (fun terms ↦ terms.2.1)
      hadvances.terms
    exact ⟨by rw [hterms]; exact htarget.trans hraised, hflipped.cons r⟩

/-- An entry of a list comes from the entry it advanced from. -/
theorem exists_advanced {v v' : List MilestoneData} (h : List.Forall₂ Advances v v') {i : ℕ}
    {m' : MilestoneData} (hm' : v'[i]? = some m') : ∃ m, v[i]? = some m ∧ Advances m m' := by
  induction h generalizing i with
  | nil => exact absurd hm' (by simp)
  | cons hhead _ ih =>
    cases i with
    | zero =>
      obtain rfl := by simpa using hm'
      exact ⟨_, rfl, hhead⟩
    | succ i => exact ih (by simpa using hm')

/-- Every step keeps every milestone accounted for. -/
theorem VectorStep.unlockedByDonation {r : Receipt Action World}
    {history : List (Receipt Action World)} {campaign campaign' : CampaignData}
    {v v' milestones : List MilestoneData} (h : VectorStep r.label campaign v campaign' v')
    (hv : Established r.before.storage campaign v)
    (hv' : Established r.after.storage campaign' v')
    (hI : ∀ i m initial, v[i]? = some m → milestones[i]? = some initial →
      UnlockedByDonation campaign.raisedAmount history i initial m) :
    ∀ i m initial, v'[i]? = some m → milestones[i]? = some initial →
      UnlockedByDonation campaign'.raisedAmount (r :: history) i initial m := by
  intro i m' initial hm' hinitial
  obtain ⟨m, hm, hadvances⟩ := exists_advanced h.advances hm'
  have hbefore := hI i m initial hm hinitial
  cases h with
  | kept _ hraised =>
    obtain rfl := Option.some.inj (hm.symm.trans hm')
    exact hbefore.advance hraised.ge hadvances id r
  | unlocked hdonation _ hpos hraised =>
    have hle : campaign.raisedAmount ≤ campaign'.raisedAmount := by omega
    by_cases hlocked : m.status = .locked
    · by_cases hlocked' : m'.status = .locked
      · exact hbefore.advance hle hadvances (fun hne ↦ absurd hlocked' hne) r
      · have hflipped := hm'
        rw [hv.unlockScan_fst, List.getElem?_map, hm, Option.map_some] at hflipped
        obtain rfl := Option.some.inj hflipped
        obtain ⟨htarget, hunlocked⟩ := MilestoneData.raised_of_unlock hlocked hlocked'
        rw [← MilestoneData.unlock_targetAmount campaign'.raisedAmount m] at htarget
        exact
          { locked := fun h ↦ absurd h hlocked'
            unlocked := fun _ _ ↦ ⟨htarget, r, List.mem_cons_self, hdonation,
              hv.hasStatus_iff.mpr ⟨m, hm, hlocked⟩, hv'.hasStatus_iff.mpr ⟨_, hm', hunlocked⟩⟩ }
    · exact hbefore.advance hle hadvances (fun _ ↦ hlocked) r
  | @released index found _ _ hfound hunlocked _ _ hraised =>
    refine hbefore.advance hraised.ge hadvances (fun hne ↦ ?_) r
    by_cases hi : index = i
    · obtain rfl : found = m := Option.some.inj (hfound.symm.trans (hi ▸ hm))
      rw [hunlocked]
      exact fun h ↦ nomatch h
    · rw [List.getElem?_set_ne hi] at hm'
      obtain rfl := Option.some.inj (hm.symm.trans hm')
      exact hne

section Standard

variable {contract : Address} {overflowChecks : Bool} {ledger : Ledger Address Address}
  {wasmHash : BitVec 256} {history : List (Receipt Action World)} {w : World}

/-- A milestone that was passed in locked is unlocked by a donation that reached its target. -/
theorem CampaignRun.unlocked_by_donation
    (run : CampaignRun contract overflowChecks ledger wasmHash history w) :
    ∀ r ∈ history, ∀ goalAmount milestones, Initializes r goalAmount milestones →
      ∃ campaign v, Established w.storage campaign v ∧
        ∀ i m initial, v[i]? = some m → milestones[i]? = some initial →
          UnlockedByDonation campaign.raisedAmount history i initial m := by
  refine CampaignRun.since_initialization
    (I := fun _ milestones history campaign v ↦
      ∀ i m initial, v[i]? = some m → milestones[i]? = some initial →
        UnlockedByDonation campaign.raisedAmount history i initial m) ?_ ?_ run
  · intro goalAmount milestones history r campaign _ _ i m initial hm hinitial
    obtain rfl := Option.some.inj (hm.symm.trans hinitial)
    exact ⟨id, fun hlocked hnot ↦ absurd hlocked hnot⟩
  · intro goalAmount milestones history r campaign v campaign' v' hv hv' hvector _ hI
    exact hvector.unlockedByDonation hv hv' hI

/-- Where there is a campaign, it was initialized. -/
theorem CampaignRun.exists_initializes
    (run : CampaignRun contract overflowChecks ledger wasmHash history w)
    (hw : w.storage.campaignData ≠ none) :
    ∃ r ∈ history, ∃ goalAmount milestones, Initializes r goalAmount milestones := by
  refine CampaignRun.induction (I := fun history w ↦ w.storage.campaignData ≠ none →
    ∃ r ∈ history, ∃ goalAmount milestones, Initializes r goalAmount milestones)
    (fun hnone ↦ absurd rfl hnone) ?_ run hw
  intro history w action next _ ih hstep hnext
  by_cases hcampaign : w.storage.campaignData = none
  · cases action with
    | transfer =>
      cases hstep with
      | transferred _ _ hstorage => exact absurd (by rw [hstorage, hcampaign]) hnext
    | invoke inv =>
      obtain ⟨creator, goalAmount, endTime, acceptedAssets, milestones, minDonationAmount, hcall⟩ :=
        hstep.initialize_of_fresh hcampaign
      refine ⟨_, List.mem_cons_self, goalAmount, milestones, ?_⟩
      rw [Initializes, Action.initialization, hcall]
      rfl
  · obtain ⟨r, hr, hinitializes⟩ := ih hcampaign
    exact ⟨r, List.mem_cons_of_mem _ hr, hinitializes⟩

/-- A stored milestone was passed in with its target. -/
theorem CampaignRun.passed_milestone
    (run : CampaignRun contract overflowChecks ledger wasmHash history w) {i : ℕ}
    {m : MilestoneData} (hm : w.storage.getMilestone i = some m) :
    ∀ r ∈ history, ∀ goalAmount milestones, Initializes r goalAmount milestones →
      ∃ initial, milestones[i]? = some initial ∧ initial.targetAmount = m.targetAmount := by
  intro r hr goalAmount milestones hinit
  have hschedule := CampaignRun.storesSchedule run r hr goalAmount milestones hinit
  rw [hschedule.entries] at hm
  have hmap := congrArg (fun targets ↦ targets[i]?) (map_targets_of_terms hschedule.terms)
  simp only [List.getElem?_map, hm] at hmap
  exact Option.map_eq_some_iff.mp hmap.symm

/-- A release is gated exactly when its milestone was passed in locked with a positive target. -/
theorem gatedRelease_iff
    (run : CampaignRun contract overflowChecks ledger wasmHash history w) {i : ℕ}
    {m : MilestoneData} (hm : w.storage.getMilestone i = some m)
    (hunlocked : m.status = .unlocked) :
    GatedRelease w history i ↔
      ∀ r ∈ history, ∀ goalAmount milestones, Initializes r goalAmount milestones →
        ∃ m, milestones[i]? = some m ∧ m.status = .locked ∧ 0 < m.targetAmount := by
  have htarget := CampaignRun.passed_milestone run hm
  constructor
  · rintro ⟨⟨campaign, m', -, hm', hpos, -⟩, r', hr', -, hlocked, -⟩
    intro r hr goalAmount milestones hinit
    obtain rfl := Option.some.inj (hm.symm.trans hm')
    obtain ⟨initial, hinitial, hsame⟩ := htarget r hr goalAmount milestones hinit
    refine ⟨initial, hinitial, ?_, hsame ▸ hpos⟩
    -- the donation found the milestone locked, so it had been locked from the start
    obtain ⟨later, earlier, rfl⟩ := List.append_of_mem hr'
    have hprior := run.split.1
    have hcampaign : r'.before.storage.campaignData ≠ none := fun hfresh ↦ by
      rw [HasStatus, CampaignRun.untouched hprior hfresh, Storage.getMilestone_empty] at hlocked
      exact nomatch hlocked
    obtain ⟨first, hfirst, _, _, hinit'⟩ := CampaignRun.exists_initializes hprior hcampaign
    obtain rfl : r = first := CampaignRun.initializes_unique run hr (by simp [hfirst]) hinit hinit'
    obtain ⟨campaign, v, hv, hI⟩ :=
      CampaignRun.unlocked_by_donation hprior r hfirst goalAmount milestones hinit
    obtain ⟨m', hm', hlocked'⟩ := hv.hasStatus_iff.mp hlocked
    exact (hI i m' initial hm' hinitial).locked hlocked'
  · intro hpassed
    have hcampaign := (CampaignRun.untouched run).campaign_ne_none hm
    obtain ⟨r, hr, goalAmount, milestones, hinit⟩ := CampaignRun.exists_initializes run hcampaign
    obtain ⟨initial, hinitial, hlocked, hpos⟩ := hpassed r hr goalAmount milestones hinit
    obtain ⟨initial', hinitial', hsame⟩ := htarget r hr goalAmount milestones hinit
    obtain rfl := Option.some.inj (hinitial.symm.trans hinitial')
    obtain ⟨campaign, v, hv, hI⟩ :=
      CampaignRun.unlocked_by_donation run r hr goalAmount milestones hinit
    have hwaited := hI i m initial (hv.milestone_found hm) hinitial
    obtain ⟨hreached, hflipped⟩ := hwaited.unlocked hlocked (by rw [hunlocked]; simp)
    exact ⟨⟨campaign, m, hv.found, hm, hsame ▸ hpos, hreached⟩, hflipped⟩

/-- A run's releases are gated exactly when it passed their milestones in locked. -/
theorem releasesGated_iff
    (run : CampaignRun contract overflowChecks ledger wasmHash history w) :
    ReleasesGated history ↔ ReleasesPassedLocked history := by
  refine forall₃_congr fun later r earlier ↦ forall₂_congr fun hsplit i ↦ ?_
  subst hsplit
  obtain ⟨hearlier, hexec, -⟩ := run.split
  refine forall_congr' fun hindex ↦ ?_
  obtain ⟨m, hm, hunlocked⟩ :=
    (step_of_exec (CampaignRun.untouched hearlier) hexec).exists_unlocked hindex
  exact gatedRelease_iff hearlier hm hunlocked

/-- Targets ascend from the first one. -/
theorem target_pos_of_first {milestones : List MilestoneData}
    (hascending : milestones.Pairwise fun m later ↦ m.targetAmount < later.targetAmount)
    (hfirst : ∀ first ∈ milestones.head?, 0 < first.targetAmount) :
    ∀ m ∈ milestones, 0 < m.targetAmount := by
  cases milestones with
  | nil => simp
  | cons first rest =>
    have hpos : 0 < first.targetAmount := hfirst first rfl
    intro m hm
    rcases List.mem_cons.mp hm with rfl | hm
    · exact hpos
    · exact hpos.trans (List.rel_of_pairwise_cons hascending hm)

/-- The lists a run admits are locked exactly when the lists it passes are: ascending is all that
`initialize` checks. -/
theorem admitsLocked_iff
    (run : CampaignRun contract overflowChecks ledger wasmHash history w) :
    AdmitsLocked history ↔ PassesLocked history := by
  refine forall₂_congr fun r hr ↦ forall₃_congr fun goalAmount milestones hinit ↦ ?_
  obtain ⟨hstep, -⟩ := CampaignRun.step_of_mem run hr
  obtain ⟨inv, _, _, _, _, hlabel, hcall⟩ := Action.initialization_eq_some hinit
  rw [hlabel] at hstep
  have hinitialized := hstep.of_initialize hcall
  have hschedule := hinitialized.2.schedule
  constructor
  · rintro ⟨hall, -⟩
    exact ⟨fun m hm ↦ ⟨(hall m hm).1, (hall m hm).2.1⟩,
      fun first hfirst ↦ (hall first (List.mem_of_mem_head? hfirst)).2.2⟩
  · rintro ⟨hall, hfirst⟩
    have hpos := target_pos_of_first hschedule.ascending hfirst
    exact ⟨fun m hm ↦ ⟨(hall m hm).1, (hall m hm).2, hpos m hm⟩, hschedule.ascending⟩

/-- A run that admits locked lists only releases milestones that were passed in locked. -/
theorem AdmitsLocked.releasesPassedLocked
    (run : CampaignRun contract overflowChecks ledger wasmHash history w)
    (h : AdmitsLocked history) : ReleasesPassedLocked history := by
  intro later r earlier hsplit i hindex first hfirst goalAmount milestones hinit
  subst hsplit
  obtain ⟨hearlier, hexec, -⟩ := run.split
  obtain ⟨m, hm, -⟩ :=
    (step_of_exec (CampaignRun.untouched hearlier) hexec).exists_unlocked hindex
  obtain ⟨initial, hinitial, -⟩ :=
    CampaignRun.passed_milestone hearlier hm first hfirst goalAmount milestones hinit
  obtain ⟨hlocked, -, hpos⟩ := (h first (by simp [hfirst]) goalAmount milestones hinit).1 initial
    (List.mem_of_getElem? hinitial)
  exact ⟨initial, hinitial, hlocked, hpos⟩

/-- The creator initializes a campaign with a milestone that is already unlocked and releases it
before anyone has donated. -/
def Sample.releaseUnraised : List Action :=
  [Sample.opening [⟨"XLM", some Sample.token⟩]
      [{ Sample.milestone 1000 with status := .unlocked }] 1000,
    Sample.call Sample.creator (.releaseMilestone 0 Sample.recipient)]

/-- A run releases a milestone only after its target was raised and a donation unlocked it exactly
when it passed the milestones it releases in locked and with positive targets; and it also admits
gated schedules only exactly when every list it passes to `initialize` is locked, with nothing
released and a positive first target. -/
theorem release_gating_iff
    (run : CampaignRun contract overflowChecks ledger wasmHash history w) :
    (ReleasesGated history ↔ ReleasesPassedLocked history) ∧
      (ReleasesGated history ∧ AdmitsLocked history ↔ PassesLocked history) := by
  refine ⟨releasesGated_iff run, ?_⟩
  rw [← admitsLocked_iff run, releasesGated_iff run]
  exact and_iff_right_of_imp fun hadmits ↦ hadmits.releasesPassedLocked run

end Standard

/-- The last step of the sample run releases a milestone whose target was not raised. -/
theorem Sample.releaseUnraised_last : ∃ r earlier,
    Sample.history Sample.releaseUnraised = [] ++ r :: earlier ∧
      r.label.releasedIndex = some 0 ∧ ¬ GatedRelease r.before earlier 0 := by
  have hlast : (Sample.history Sample.releaseUnraised).head?.any (fun r ↦
      r.label = Sample.call Sample.creator (.releaseMilestone 0 Sample.recipient) ∧
        r.before.storage.campaignData.any (fun campaign ↦ campaign.raisedAmount = 0) = true)
      = true := by decide +kernel
  simp only [Option.any_eq_true, decide_eq_true_eq] at hlast
  obtain ⟨r, hhead, hlabel, campaign, hfound, hraised⟩ := hlast
  obtain ⟨earlier, hhistory⟩ := List.head?_eq_some_iff.mp hhead
  refine ⟨r, earlier, hhistory, by rw [hlabel]; rfl, fun hgated ↦ ?_⟩
  obtain ⟨campaign', m, hfound', -, hpos, hreached⟩ := hgated.reached
  obtain rfl := Option.some.inj (hfound.symm.trans hfound')
  exact absurd (hpos.trans_le (hraised ▸ hreached)) (lt_irrefl 0)

theorem release_gating_iff_releaseUnraised :
    ¬ ReleasesPassedLocked (Sample.history Sample.releaseUnraised) := by
  rw [← (release_gating_iff (Sample.run Sample.releaseUnraised)).1]
  obtain ⟨r, earlier, hhistory, hindex, hgated⟩ := Sample.releaseUnraised_last
  exact fun h ↦ hgated (h [] r earlier hhistory 0 hindex)

/-- A milestone can be released before its target was raised. -/
theorem released_unraised :
    ¬ ∀ (contract : Address) (overflowChecks : Bool) (ledger : Ledger Address Address)
      (wasmHash : BitVec 256) (history : List (Receipt Action World)) (w : World),
      CampaignRun contract overflowChecks ledger wasmHash history w → ReleasesGated history := by
  intro h
  obtain ⟨r, earlier, hhistory, hindex, hgated⟩ := Sample.releaseUnraised_last
  exact hgated (h _ _ _ _ _ _ (Sample.run Sample.releaseUnraised) [] r earlier hhistory 0 hindex)

end OrbitChain.Campaign
