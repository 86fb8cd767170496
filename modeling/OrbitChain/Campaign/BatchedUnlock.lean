import OrbitChain.Campaign.DonorAccounting
import OrbitChain.Campaign.MilestoneMap

/-!
# The unlock burst and the loop it replaced

The burst scans the milestones up to the first target above the raised amount and writes the whole
set at once; the loop it replaced visits every index and writes the milestones it flips one by one.
On ascending targets both unlock every milestone that is due, in either layout. The burst lists
what it flipped in order, and a second burst finds nothing to flip.
-/

set_option autoImplicit false
set_option relaxedAutoImplicit false

namespace OrbitChain.Campaign

open Foundations

namespace Storage

/-! ### The loop that the burst replaced -/

/-- The milestone accessors of the per-index layout. -/
def entryStore : KeyedStore Storage ℕ MilestoneData where
  read s := s.milestoneData
  write s index data :=
    { s with milestoneData := Function.update s.milestoneData index (some data) }

theorem entryStore_actsAsMap : entryStore.ActsAsMap := fun _ _ _ ↦ rfl

/-- Read every index below the milestone count and write back the milestones that are due. -/
def unlockLoop (store : KeyedStore Storage ℕ MilestoneData) (milestoneCount : ℕ)
    (raisedAmount : ℤ) (s : Storage) : Storage :=
  store.rewriteBelow
    (fun m ↦ if m.Due raisedAmount then some { m with status := .unlocked } else none)
    milestoneCount s

/-- The replaced loop on the per-index layout. -/
def oldUnlockLoop (milestoneCount : ℕ) (raisedAmount : ℤ) (s : Storage) : Storage :=
  unlockLoop entryStore milestoneCount raisedAmount s

theorem read_unlockLoop {store : KeyedStore Storage ℕ MilestoneData} (hstore : store.ActsAsMap)
    (milestoneCount : ℕ) (raised : ℤ) (s : Storage) (index : ℕ) :
    store.read (unlockLoop store milestoneCount raised s) index =
      if index < milestoneCount then (store.read s index).map (MilestoneData.unlock raised)
      else store.read s index := by
  have hunlock : (fun m : MilestoneData ↦
      (if m.Due raised then some { m with status := .unlocked } else none).getD m) =
      MilestoneData.unlock raised := by
    funext m
    unfold MilestoneData.unlock
    split_ifs <;> rfl
  rw [unlockLoop, KeyedStore.read_rewriteBelow hstore, hunlock]

/-! ### The list of what was flipped -/

section Pairs

variable {v : List MilestoneData} {raised : ℤ} {i : ℕ}

/-- A pair is listed when the milestone at its index is due and has its target. -/
theorem mem_duePairs_iff {index : ℕ} {target : ℤ} :
    (index, target) ∈ duePairs raised 0 v ↔
      ∃ m, v[index]? = some m ∧ m.Due raised ∧ m.targetAmount = target := by
  unfold duePairs
  rw [List.mem_filterMap]
  constructor
  · rintro ⟨⟨m, j⟩, hmem, hpair⟩
    rw [duePair, Option.ite_none_right_eq_some, Option.some.injEq, Prod.mk.injEq] at hpair
    obtain ⟨hdue, rfl, rfl⟩ := hpair
    exact ⟨m, List.mem_zipIdx_iff_getElem?.mp hmem, hdue, rfl⟩
  · rintro ⟨m, hm, hdue, rfl⟩
    exact ⟨(m, index), List.mem_zipIdx_iff_getElem?.mpr hm, if_pos hdue⟩

/-- The pairs are listed in ascending order of their indices. -/
theorem duePairs_ascending : (duePairs raised i v).Pairwise fun x later ↦ x.1 < later.1 := by
  have hindices : (v.zipIdx i).Pairwise fun x later ↦ x.2 < later.2 := by
    have hrange : ((v.zipIdx i).map Prod.snd).Pairwise (· < ·) := by
      rw [List.zipIdx_map_snd]
      exact List.pairwise_lt_range'
    exact List.pairwise_map.mp hrange
  refine hindices.filterMap _ fun x later hlt pair hpair pair' hpair' ↦ ?_
  rw [duePair, Option.ite_none_right_eq_some] at hpair hpair'
  obtain ⟨-, hpair⟩ := hpair
  obtain ⟨-, hpair'⟩ := hpair'
  obtain rfl := Option.some.inj hpair
  obtain rfl := Option.some.inj hpair'
  exact hlt

end Pairs

/-! ### The burst -/

/-- The storage holds a list of milestones and no others, in the vector or as entries without a
gap. -/
def HoldsMilestones (s : Storage) (v : List MilestoneData) : Prop :=
  s.milestonesVec = some v ∧ (∀ i, v.length ≤ i → s.milestoneData i = none) ∨
    s.milestonesVec = none ∧ ∀ i, s.milestoneData i = v[i]?

/-- The milestone at an index was flipped from `Locked` to `Unlocked`; it has this target. -/
def Flipped (s s' : Storage) (index : ℕ) (target : ℤ) : Prop :=
  ∃ m, s.getMilestone index = some m ∧ m.status = .locked ∧
    s'.getMilestone index = some { m with status := .unlocked } ∧ m.targetAmount = target

theorem gatherMilestones_eq {entries : ℕ → Option MilestoneData} {v : List MilestoneData}
    {fuel i : ℕ} (hfuel : v.length ≤ fuel) (h : ∀ k, entries (i + k) = v[k]?) :
    gatherMilestones entries fuel i = v := by
  induction v generalizing fuel i with
  | nil =>
    cases fuel with
    | zero => rfl
    | succ fuel =>
      have hgap : entries i = none := h 0
      rw [gatherMilestones, hgap]
  | cons m rest ih =>
    obtain ⟨fuel, rfl⟩ : ∃ less, fuel = less + 1 := ⟨fuel - 1, by simp at hfuel; omega⟩
    have hentry : entries i = some m := h 0
    have hrest : ∀ k, entries (i + 1 + k) = rest[k]? := by
      intro k
      rw [Nat.add_right_comm, Nat.add_assoc, h (k + 1), List.getElem?_cons_succ]
    rw [gatherMilestones, hentry]
    simp only [ih (by simpa using hfuel) hrest]

section Burst

variable {s : Storage} {v : List MilestoneData} {raised : ℤ}

theorem HoldsMilestones.getMilestonesVec (h : s.HoldsMilestones v) (hlength : v.length ≤ u32Max) :
    s.getMilestonesVec = v := by
  rcases h with ⟨hvec, -⟩ | ⟨hvec, hentries⟩
  · exact getMilestonesVec_of_vec hvec
  · rw [Storage.getMilestonesVec, hvec]
    refine gatherMilestones_eq ?_ fun k ↦ by rw [Nat.zero_add, hentries]
    exact hlength.trans (by decide)

theorem HoldsMilestones.getMilestone (h : s.HoldsMilestones v) (index : ℕ) :
    s.getMilestone index = v[index]? := by
  rcases h with ⟨hvec, hpast⟩ | ⟨hvec, hentries⟩
  · rw [getMilestone_of_some_vec hvec]
    split_ifs with hindex
    · rfl
    · rw [hpast index (not_lt.mp hindex), List.getElem?_eq_none (not_lt.mp hindex)]
  · rw [getMilestone_of_no_vec hvec, hentries]

variable (h : s.HoldsMilestones v) (hlength : v.length ≤ u32Max)
  (hascending : v.Pairwise fun m later ↦ m.targetAmount < later.targetAmount)
include h hlength hascending

theorem unlockMilestonesBatch_eq (raised : ℤ) :
    s.unlockMilestonesBatch raised =
      if (duePairs raised 0 v).isEmpty then (s, [])
      else (s.setMilestonesVec (v.map (MilestoneData.unlock raised)), duePairs raised 0 v) := by
  rw [unlockMilestonesBatch, h.getMilestonesVec hlength, unlockScan_eq hascending]

theorem unlockMilestonesBatch_snd (raised : ℤ) :
    (s.unlockMilestonesBatch raised).2 = duePairs raised 0 v := by
  rw [unlockMilestonesBatch_eq h hlength hascending]
  split_ifs with hempty
  · exact (List.isEmpty_iff.mp hempty).symm
  · rfl

/-- The burst leaves every milestone unlocked that is due, whether or not it writes. -/
theorem holdsMilestones_unlockMilestonesBatch (raised : ℤ) :
    (s.unlockMilestonesBatch raised).1.HoldsMilestones
      (v.map (MilestoneData.unlock raised)) := by
  rw [unlockMilestonesBatch_eq h hlength hascending]
  split_ifs with hempty
  · have hnone : ∀ m ∈ v, ¬ m.Due raised := by
      intro m hm hdue
      obtain ⟨index, hindex⟩ := List.mem_iff_getElem?.mp hm
      have hpair := mem_duePairs_iff.mpr ⟨m, hindex, hdue, rfl⟩
      rw [List.isEmpty_iff.mp hempty] at hpair
      exact List.not_mem_nil hpair
    rwa [map_unlock_of_not_due hnone]
  · refine .inl ⟨rfl, fun i hi ↦ ?_⟩
    rw [List.length_map] at hi
    rcases h with ⟨-, hpast⟩ | ⟨-, hentries⟩
    · exact hpast i hi
    · exact (hentries i).trans (List.getElem?_eq_none hi)

/-- The burst leaves what the loop leaves that visits every index. -/
theorem getMilestone_unlockMilestonesBatch (raised : ℤ) {store : KeyedStore Storage ℕ MilestoneData}
    (hstore : store.ActsAsMap) {old : Storage} (hold : ∀ i, store.read old i = v[i]?) (i : ℕ) :
    (s.unlockMilestonesBatch raised).1.getMilestone i =
      store.read (unlockLoop store v.length raised old) i := by
  rw [(holdsMilestones_unlockMilestonesBatch h hlength hascending raised).getMilestone,
    List.getElem?_map, read_unlockLoop hstore, hold]
  split_ifs with hi
  · rfl
  · rw [List.getElem?_eq_none (not_lt.mp hi), Option.map_none]

/-- The burst returns what it flipped. -/
theorem mem_unlockMilestonesBatch_iff (raised : ℤ) {index : ℕ} {target : ℤ} :
    (index, target) ∈ (s.unlockMilestonesBatch raised).2 ↔
      Flipped s (s.unlockMilestonesBatch raised).1 index target := by
  have hafter := (holdsMilestones_unlockMilestonesBatch h hlength hascending raised).getMilestone
  unfold Flipped
  rw [unlockMilestonesBatch_snd h hlength hascending, mem_duePairs_iff, hafter, h.getMilestone,
    List.getElem?_map]
  refine exists_congr fun m ↦ and_congr_right fun hm ↦ ?_
  rw [hm, Option.map_some, Option.some.injEq]
  constructor
  · rintro ⟨hdue, htarget⟩
    exact ⟨hdue.1, if_pos hdue, htarget⟩
  · rintro ⟨hlocked, hunlocked, htarget⟩
    refine ⟨?_, htarget⟩
    by_contra hdue
    rw [MilestoneData.unlock_of_not_due hdue] at hunlocked
    have hstatus := congrArg MilestoneData.status hunlocked
    exact MilestoneStatus.noConfusion (hlocked.symm.trans hstatus)

/-- A second burst finds nothing to flip. -/
theorem unlockMilestonesBatch_idempotent (raised : ℤ) :
    (s.unlockMilestonesBatch raised).1.unlockMilestonesBatch raised =
      ((s.unlockMilestonesBatch raised).1, []) := by
  have hagain : ∀ m ∈ v.map (MilestoneData.unlock raised), ¬ m.Due raised := by
    intro m hm
    obtain ⟨before, -, rfl⟩ := List.mem_map.mp hm
    exact MilestoneData.unlock_not_due raised before
  have htargets : (v.map (MilestoneData.unlock raised)).Pairwise fun m later ↦
      m.targetAmount < later.targetAmount := by
    rw [List.pairwise_map]
    simpa only [MilestoneData.unlock_targetAmount] using hascending
  rw [unlockMilestonesBatch_eq (holdsMilestones_unlockMilestonesBatch h hlength hascending raised)
    (by rwa [List.length_map]) htargets, duePairs_of_not_due hagain]
  rfl

end Burst

end Storage

/-! ### After a donation -/

/-- Every milestone whose target is raised has been unlocked, and no other was touched. -/
structure UnlockedAsRaised (s s' : Storage) : Prop where
  reached : ∀ i m, s'.getMilestone i = some m → m.targetAmount ≤ s'.raisedAmount →
    m.status ≠ .locked
  beyond : ∀ i m, s.getMilestone i = some m → s'.raisedAmount < m.targetAmount →
    s'.getMilestone i = some m

/-- A donation rewrites every milestone by the unlock at the new raised amount. -/
theorem getMilestone_of_donated {env : Env} {donor : Address} {amount : ℤ} {asset : AssetInfo}
    {w next : World} {campaign : CampaignData} {token : Address}
    (h : CampaignContract.Donated env donor amount asset w next campaign token)
    (hw : Sound w.storage) (i : ℕ) :
    next.storage.getMilestone i = (w.storage.getMilestone i).map
      (MilestoneData.unlock next.storage.raisedAmount) := by
  obtain ⟨v, hv⟩ := hw.established h.found
  have hnext := (hv.of_donated h).2
  have hraised : next.storage.raisedAmount = campaign.raisedAmount + amount :=
    hnext.raisedAmount_eq
  rw [hnext.getMilestone, hv.getMilestone, hraised, List.getElem?_map]

theorem unlockedAsRaised_of_donated {env : Env} {donor : Address} {amount : ℤ} {asset : AssetInfo}
    {w next : World} {campaign : CampaignData} {token : Address}
    (h : CampaignContract.Donated env donor amount asset w next campaign token)
    (hw : Sound w.storage) : UnlockedAsRaised w.storage next.storage where
  reached i m hm htarget hlocked := by
    rw [getMilestone_of_donated h hw] at hm
    obtain ⟨before, -, rfl⟩ := Option.map_eq_some_iff.mp hm
    exact MilestoneData.unlock_not_due _ before ⟨hlocked, htarget⟩
  beyond i m hm htarget := by
    rw [getMilestone_of_donated h hw, hm, Option.map_some,
      MilestoneData.unlock_of_not_due fun hdue ↦ absurd hdue.2 (not_le.mpr htarget)]

open Storage in
/-- On every strictly ascending list of milestones, in either layout, the burst leaves the
milestones that the loop leaves which visits every index, lists what it flipped in ascending order
and finds nothing more to flip; and every donation of a run leaves the milestones unlocked whose
targets are raised, and no others touched. -/
theorem batched_unlock {contract : Address} {overflowChecks : Bool}
    {ledger : Ledger Address Address} {wasmHash : BitVec 256}
    {history : List (Receipt Action World)} {w : World}
    (run : CampaignRun contract overflowChecks ledger wasmHash history w) :
    (∀ (s : Storage) (v : List MilestoneData) (raised : ℤ), s.HoldsMilestones v →
      v.length ≤ u32Max → (v.Pairwise fun m later ↦ m.targetAmount < later.targetAmount) →
      (∀ old : Storage, (∀ i, old.milestoneData i = v[i]?) → ∀ i,
        (s.unlockMilestonesBatch raised).1.getMilestone i =
          (oldUnlockLoop v.length raised old).milestoneData i) ∧
      (∀ i, (s.unlockMilestonesBatch raised).1.getMilestone i =
        (unlockLoop milestoneStore v.length raised s).getMilestone i) ∧
      (∀ index target, (index, target) ∈ (s.unlockMilestonesBatch raised).2 ↔
        Flipped s (s.unlockMilestonesBatch raised).1 index target) ∧
      ((s.unlockMilestonesBatch raised).2.Pairwise fun x later ↦ x.1 < later.1) ∧
      (s.unlockMilestonesBatch raised).1.unlockMilestonesBatch raised =
        ((s.unlockMilestonesBatch raised).1, [])) ∧
    ∀ r ∈ history, ∀ inv donor amount asset, r.label = .invoke inv →
      inv.call = .donate donor amount asset →
      UnlockedAsRaised r.before.storage r.after.storage := by
  refine ⟨fun s v raised h hlength hascending ↦ ⟨fun old hold ↦ ?_, ?_, fun index target ↦ ?_, ?_,
    unlockMilestonesBatch_idempotent h hlength hascending raised⟩, ?_⟩
  · exact getMilestone_unlockMilestonesBatch h hlength hascending raised
      entryStore_actsAsMap hold
  · exact getMilestone_unlockMilestonesBatch h hlength hascending raised
      milestoneStore_actsAsMap h.getMilestone
  · exact mem_unlockMilestonesBatch_iff h hlength hascending raised
  · rw [unlockMilestonesBatch_snd h hlength hascending]
    exact duePairs_ascending
  · rintro ⟨action, before, after⟩ hr inv donor amount asset hlabel hcall
    obtain ⟨hstep, earlier, hearlier⟩ := CampaignRun.step_of_mem run hr
    obtain rfl : action = .invoke inv := hlabel
    obtain ⟨campaign, token, hdonated⟩ := hstep.of_donate hcall
    exact unlockedAsRaised_of_donated hdonated (CampaignRun.sound hearlier)

/-- A donation of the whole goal, after which a second burst finds nothing to flip. -/
theorem batched_unlock_splitRelease :
    UnlockedAsRaised (Sample.reached (Sample.splitRelease.take 1)).storage
      (Sample.reached (Sample.splitRelease.take 2)).storage ∧
    ((Sample.reached (Sample.splitRelease.take 1)).storage.unlockMilestonesBatch
        1000).1.unlockMilestonesBatch 1000 =
      (((Sample.reached (Sample.splitRelease.take 1)).storage.unlockMilestonesBatch 1000).1,
        []) := by
  obtain ⟨hburst, hdonations⟩ := batched_unlock (Sample.run (Sample.splitRelease.take 2))
  constructor
  · exact hdonations ⟨Sample.giving Sample.donor 1000 Sample.token,
      Sample.reached (Sample.splitRelease.take 1), Sample.reached (Sample.splitRelease.take 2)⟩
      List.mem_cons_self _ _ _ _ rfl rfl
  · have hholds : (Sample.reached (Sample.splitRelease.take 1)).storage.HoldsMilestones
        [Sample.milestone 500, Sample.milestone 1000] := .inl ⟨rfl, fun _ _ ↦ rfl⟩
    exact (hburst _ _ 1000 hholds (by decide) (by decide)).2.2.2.2

end OrbitChain.Campaign
