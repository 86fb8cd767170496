import OrbitChain.Campaign.Storage
import OrbitChain.Foundations.KeyedWrites

/-!
# The milestone layouts as one map

A milestone is read from the vector when its index is inside it and from its own entry otherwise.
Without a vector, the entries up to the first gap are gathered into one, but what is read is the
entry of the index all the same (`getMilestone_of_no_vec`). A write that moves the set to the
vector, or appends to it, moves the boundary between the two places; it leaves every other index
reading what it read (`getMilestone_setMilestone`).
-/

set_option autoImplicit false
set_option relaxedAutoImplicit false

namespace OrbitChain.Campaign

open Foundations

namespace Storage

/-! ### The gathered prefix -/

section Gather

variable {entries : ℕ → Option MilestoneData} {fuel i : ℕ}

/-- What is gathered at an offset is the entry there. -/
theorem getElem?_gatherMilestones {k : ℕ} (hk : k < (gatherMilestones entries fuel i).length) :
    (gatherMilestones entries fuel i)[k]? = entries (i + k) := by
  induction fuel generalizing i k with
  | zero => simp [gatherMilestones] at hk
  | succ fuel ih =>
    unfold gatherMilestones at hk ⊢
    cases hentry : entries i with
    | none => simp [hentry] at hk
    | some m =>
      rw [hentry] at hk
      cases k with
      | zero => simp [hentry]
      | succ k =>
        have hrest : k < (gatherMilestones entries fuel (i + 1)).length := by simpa using hk
        rw [List.getElem?_cons_succ, ih hrest, Nat.add_right_comm, Nat.add_assoc]

/-- An entry beyond the gathered ones does not change what is gathered: the gap before it stops
the walk. -/
theorem gatherMilestones_update {index : ℕ} {data : Option MilestoneData}
    (hindex : i + (gatherMilestones entries fuel i).length < index) :
    gatherMilestones (Function.update entries index data) fuel i =
      gatherMilestones entries fuel i := by
  induction fuel generalizing i with
  | zero => rfl
  | succ fuel ih =>
    have hne : i ≠ index := by omega
    unfold gatherMilestones at hindex ⊢
    rw [Function.update_of_ne hne]
    cases hentry : entries i with
    | none => rfl
    | some m =>
      rw [hentry, List.length_cons] at hindex
      have hrest : i + 1 + (gatherMilestones entries fuel (i + 1)).length < index := by omega
      simp only [ih hrest]

end Gather

/-! ### What is read from each layout -/

section Reads

variable {s : Storage}

/-- In the per-index layout a milestone is read from its entry, gathered or not. -/
theorem getMilestone_of_no_vec (hvec : s.milestonesVec = none) (index : ℕ) :
    s.getMilestone index = s.milestoneData index := by
  unfold getMilestone getMilestonesVec
  rw [hvec]
  dsimp only
  split_ifs with hindex
  · rw [getElem?_gatherMilestones hindex, Nat.zero_add]
  · rfl

/-- With a vector a milestone is read from the vector inside it and from its entry past it. -/
theorem getMilestone_of_some_vec {v : List MilestoneData} (hvec : s.milestonesVec = some v)
    (index : ℕ) :
    s.getMilestone index = if index < v.length then v[index]? else s.milestoneData index := by
  rw [getMilestone, getMilestonesVec_of_vec hvec]

/-- The vector that reads see holds what is read inside it. -/
theorem getElem?_getMilestonesVec {index : ℕ} (hindex : index < s.getMilestonesVec.length) :
    s.getMilestonesVec[index]? = s.getMilestone index := by
  rw [getMilestone, if_pos hindex]

/-- Past the vector that reads see, a milestone is read from its entry. -/
theorem getMilestone_of_length_le {index : ℕ} (hindex : s.getMilestonesVec.length ≤ index) :
    s.getMilestone index = s.milestoneData index := by
  rw [getMilestone, if_neg hindex.not_gt]

end Reads

/-! ### What a write does to reads -/

section Writes

variable (s : Storage) (index : ℕ) (data : MilestoneData)

/-- A write inside the vector, which may just have been gathered. -/
theorem getMilestone_setMilestone_of_lt (hindex : index < s.getMilestonesVec.length) :
    (s.setMilestone index data).getMilestone =
      Function.update s.getMilestone index (some data) := by
  have hset : s.setMilestone index data = s.setMilestonesVec (s.getMilestonesVec.set index data) :=
    if_pos hindex
  funext j
  rw [hset, getMilestone_of_some_vec rfl, List.length_set]
  by_cases hj : j < s.getMilestonesVec.length
  · rw [if_pos hj]
    by_cases hsame : j = index
    · rw [hsame, Function.update_self, List.getElem?_set_self hindex]
    · rw [Function.update_of_ne hsame, List.getElem?_set_ne (Ne.symm hsame),
        getElem?_getMilestonesVec hj]
  · have hsame : j ≠ index := by omega
    rw [if_neg hj, Function.update_of_ne hsame, getMilestone_of_length_le (not_lt.mp hj)]
    rfl

/-- A write just past the vector is appended, and hides the entry of its index. -/
theorem getMilestone_setMilestone_of_eq (hindex : index = s.getMilestonesVec.length) :
    (s.setMilestone index data).getMilestone =
      Function.update s.getMilestone index (some data) := by
  have hset : s.setMilestone index data = s.setMilestonesVec (s.getMilestonesVec ++ [data]) := by
    rw [setMilestone, if_neg hindex.not_lt, if_pos hindex]
  funext j
  rw [hset, getMilestone_of_some_vec rfl, List.length_append, List.length_singleton]
  rcases lt_trichotomy j index with hj | hj | hj
  · have hinside : j < s.getMilestonesVec.length := by omega
    rw [if_pos (by omega), Function.update_of_ne hj.ne, List.getElem?_append_left hinside,
      getElem?_getMilestonesVec hinside]
  · rw [if_pos (by omega), hj, Function.update_self, hindex]
    simp
  · rw [if_neg (by omega), Function.update_of_ne hj.ne', getMilestone_of_length_le (by omega)]
    rfl

/-- A write past a gap goes to its own entry, and the vector that reads see stays. -/
theorem getMilestone_setMilestone_of_gt (hindex : s.getMilestonesVec.length < index) :
    (s.setMilestone index data).getMilestone =
      Function.update s.getMilestone index (some data) := by
  have hset : s.setMilestone index data =
      { s with milestoneData := Function.update s.milestoneData index (some data) } := by
    rw [setMilestone, if_neg hindex.not_gt, if_neg hindex.ne']
  have hvec : (s.setMilestone index data).getMilestonesVec = s.getMilestonesVec := by
    rw [hset]
    unfold getMilestonesVec at hindex ⊢
    cases hlayout : s.milestonesVec with
    | some v => rfl
    | none =>
      rw [hlayout] at hindex
      exact gatherMilestones_update (by simpa using hindex)
  have hentries : (s.setMilestone index data).milestoneData =
      Function.update s.milestoneData index (some data) := by rw [hset]
  funext j
  by_cases hj : j < s.getMilestonesVec.length
  · have hsame : j ≠ index := by omega
    rw [Function.update_of_ne hsame, ← getElem?_getMilestonesVec hj, ← hvec]
    exact (getElem?_getMilestonesVec (by rwa [hvec])).symm
  · rw [getMilestone_of_length_le (by rwa [hvec, ← not_lt]), hentries]
    by_cases hsame : j = index
    · rw [hsame, Function.update_self, Function.update_self]
    · rw [Function.update_of_ne hsame, Function.update_of_ne hsame,
        getMilestone_of_length_le (not_lt.mp hj)]

/-- Reading after a write is reading the map the write updates. -/
theorem getMilestone_setMilestone :
    (s.setMilestone index data).getMilestone =
      Function.update s.getMilestone index (some data) := by
  rcases lt_trichotomy index s.getMilestonesVec.length with hindex | hindex | hindex
  · exact getMilestone_setMilestone_of_lt s index data hindex
  · exact getMilestone_setMilestone_of_eq s index data hindex
  · exact getMilestone_setMilestone_of_gt s index data hindex

end Writes

/-- The milestone accessors as a keyed store. -/
def milestoneStore : KeyedStore Storage ℕ MilestoneData where
  read := getMilestone
  write := setMilestone

theorem milestoneStore_actsAsMap : milestoneStore.ActsAsMap := getMilestone_setMilestone

/-- On every storage, whatever layouts it mixes, a written milestone is read back and every other
index reads what it read before; so sequences of writes act as they do on a plain map. -/
theorem milestones_act_as_map (s : Storage) :
    (∀ index data, (s.setMilestone index data).getMilestone index = some data ∧
      ∀ other, other ≠ index →
        (s.setMilestone index data).getMilestone other = s.getMilestone other) ∧
    ∀ writes, (milestoneStore.writeAll s writes).getMilestone =
      updateAll s.getMilestone writes := by
  refine ⟨fun index data ↦ ⟨?_, fun other hother ↦ ?_⟩, fun writes ↦ ?_⟩
  · rw [getMilestone_setMilestone, Function.update_self]
  · rw [getMilestone_setMilestone, Function.update_of_ne hother]
  · exact KeyedStore.read_writeAll milestoneStore_actsAsMap s writes

end Storage

end OrbitChain.Campaign
