import OrbitChain.Campaign.Storage

/-!
# Unlocking milestones

A milestone is due when it is locked and its target is raised, and unlocking it changes its status
and nothing else. The scan of the unlock burst stops at the first target above the raised amount.
On ascending targets it misses nothing: it unlocks every milestone of the list that is due and
lists those milestones in order (`unlockScan_eq`).
-/

set_option autoImplicit false
set_option relaxedAutoImplicit false

namespace OrbitChain.Campaign

/-! ### One milestone -/

/-- A locked milestone whose target is reached, which an unlock flips. -/
def MilestoneData.Due (raised : ℤ) (m : MilestoneData) : Prop :=
  m.status = .locked ∧ m.targetAmount ≤ raised

instance (raised : ℤ) (m : MilestoneData) : Decidable (m.Due raised) :=
  inferInstanceAs (Decidable (_ ∧ _))

/-- The milestone after an unlock. -/
def MilestoneData.unlock (raised : ℤ) (m : MilestoneData) : MilestoneData :=
  if m.Due raised then { m with status := .unlocked } else m

namespace MilestoneData

theorem unlock_of_not_due {raised : ℤ} {m : MilestoneData} (h : ¬ m.Due raised) :
    m.unlock raised = m :=
  if_neg h

/-- An unlock keeps whatever flipping a locked milestone keeps. -/
theorem apply_unlock {β : Type*} (f : MilestoneData → β)
    (hf : ∀ m, m.status = .locked → f { m with status := .unlocked } = f m) (raised : ℤ)
    (m : MilestoneData) : f (m.unlock raised) = f m := by
  unfold unlock
  split_ifs with hdue
  · exact hf m hdue.1
  · rfl

@[simp] theorem unlock_targetAmount (raised : ℤ) (m : MilestoneData) :
    (m.unlock raised).targetAmount = m.targetAmount :=
  apply_unlock targetAmount (fun _ _ ↦ rfl) raised m

theorem unlock_not_due (raised : ℤ) (m : MilestoneData) : ¬ (m.unlock raised).Due raised := by
  unfold unlock
  split_ifs with hdue
  · exact fun h ↦ MilestoneStatus.noConfusion h.1
  · exact hdue

/-- Unlocking at two raised amounts unlocks as at the larger one. -/
theorem unlock_unlock (m : MilestoneData) {raised raised' : ℤ} (h : raised ≤ raised') :
    (m.unlock raised).unlock raised' = m.unlock raised' := by
  by_cases hdue : m.Due raised
  · have hunlocked : ¬ (m.unlock raised).Due raised' := by
      rw [unlock, if_pos hdue]
      exact fun hagain ↦ MilestoneStatus.noConfusion hagain.1
    rw [unlock_of_not_due hunlocked, unlock, unlock, if_pos hdue,
      if_pos ⟨hdue.1, hdue.2.trans h⟩]
  · rw [unlock_of_not_due hdue]

/-- A locked milestone that an unlock flips has a target that was raised. -/
theorem raised_of_unlock {raised : ℤ} {m : MilestoneData} (hlocked : m.status = .locked)
    (hunlocked : (m.unlock raised).status ≠ .locked) :
    m.targetAmount ≤ raised ∧ (m.unlock raised).status = .unlocked := by
  unfold unlock at hunlocked ⊢
  split_ifs at hunlocked ⊢ with hdue
  · exact ⟨hdue.2, rfl⟩
  · exact absurd hlocked hunlocked

end MilestoneData

/-! ### The scan -/

section Scan

variable {v : List MilestoneData} {raised : ℤ} {i : ℕ}

/-- Unlocking milestones keeps whatever flipping one of them keeps. -/
theorem map_map_unlock {β : Type*} (f : MilestoneData → β)
    (hf : ∀ m, m.status = .locked → f { m with status := .unlocked } = f m) (raised : ℤ)
    (v : List MilestoneData) : (v.map (MilestoneData.unlock raised)).map f = v.map f := by
  rw [List.map_map]
  exact List.map_congr_left fun m _ ↦ MilestoneData.apply_unlock f hf raised m

theorem map_unlock_of_not_due (h : ∀ m ∈ v, ¬ m.Due raised) :
    v.map (MilestoneData.unlock raised) = v := by
  conv_rhs => rw [← List.map_id v]
  exact List.map_congr_left fun m hm ↦ MilestoneData.unlock_of_not_due (h m hm)

namespace Storage

/-- The index and the target of a milestone that is due. -/
def duePair (raised : ℤ) (x : MilestoneData × ℕ) : Option (ℕ × ℤ) :=
  if x.1.Due raised then some (x.2, x.1.targetAmount) else none

/-- The indices and targets of the milestones that are due, counted from an index on. -/
def duePairs (raised : ℤ) (i : ℕ) (v : List MilestoneData) : List (ℕ × ℤ) :=
  (v.zipIdx i).filterMap (duePair raised)

theorem duePairs_cons (m : MilestoneData) (rest : List MilestoneData) :
    duePairs raised i (m :: rest) =
      if m.Due raised then (i, m.targetAmount) :: duePairs raised (i + 1) rest
      else duePairs raised (i + 1) rest := by
  unfold duePairs
  rw [List.zipIdx_cons]
  by_cases hdue : m.Due raised
  · have hpair : duePair raised (m, i) = some (i, m.targetAmount) := if_pos hdue
    rw [List.filterMap_cons_some hpair, if_pos hdue]
  · have hpair : duePair raised (m, i) = none := if_neg hdue
    rw [List.filterMap_cons_none hpair, if_neg hdue]

theorem duePairs_of_not_due (h : ∀ m ∈ v, ¬ m.Due raised) : duePairs raised i v = [] := by
  induction v generalizing i with
  | nil => rfl
  | cons m rest ih =>
    rw [duePairs_cons, if_neg (h m List.mem_cons_self)]
    exact ih fun later hlater ↦ h later (List.mem_cons_of_mem m hlater)

/-- On ascending targets, stopping at the first target that is not reached misses nothing. -/
theorem unlockScan_eq (h : v.Pairwise fun m later ↦ m.targetAmount < later.targetAmount) :
    unlockScan raised i v = (v.map (MilestoneData.unlock raised), duePairs raised i v) := by
  induction v generalizing i with
  | nil => rfl
  | cons m rest ih =>
    obtain ⟨hfirst, hrest⟩ := List.pairwise_cons.mp h
    unfold unlockScan
    split_ifs with htarget hlocked
    · have hbeyond : ∀ later ∈ m :: rest, ¬ later.Due raised := by
        intro later hlater hdue
        rcases List.mem_cons.mp hlater with rfl | hlater
        · exact absurd hdue.2 (not_le.mpr htarget)
        · exact absurd hdue.2 (not_le.mpr (htarget.trans (hfirst later hlater)))
      rw [map_unlock_of_not_due hbeyond, duePairs_of_not_due hbeyond]
    · have hdue : m.Due raised := ⟨hlocked, not_lt.mp htarget⟩
      rw [ih hrest, List.map_cons, MilestoneData.unlock, if_pos hdue, duePairs_cons, if_pos hdue]
    · have hdue : ¬ m.Due raised := fun hdue ↦ hlocked hdue.1
      rw [ih hrest, List.map_cons, MilestoneData.unlock_of_not_due hdue, duePairs_cons,
        if_neg hdue]

end Storage

end Scan

end OrbitChain.Campaign
