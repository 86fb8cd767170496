import OrbitChain.Core.Steps

/-!
# Identity of campaigns and of the admin

Campaigns are told apart by the counter and withdrawals are approved by the stored admin, and
`initialize` writes both without asking whether they are there already. As long as it finds no
campaign counted and no admin who did not sign, and the counter does not wrap, the identifiers
handed out are 1, 2, 3 and so on, each of them free.
-/

set_option autoImplicit false
set_option relaxedAutoImplicit false

namespace OrbitChain.Core

open Foundations OrbitChainContract
open OrbitChain.Campaign (Address)

/-- The identifier that a receipt's invocation returned, if it created a campaign. -/
def createdId (overflowChecks : Bool) (r : Receipt Invocation World) : Option ℕ :=
  match reply overflowChecks r with
  | some (.campaign id) => some id
  | _ => none

/-- The identifiers handed out in a history, newest first. -/
def createdIds (overflowChecks : Bool) (history : List (Receipt Invocation World)) : List ℕ :=
  history.filterMap (createdId overflowChecks)

/-- A step hands out a new identifier for a free slot, counts the campaigns and leaves the admin to
those who can sign for him. -/
structure KeepsIdentity (overflowChecks : Bool) (earlier : List (Receipt Invocation World))
    (r : Receipt Invocation World) : Prop where
  fresh : ∀ id, createdId overflowChecks r = some id → id ∉ createdIds overflowChecks earlier
  free : ∀ id, createdId overflowChecks r = some id → r.before.storage.getCampaign id = none
  counted : r.after.storage.getCampaignCount = (createdIds overflowChecks (r :: earlier)).length
  admin : ∀ admin, r.before.storage.admin = some admin → admin ∉ r.label.authorisers →
    r.after.storage.admin = some admin

/-- A call that initializes finds no campaign counted and no admin who did not sign; a call that
creates a campaign finds room in the counter. -/
def RespectsIdentity (r : Receipt Invocation World) : Prop :=
  match r.label.call with
  | .initializeContract _ =>
    r.before.storage.getCampaignCount = 0 ∧
      ∀ admin, r.before.storage.admin = some admin → admin ∈ r.label.authorisers
  | .createCampaign _ _ _ _ => r.before.storage.getCampaignCount + 1 ≤ u64Max
  | _ => True

variable {overflowChecks : Bool} {earlier history : List (Receipt Invocation World)}
  {r : Receipt Invocation World} {inv : Invocation} {w next : World}

theorem createdIds_cons_of_none (h : createdId overflowChecks r = none) :
    createdIds overflowChecks (r :: earlier) = createdIds overflowChecks earlier :=
  List.filterMap_cons_none h

theorem createdIds_cons_of_some {id : ℕ} (h : createdId overflowChecks r = some id) :
    createdIds overflowChecks (r :: earlier) = id :: createdIds overflowChecks earlier :=
  List.filterMap_cons_some h

/-- Where identity was kept throughout, no identifier was handed out twice. -/
theorem createdIds_nodup (h : Throughout (KeepsIdentity overflowChecks) history) :
    (createdIds overflowChecks history).Nodup := by
  induction history with
  | nil => exact .nil
  | cons r earlier ih =>
    obtain ⟨hkept, hearlier⟩ := h
    cases hid : createdId overflowChecks r with
    | none =>
      rw [createdIds_cons_of_none hid]
      exact ih hearlier
    | some id =>
      rw [createdIds_cons_of_some hid]
      exact List.nodup_cons.mpr ⟨hkept.fresh id hid, ih hearlier⟩

/-- Campaigns were numbered consecutively from 1, the counter stands at the last number and nothing
is stored under another. -/
structure Numbered (ids : List ℕ) (s : Storage) : Prop where
  ids : ids = (List.range' 1 s.getCampaignCount).reverse
  stored : ∀ id campaign, s.getCampaign id = some campaign → 1 ≤ id ∧ id ≤ s.getCampaignCount

namespace Numbered

variable {ids : List ℕ} {s s' : Storage}

theorem length_eq (h : Numbered ids s) : ids.length = s.getCampaignCount := by
  rw [h.ids, List.length_reverse, List.length_range']

theorem next_notMem (h : Numbered ids s) : s.getCampaignCount + 1 ∉ ids := by
  rw [h.ids, List.mem_reverse, List.mem_range'_1]
  omega

theorem next_free (h : Numbered ids s) : s.getCampaign (s.getCampaignCount + 1) = none := by
  cases hnext : s.getCampaign (s.getCampaignCount + 1) with
  | none => rfl
  | some campaign => exact absurd (h.stored _ campaign hnext).2 (Nat.not_succ_le_self _)

/-- The next campaign takes the next number. -/
theorem create (h : Numbered ids s) (hcount : s'.getCampaignCount = s.getCampaignCount + 1)
    (hstored : ∀ id, id ≠ s.getCampaignCount + 1 → s'.getCampaign id = s.getCampaign id) :
    Numbered ((s.getCampaignCount + 1) :: ids) s' := by
  refine ⟨?_, fun id campaign hid ↦ ?_⟩
  · rw [hcount, List.range'_concat, List.reverse_append, h.ids, Nat.one_mul, Nat.add_comm 1]
    rfl
  · rw [hcount]
    by_cases hnext : id = s.getCampaignCount + 1
    · omega
    · rw [hstored id hnext] at hid
      exact ⟨(h.stored id campaign hid).1, (h.stored id campaign hid).2.trans (Nat.le_succ _)⟩

/-- A change of stored campaigns that stores none in a free slot changes no number. -/
theorem congr (h : Numbered ids s) (hcount : s'.getCampaignCount = s.getCampaignCount)
    (hstored : ∀ id, s.getCampaign id = none → s'.getCampaign id = none) : Numbered ids s' := by
  refine ⟨by rw [hcount, h.ids], fun id campaign' hid ↦ ?_⟩
  rw [hcount]
  cases hbefore : s.getCampaign id with
  | none => exact absurd (hid.symm.trans (hstored id hbefore)) (by simp)
  | some campaign => exact h.stored id campaign hbefore

end Numbered

/-- A plain counter that does not reach its bound counts. -/
theorem uncheckedU64_eq_iff {count n : ℕ}
    (h : uncheckedU64 overflowChecks Failure.trap n = .ok count) : count = n ↔ n ≤ u64Max := by
  unfold uncheckedU64 at h
  split_ifs at h with hrange
  · cases h
    exact iff_of_true rfl hrange
  · cases h
    refine iff_of_false (fun heq ↦ hrange ?_) hrange
    have hlt := Nat.mod_lt n (y := 2 ^ 64) (by decide)
    unfold u64Max
    omega

/-- The step of an invocation that creates no campaign hands out no identifier. -/
theorem createdId_of_step {replied : Reply}
    (hreply : reply overflowChecks ⟨inv, w, next⟩ = some replied)
    (h : ∀ id, replied ≠ .campaign id) : createdId overflowChecks ⟨inv, w, next⟩ = none := by
  unfold createdId
  rw [hreply]
  cases replied with
  | campaign id => exact absurd rfl (h id)
  | _ => rfl

theorem createdId_of_created {id : ℕ}
    (hreply : reply overflowChecks ⟨inv, w, next⟩ = some (.campaign id)) :
    createdId overflowChecks ⟨inv, w, next⟩ = some id := by
  unfold createdId
  rw [hreply]

/-- A stored campaign that is stored again does not take a free slot. -/
theorem update_eq_none {campaigns : ℕ → Option Campaign} {campaignId : ℕ}
    {campaign campaign' : Campaign} (found : campaigns campaignId = some campaign) {id : ℕ}
    (h : campaigns id = none) :
    Function.update campaigns campaignId (some campaign') id = none := by
  have hne : id ≠ campaignId := by
    rintro rfl
    exact absurd (h.symm.trans found) (by simp)
  rw [Function.update_of_ne hne, h]

/-- A step that respects identity keeps the numbering. -/
theorem numbered_step (h : Numbered (createdIds overflowChecks history) w.storage)
    (hexec : (chain overflowChecks).exec inv w = .ok next)
    (hrespects : RespectsIdentity ⟨inv, w, next⟩) :
    Numbered (createdIds overflowChecks (⟨inv, w, next⟩ :: history)) next.storage := by
  obtain ⟨replied, hreply, hstep⟩ := step_of_exec hexec
  unfold RespectsIdentity at hrespects
  cases hstep with
  | initialized hcall =>
    rw [hcall] at hrespects
    rw [createdIds_cons_of_none (createdId_of_step hreply (by simp))]
    exact h.congr hrespects.1.symm fun id hid ↦ hid
  | @created _ _ _ _ count hcall _ hcount =>
    rw [hcall] at hrespects
    have hid := createdId_of_created hreply
    obtain rfl := (uncheckedU64_eq_iff hcount).mpr hrespects
    rw [createdIds_cons_of_some hid]
    exact h.create rfl fun id hid ↦ Function.update_of_ne hid _ _
  | donated _ _ _ _ found | approved _ _ _ _ _ found =>
    rw [createdIds_cons_of_none (createdId_of_step hreply (by simp))]
    exact h.congr rfl fun id hid ↦ update_eq_none found hid
  | requested | submitted =>
    rw [createdIds_cons_of_none (createdId_of_step hreply (by simp))]
    exact h.congr rfl fun id hid ↦ hid

/-- Runs whose steps all respect identity number their campaigns consecutively. -/
theorem numbered_of_run (run : CoreRun overflowChecks history w)
    (hrespects : Throughout (fun _ r ↦ RespectsIdentity r) history) :
    Numbered (createdIds overflowChecks history) w.storage := by
  induction run with
  | start => exact ⟨rfl, fun _ _ h ↦ absurd h (by simp [World.deployed, Storage.empty,
    Storage.getCampaign])⟩
  | accept _ hexec ih => exact numbered_step (ih hrespects.2) hexec hrespects.1
  | reject _ _ ih => exact ih hrespects

/-! ### When identity is kept -/

/-- Steps that create nothing and leave the counter and the admin alone keep identity. -/
theorem keepsIdentity_of_unchanged (h : Numbered (createdIds overflowChecks history) w.storage)
    (hid : createdId overflowChecks ⟨inv, w, next⟩ = none)
    (hcount : next.storage.count = w.storage.count)
    (hadmin : next.storage.admin = w.storage.admin) :
    KeepsIdentity overflowChecks history ⟨inv, w, next⟩ where
  fresh id h := by simp [hid] at h
  free id h := by simp [hid] at h
  counted := by
    rw [createdIds_cons_of_none hid, h.length_eq, Storage.getCampaignCount, hcount]
    rfl
  admin admin found _ := hadmin.trans found

/-- On a numbered storage a step keeps identity exactly when it respects it. -/
theorem keepsIdentity_iff (h : Numbered (createdIds overflowChecks history) w.storage)
    (hexec : (chain overflowChecks).exec inv w = .ok next) :
    KeepsIdentity overflowChecks history ⟨inv, w, next⟩ ↔ RespectsIdentity ⟨inv, w, next⟩ := by
  obtain ⟨replied, hreply, hstep⟩ := step_of_exec hexec
  unfold RespectsIdentity
  cases hstep with
  | @initialized admin hcall signed =>
    have hid := createdId_of_step hreply (by simp)
    rw [hcall]
    constructor
    · intro hkept
      have hcounted := hkept.counted
      rw [createdIds_cons_of_none hid, h.length_eq] at hcounted
      refine ⟨hcounted.symm, fun admin' found ↦ ?_⟩
      by_contra hunsigned
      cases hkept.admin admin' found hunsigned
      exact hunsigned signed
    · rintro ⟨hcount, hadmin⟩
      refine ⟨by simp [hid], by simp [hid], ?_, fun admin' found hunsigned ↦ ?_⟩
      · rw [createdIds_cons_of_none hid, h.length_eq]
        exact hcount.symm
      · exact absurd (hadmin admin' found) hunsigned
  | @created _ _ _ _ count hcall _ hcount =>
    have hid := createdId_of_created hreply
    rw [hcall]
    refine Iff.trans ?_ (uncheckedU64_eq_iff hcount)
    constructor
    · intro hkept
      have hcounted := hkept.counted
      rwa [createdIds_cons_of_some hid, List.length_cons, h.length_eq] at hcounted
    · intro heq
      refine ⟨?_, ?_, ?_, fun _ found _ ↦ found⟩
      · rintro id hid'
        obtain rfl : count = id := Option.some.inj (hid.symm.trans hid')
        rw [heq]
        exact h.next_notMem
      · rintro id hid'
        obtain rfl : count = id := Option.some.inj (hid.symm.trans hid')
        rw [heq]
        exact h.next_free
      · rw [createdIds_cons_of_some hid, List.length_cons, h.length_eq]
        exact heq
  | donated hcall | requested hcall | approved hcall | submitted hcall =>
    rw [hcall]
    exact iff_of_true (keepsIdentity_of_unchanged h (createdId_of_step hreply (by simp)) rfl rfl)
      trivial

/-- A run, given by its calls in order, keeps the identity of its campaigns and of its admin exactly
when every call that initializes finds nothing counted and no admin who did not sign, and every
call that creates a campaign finds room in the counter. -/
theorem identity_iff (overflowChecks : Bool) (calls : List Invocation) :
    Throughout (KeepsIdentity overflowChecks)
        ((chain overflowChecks).replay calls .deployed).1 ↔
      Throughout (fun _ r ↦ RespectsIdentity r)
        ((chain overflowChecks).replay calls .deployed).1 := by
  refine ((chain overflowChecks).run_replay calls .deployed).throughout_iff ?_
  intro history w inv next run _ hrespects hexec
  exact keepsIdentity_iff (numbered_of_run run hrespects) hexec

/-! ### A second initialization -/

namespace Sample

def alice : Address := .account 1

def mallory : Address := .account 2

/-- Alice initializes the contract and creates a campaign; Mallory initializes it again and creates
another. -/
def takeover : List Invocation :=
  [⟨0, [alice], .initializeContract alice⟩,
    ⟨0, [alice], .createCampaign alice "wells" 1000 10⟩,
    ⟨0, [mallory], .initializeContract mallory⟩,
    ⟨0, [mallory], .createCampaign mallory "yachts" 1000 10⟩]

end Sample

/-- The campaign created after the second initialization takes the identifier of the first. -/
theorem identity_lost :
    ¬ ∀ (overflowChecks : Bool) (calls : List Invocation), Throughout (KeepsIdentity overflowChecks)
      ((chain overflowChecks).replay calls .deployed).1 := by
  intro h
  have hids : createdIds true ((chain true).replay Sample.takeover .deployed).1 = [1, 1] := by
    decide +kernel
  have hnodup := createdIds_nodup (h true Sample.takeover)
  rw [hids] at hnodup
  exact absurd hnodup (by decide)

end OrbitChain.Core
