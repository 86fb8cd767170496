import Mathlib.Algebra.BigOperators.Ring.Finset
import Mathlib.Algebra.Order.BigOperators.Group.Finset
import Mathlib.Algebra.Order.Ring.Int
import Mathlib.Data.Fintype.BigOperators
import Mathlib.Tactic.Abel
import Mathlib.Tactic.Linarith

/-!
# Books of a pooled pledge fund

The purpose of the bookkeeping of a pooled fund, stated once: who pledged how much of which
token, and how much of each token has been paid out of the pool. Everything else is derived.
`donated` totals a donor, `collected` totals a token, `held` is what is left of a token,
`raised` is the grand total ever pledged and `totalHeld` the grand total left.

A `PledgeBook` carries its well-formedness: no entry is negative and no token is paid out beyond
what was collected of it. `pledge` and `payOut` are the only ways a book moves, and each has one
lemma per derived total saying how that total moves. An implementation that stores several of
these totals side by side is correct when its stored values are the totals of one book.
-/

set_option autoImplicit false
set_option relaxedAutoImplicit false

namespace OrbitChain.Foundations

/-- Pledges by donor and token, and payments by token. -/
structure PledgeBook (Donor Token : Type*) [Fintype Donor] where
  pledged : Donor → Token → ℤ
  paidOut : Token → ℤ
  pledged_nonneg : ∀ d t, 0 ≤ pledged d t
  paidOut_nonneg : ∀ t, 0 ≤ paidOut t
  paidOut_le : ∀ t, paidOut t ≤ ∑ d, pledged d t

namespace PledgeBook

variable {Donor Token : Type*} [Fintype Donor] [Fintype Token]

/-- Everything a donor pledged, over all tokens. -/
def donated (book : PledgeBook Donor Token) (d : Donor) : ℤ := ∑ t, book.pledged d t

omit [Fintype Token] in
/-- Everything pledged of a token, over all donors. -/
def collected (book : PledgeBook Donor Token) (t : Token) : ℤ := ∑ d, book.pledged d t

omit [Fintype Token] in
/-- What is left of a token. -/
def held (book : PledgeBook Donor Token) (t : Token) : ℤ := book.collected t - book.paidOut t

/-- Everything ever pledged. -/
def raised (book : PledgeBook Donor Token) : ℤ := ∑ d, book.donated d

/-- Everything left. -/
def totalHeld (book : PledgeBook Donor Token) : ℤ := ∑ t, book.held t

/-! ### Relations between the totals of one book -/

theorem raised_eq_sum_collected (book : PledgeBook Donor Token) :
    book.raised = ∑ t, book.collected t :=
  Finset.sum_comm

/-- What was raised is what is left and what was paid out. -/
theorem raised_eq_totalHeld_add (book : PledgeBook Donor Token) :
    book.raised = book.totalHeld + ∑ t, book.paidOut t := by
  rw [raised_eq_sum_collected, totalHeld, ← Finset.sum_add_distrib]
  exact Finset.sum_congr rfl fun t _ ↦ (sub_add_cancel _ _).symm

omit [Fintype Token] in
theorem collected_nonneg (book : PledgeBook Donor Token) (t : Token) : 0 ≤ book.collected t :=
  Finset.sum_nonneg fun d _ ↦ book.pledged_nonneg d t

omit [Fintype Token] in
theorem held_nonneg (book : PledgeBook Donor Token) (t : Token) : 0 ≤ book.held t :=
  sub_nonneg.mpr (book.paidOut_le t)

omit [Fintype Token] in
theorem held_le_collected (book : PledgeBook Donor Token) (t : Token) :
    book.held t ≤ book.collected t :=
  sub_le_self _ (book.paidOut_nonneg t)

theorem totalHeld_nonneg (book : PledgeBook Donor Token) : 0 ≤ book.totalHeld :=
  Finset.sum_nonneg fun t _ ↦ book.held_nonneg t

theorem totalHeld_le_raised (book : PledgeBook Donor Token) : book.totalHeld ≤ book.raised := by
  rw [raised_eq_totalHeld_add]
  exact le_add_of_nonneg_right (Finset.sum_nonneg fun t _ ↦ book.paidOut_nonneg t)

/-- What was paid out of a token is part of what was paid out. -/
theorem collected_sub_held_le (book : PledgeBook Donor Token) (t : Token) :
    book.collected t - book.held t ≤ book.raised - book.totalHeld := by
  have hpart := Finset.single_le_sum (fun t _ ↦ book.paidOut_nonneg t) (Finset.mem_univ t)
  have hraised := book.raised_eq_totalHeld_add
  unfold held
  linarith

/-- When only one token was pledged, it is all that was raised. -/
theorem collected_eq_raised {book : PledgeBook Donor Token} {token : Token}
    (h : ∀ t, t ≠ token → book.collected t = 0) : book.collected token = book.raised := by
  rw [raised_eq_sum_collected]
  exact (Finset.sum_eq_single token (fun t _ ht ↦ h t ht) fun hnot ↦
    absurd (Finset.mem_univ token) hnot).symm

theorem collected_le_raised (book : PledgeBook Donor Token) (t : Token) :
    book.collected t ≤ book.raised := by
  rw [raised_eq_sum_collected]
  exact Finset.single_le_sum (fun t _ ↦ book.collected_nonneg t) (Finset.mem_univ t)

/-- The two grand totals agree exactly when nothing has been paid out. -/
theorem totalHeld_eq_raised_iff (book : PledgeBook Donor Token) :
    book.totalHeld = book.raised ↔ ∀ t, book.paidOut t = 0 := by
  rw [raised_eq_totalHeld_add, left_eq_add]
  exact (Finset.sum_eq_zero_iff_of_nonneg fun t _ ↦ book.paidOut_nonneg t).trans
    ⟨fun h t ↦ h t (Finset.mem_univ t), fun h t _ ↦ h t⟩

/-! ### The empty book -/

/-- Nothing pledged and nothing paid out. -/
def empty : PledgeBook Donor Token where
  pledged := fun _ _ ↦ 0
  paidOut := fun _ ↦ 0
  pledged_nonneg := fun _ _ ↦ le_rfl
  paidOut_nonneg := fun _ ↦ le_rfl
  paidOut_le := fun _ ↦ by simp

omit [Fintype Token] in
@[simp] theorem held_empty (t : Token) : (empty : PledgeBook Donor Token).held t = 0 := by
  simp [held, empty, collected]

@[simp] theorem donated_empty (d : Donor) : (empty : PledgeBook Donor Token).donated d = 0 := by
  simp [donated, empty]

@[simp] theorem raised_empty : (empty : PledgeBook Donor Token).raised = 0 := by
  simp [raised]

@[simp] theorem totalHeld_empty : (empty : PledgeBook Donor Token).totalHeld = 0 := by
  simp [totalHeld]

/-! ### Pledging -/

section Pledge

variable [DecidableEq Donor] [DecidableEq Token]

omit [Fintype Token] in
/-- Record a pledge. -/
def pledge (book : PledgeBook Donor Token) (donor : Donor) (token : Token) (amount : ℤ)
    (hamount : 0 ≤ amount) : PledgeBook Donor Token where
  pledged := fun d t ↦ book.pledged d t + if d = donor ∧ t = token then amount else 0
  paidOut := book.paidOut
  pledged_nonneg := fun d t ↦ by
    have := book.pledged_nonneg d t
    split_ifs <;> linarith
  paidOut_nonneg := book.paidOut_nonneg
  paidOut_le := fun t ↦ by
    refine le_trans (book.paidOut_le t) (Finset.sum_le_sum fun d _ ↦ ?_)
    split_ifs <;> linarith

variable (book : PledgeBook Donor Token) (donor : Donor) (token : Token) {amount : ℤ}
  (hamount : 0 ≤ amount)

theorem donated_pledge (d : Donor) :
    (book.pledge donor token amount hamount).donated d =
      book.donated d + if d = donor then amount else 0 := by
  by_cases h : d = donor <;> simp [donated, pledge, h, Finset.sum_add_distrib]

omit [Fintype Token] in
theorem collected_pledge (t : Token) :
    (book.pledge donor token amount hamount).collected t =
      book.collected t + if t = token then amount else 0 := by
  by_cases h : t = token <;> simp [collected, pledge, h, Finset.sum_add_distrib]

omit [Fintype Token] in
theorem held_pledge (t : Token) :
    (book.pledge donor token amount hamount).held t =
      book.held t + if t = token then amount else 0 := by
  rw [held, collected_pledge, held]
  change book.collected t + _ - book.paidOut t = _
  abel

theorem raised_pledge : (book.pledge donor token amount hamount).raised = book.raised + amount := by
  simp [raised, donated_pledge, Finset.sum_add_distrib]

theorem totalHeld_pledge :
    (book.pledge donor token amount hamount).totalHeld = book.totalHeld + amount := by
  simp [totalHeld, held_pledge, Finset.sum_add_distrib]

end Pledge

/-! ### Paying out -/

section PayOut

variable (book : PledgeBook Donor Token) {amounts : Token → ℤ} (hamounts : ∀ t, 0 ≤ amounts t)
  (hheld : ∀ t, amounts t ≤ book.held t)

omit [Fintype Token] in
/-- Record payments within what is held, one amount for each token. -/
def payOut (amounts : Token → ℤ) (hamounts : ∀ t, 0 ≤ amounts t)
    (hheld : ∀ t, amounts t ≤ book.held t) : PledgeBook Donor Token where
  pledged := book.pledged
  paidOut := fun t ↦ book.paidOut t + amounts t
  pledged_nonneg := book.pledged_nonneg
  paidOut_nonneg := fun t ↦ add_nonneg (book.paidOut_nonneg t) (hamounts t)
  paidOut_le := fun t ↦ by
    have hle := hheld t
    unfold held collected at hle
    linarith

omit [Fintype Token] in
theorem held_payOut (t : Token) :
    (book.payOut amounts hamounts hheld).held t = book.held t - amounts t := by
  change book.collected t - (book.paidOut t + _) = book.collected t - book.paidOut t - _
  abel

theorem totalHeld_payOut :
    (book.payOut amounts hamounts hheld).totalHeld = book.totalHeld - ∑ t, amounts t := by
  simp only [totalHeld, held_payOut, Finset.sum_sub_distrib]

end PayOut

end PledgeBook

end OrbitChain.Foundations
