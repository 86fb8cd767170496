import Mathlib.Algebra.BigOperators.Group.Finset.Piecewise
import Mathlib.Algebra.Order.BigOperators.Group.List
import Mathlib.Algebra.Order.Ring.Int
import Mathlib.Tactic.Linarith
import Mathlib.Tactic.Ring
import Mathlib.Tactic.SplitIfs

/-!
# Balance ledgers of fungible tokens

The standard balance ledger: every account holds a nonnegative balance of every token, and a
transfer of a nonnegative amount succeeds exactly when the source holds it. The ledger logs its
transfers, as a token contract publishes them, so that what entered and what left an account is
part of its state. No balance is negative in any ledger value.

`Ledger.transferAll` pays a list of amounts in several tokens from one account to another. Its
effect on every balance and total is that of the amounts paid in each token (`paidIn`), and it
succeeds when the source covers those amounts (`transferAll_isSome`).
-/

set_option autoImplicit false
set_option relaxedAutoImplicit false

namespace OrbitChain.Foundations

/-- A logged transfer. -/
structure Transfer (Token Account : Type*) where
  token : Token
  source : Account
  target : Account
  amount : ℤ

/-- Balances of every token and account, with the log of transfers, newest first. -/
structure Ledger (Token Account : Type*) where
  balance : Token → Account → ℤ
  transfers : List (Transfer Token Account)
  balance_nonneg : ∀ token account, 0 ≤ balance token account
  amount_nonneg : ∀ x ∈ transfers, 0 ≤ x.amount

namespace Ledger

variable {Token Account : Type*} [DecidableEq Token] [DecidableEq Account]

/-- The total of the logged transfers that satisfy a property. -/
def total (ledger : Ledger Token Account) (p : Transfer Token Account → Bool) : ℤ :=
  ((ledger.transfers.filter p).map Transfer.amount).sum

/-- Everything of a token that one account sent to another. -/
def sent (ledger : Ledger Token Account) (token : Token) (source target : Account) : ℤ :=
  ledger.total fun x ↦ x.token = token ∧ x.source = source ∧ x.target = target

/-- Everything that left an account, over all tokens. -/
def outgoings (ledger : Ledger Token Account) (account : Account) : ℤ :=
  ledger.total fun x ↦ x.source = account

/-- Everything of a token that an account paid to others. -/
def spent (ledger : Ledger Token Account) (token : Token) (account : Account) : ℤ :=
  ledger.total fun x ↦ x.token = token ∧ x.source = account ∧ x.target ≠ account

/-- A transfer succeeds when the amount is nonnegative and the source holds it. A transfer of an
account to itself moves nothing. -/
def transfer (ledger : Ledger Token Account) (token : Token) (source target : Account)
    (amount : ℤ) : Option (Ledger Token Account) :=
  if h : 0 ≤ amount ∧ amount ≤ ledger.balance token source then
    some
      { balance := fun t a ↦
          ledger.balance t a - (if t = token ∧ a = source then amount else 0)
            + (if t = token ∧ a = target then amount else 0)
        transfers := ⟨token, source, target, amount⟩ :: ledger.transfers
        balance_nonneg := by
          intro t a
          have hold := ledger.balance_nonneg t a
          by_cases hsource : t = token ∧ a = source
          · obtain ⟨rfl, rfl⟩ := hsource
            have hrest := sub_nonneg.mpr h.2
            split_ifs <;> omega
          · rw [if_neg hsource]
            split_ifs <;> omega
        amount_nonneg := by
          intro x hx
          rcases List.mem_cons.mp hx with rfl | hx
          · exact h.1
          · exact ledger.amount_nonneg x hx }
  else none

variable {ledger next : Ledger Token Account} {token : Token} {source target : Account}
  {amount : ℤ}

theorem transfer_isSome (hamount : 0 ≤ amount) (hbalance : amount ≤ ledger.balance token source)
    (target : Account) : ∃ next, ledger.transfer token source target amount = some next :=
  ⟨_, dif_pos ⟨hamount, hbalance⟩⟩

/-- What a successful transfer was allowed to do. -/
theorem transfer_bounds (h : ledger.transfer token source target amount = some next) :
    0 ≤ amount ∧ amount ≤ ledger.balance token source := by
  unfold transfer at h
  split_ifs at h with hguard
  exact hguard

/-- The balances after a transfer. -/
theorem balance_transfer (h : ledger.transfer token source target amount = some next)
    (t : Token) (a : Account) :
    next.balance t a = ledger.balance t a - (if t = token ∧ a = source then amount else 0)
      + (if t = token ∧ a = target then amount else 0) := by
  unfold transfer at h
  split_ifs at h with hguard
  cases h
  rfl

/-- A transfer logs itself. -/
theorem transfers_transfer (h : ledger.transfer token source target amount = some next) :
    next.transfers = ⟨token, source, target, amount⟩ :: ledger.transfers := by
  unfold transfer at h
  split_ifs at h with hguard
  cases h
  rfl

/-- A transfer adds its amount to every total it is part of. -/
theorem total_transfer (h : ledger.transfer token source target amount = some next)
    (p : Transfer Token Account → Bool) :
    next.total p = ledger.total p + if p ⟨token, source, target, amount⟩ then amount else 0 := by
  unfold total
  rw [transfers_transfer h, List.filter_cons]
  split_ifs with hp
  · rw [List.map_cons, List.sum_cons, add_comm]
  · rw [add_zero]

/-- What others transfer is not spent by an account, and takes nothing from it. -/
theorem spent_transfer_of_ne (h : ledger.transfer token source target amount = some next)
    {account : Account} (hne : source ≠ account) (t : Token) :
    next.spent t account = ledger.spent t account ∧
      ledger.balance t account ≤ next.balance t account := by
  constructor
  · rw [spent, spent, total_transfer h]
    simp [hne]
  · have hnonneg := (transfer_bounds h).1
    rw [balance_transfer h, if_neg fun ⟨_, hsource⟩ ↦ hne hsource.symm]
    split_ifs <;> linarith

/-! ### Lists of payments -/

/-- Pay amounts of several tokens from one account to another, in order. -/
def transferAll (source target : Account) :
    List (Token × ℤ) → Ledger Token Account → Option (Ledger Token Account)
  | [], ledger => some ledger
  | (token, amount) :: rest, ledger =>
    (ledger.transfer token source target amount).bind (transferAll source target rest)

end Ledger

section PaidIn

variable {Token : Type*} [DecidableEq Token]

/-- What a list of payments pays in one token. -/
def paidIn (token : Token) (payments : List (Token × ℤ)) : ℤ :=
  (payments.map fun x ↦ if x.1 = token then x.2 else 0).sum

@[simp] theorem paidIn_nil (token : Token) : paidIn token [] = 0 :=
  rfl

@[simp] theorem paidIn_cons (token : Token) (x : Token × ℤ) (payments : List (Token × ℤ)) :
    paidIn token (x :: payments) = (if x.1 = token then x.2 else 0) + paidIn token payments := by
  simp [paidIn]

theorem paidIn_append (token : Token) (payments rest : List (Token × ℤ)) :
    paidIn token (payments ++ rest) = paidIn token payments + paidIn token rest := by
  simp [paidIn]

theorem paidIn_nonneg {payments : List (Token × ℤ)} (h : ∀ x ∈ payments, 0 ≤ x.2)
    (token : Token) : 0 ≤ paidIn token payments := by
  refine List.sum_nonneg fun y hy ↦ ?_
  obtain ⟨x, hx, rfl⟩ := List.mem_map.mp hy
  split_ifs
  · exact h x hx
  · exact le_rfl

/-- The amounts paid in each token add up to everything paid. -/
theorem sum_paidIn [Fintype Token] (payments : List (Token × ℤ)) :
    ∑ token, paidIn token payments = (payments.map Prod.snd).sum := by
  induction payments with
  | nil => simp
  | cons x rest ih => simp [Finset.sum_add_distrib, ih]

/-- What is paid in one token is part of everything paid. -/
theorem paidIn_le_sum {payments : List (Token × ℤ)} (h : ∀ x ∈ payments, 0 ≤ x.2)
    (token : Token) : paidIn token payments ≤ (payments.map Prod.snd).sum := by
  refine List.sum_le_sum fun x hx ↦ ?_
  split_ifs
  · exact le_rfl
  · exact h x hx

theorem paidIn_eq_zero {payments : List (Token × ℤ)} {token : Token}
    (h : ∀ x ∈ payments, x.1 ≠ token) : paidIn token payments = 0 := by
  refine List.sum_eq_zero fun y hy ↦ ?_
  obtain ⟨x, hx, rfl⟩ := List.mem_map.mp hy
  exact if_neg (h x hx)

end PaidIn

namespace Ledger

variable {Token Account : Type*} [DecidableEq Token] [DecidableEq Account]
variable {ledger next : Ledger Token Account} {source target : Account}
  {payments : List (Token × ℤ)}

@[simp] theorem transferAll_nil : transferAll source target [] ledger = some ledger :=
  rfl

@[simp] theorem transferAll_singleton (x : Token × ℤ) :
    transferAll source target [x] ledger = ledger.transfer x.1 source target x.2 := by
  cases h : ledger.transfer x.1 source target x.2 <;> simp [transferAll, h]

theorem transferAll_append (rest : List (Token × ℤ)) :
    transferAll source target (payments ++ rest) ledger =
      (transferAll source target payments ledger).bind (transferAll source target rest) := by
  induction payments generalizing ledger with
  | nil => rfl
  | cons x payments ih =>
    simp only [List.cons_append, transferAll, Option.bind_assoc]
    exact congrArg _ (funext fun _ ↦ ih)

/-- A list of payments adds to a total the amounts that satisfy it. -/
theorem total_transferAll (h : transferAll source target payments ledger = some next)
    (p : Transfer Token Account → Bool) :
    next.total p = ledger.total p +
      (payments.map fun x ↦ if p ⟨x.1, source, target, x.2⟩ then x.2 else 0).sum := by
  induction payments generalizing ledger with
  | nil =>
    obtain rfl : ledger = next := by simpa [transferAll] using h
    simp
  | cons x rest ih =>
    obtain ⟨middle, hfirst, hrest⟩ := Option.bind_eq_some_iff.mp h
    rw [ih hrest, total_transfer hfirst, List.map_cons, List.sum_cons, add_assoc]

theorem outgoings_transferAll (h : transferAll source target payments ledger = some next) :
    next.outgoings source = ledger.outgoings source + (payments.map Prod.snd).sum := by
  rw [outgoings, outgoings, total_transferAll h]
  simp

theorem sent_transferAll (h : transferAll source target payments ledger = some next)
    (t : Token) (a b : Account) :
    next.sent t a b =
      ledger.sent t a b + if source = a ∧ target = b then paidIn t payments else 0 := by
  rw [sent, sent, total_transferAll h]
  by_cases ha : source = a ∧ target = b
  · simp [ha, paidIn]
  · simp [ha]

theorem spent_transferAll (h : transferAll source target payments ledger = some next)
    (t : Token) (a : Account) :
    next.spent t a =
      ledger.spent t a + if source = a ∧ target ≠ a then paidIn t payments else 0 := by
  rw [spent, spent, total_transferAll h]
  by_cases ha : source = a ∧ target ≠ a
  · simp [ha, paidIn]
  · simp [ha]

/-- The balances after a list of payments. -/
theorem balance_transferAll (h : transferAll source target payments ledger = some next)
    (t : Token) (a : Account) :
    next.balance t a = ledger.balance t a - (if a = source then paidIn t payments else 0)
      + (if a = target then paidIn t payments else 0) := by
  induction payments generalizing ledger with
  | nil =>
    obtain rfl : ledger = next := by simpa [transferAll] using h
    simp
  | cons x rest ih =>
    obtain ⟨middle, hfirst, hrest⟩ := Option.bind_eq_some_iff.mp h
    rw [ih hrest, balance_transfer hfirst, paidIn_cons]
    simp only [ite_and, eq_comm (a := t)]
    split_ifs <;> ring

/-- Paying another account takes what is paid. -/
theorem balance_source_transferAll (hne : source ≠ target)
    (h : transferAll source target payments ledger = some next) (t : Token) :
    next.balance t source = ledger.balance t source - paidIn t payments := by
  rw [balance_transferAll h, if_pos rfl, if_neg hne, add_zero]

/-- Paying moves a balance to what has been spent. -/
theorem balance_add_spent_transferAll
    (h : transferAll source target payments ledger = some next) (t : Token) :
    next.balance t source + next.spent t source =
      ledger.balance t source + ledger.spent t source := by
  rw [balance_transferAll h, spent_transferAll h]
  by_cases hself : source = target
  · simp [hself]
  · rw [if_pos rfl, if_neg hself, if_pos ⟨rfl, Ne.symm hself⟩]
    ring

/-- A list of payments to another account succeeds when the source covers each token. -/
theorem transferAll_isSome (hne : source ≠ target) (hnonneg : ∀ x ∈ payments, 0 ≤ x.2)
    (hcover : ∀ t, paidIn t payments ≤ ledger.balance t source) :
    ∃ next, transferAll source target payments ledger = some next := by
  induction payments generalizing ledger with
  | nil => exact ⟨ledger, rfl⟩
  | cons x rest ih =>
    have hrest : ∀ y ∈ rest, 0 ≤ y.2 := fun y hy ↦ hnonneg y (List.mem_cons_of_mem x hy)
    have hfirst : x.2 ≤ ledger.balance x.1 source := by
      have hbound := hcover x.1
      have htail := paidIn_nonneg hrest x.1
      rw [paidIn_cons, if_pos rfl] at hbound
      linarith
    obtain ⟨middle, hmiddle⟩ := transfer_isSome (hnonneg x List.mem_cons_self) hfirst target
    have hcover' : ∀ t, paidIn t rest ≤ middle.balance t source := by
      intro t
      have hbound := hcover t
      rw [paidIn_cons] at hbound
      rw [balance_transfer hmiddle]
      simp only [hne, and_true, and_false, if_false, eq_comm (a := t)]
      linarith
    obtain ⟨next, hnext⟩ := ih hrest hcover'
    exact ⟨next, by rw [transferAll, hmiddle]; exact hnext⟩

/-- A payment made under a condition succeeds exactly when the source covers it. -/
theorem exists_transferAll_ite_iff {p : Prop} [Decidable p] {x : Token × ℤ}
    (hnonneg : p → 0 ≤ x.2) :
    (∃ next, transferAll source target (if p then [x] else []) ledger = some next) ↔
      (p → x.2 ≤ ledger.balance x.1 source) := by
  split_ifs with hp
  · rw [transferAll_singleton, imp_iff_right hp]
    constructor
    · rintro ⟨next, h⟩
      exact (transfer_bounds h).2
    · intro h
      exact transfer_isSome (hnonneg hp) h target
  · exact iff_of_true ⟨ledger, rfl⟩ fun h ↦ absurd h hp

/-- Every account holds the same amount of every token, and nothing has moved. -/
def uniform (amount : ℕ) : Ledger Token Account where
  balance _ _ := amount
  transfers := []
  balance_nonneg _ _ := Nat.cast_nonneg amount
  amount_nonneg := by simp

/-- Accounts that hold everything that is to be paid can pay it. -/
theorem transferAll_uniform (hne : source ≠ target) (hnonneg : ∀ x ∈ payments, 0 ≤ x.2) :
    ∃ next, transferAll source target payments (uniform (payments.map Prod.snd).sum.toNat) =
      some next := by
  refine transferAll_isSome hne hnonneg fun token ↦ ?_
  exact (paidIn_le_sum hnonneg token).trans (Int.self_le_toNat _)

/-- A list of payments to another account that succeeded was covered. -/
theorem paidIn_le_balance (hne : source ≠ target)
    (h : transferAll source target payments ledger = some next) (t : Token) :
    paidIn t payments ≤ ledger.balance t source := by
  have hafter := balance_source_transferAll hne h t
  have hnonneg := next.balance_nonneg t source
  linarith

/-! ### Lists of transfers -/

/-- Make a list of transfers, in order. -/
def transferEach : List (Transfer Token Account) → Ledger Token Account →
    Option (Ledger Token Account)
  | [], ledger => some ledger
  | move :: rest, ledger =>
    (ledger.transfer move.token move.source move.target move.amount).bind (transferEach rest)

/-- A list of payments from one account to another as a list of transfers. -/
theorem transferEach_payments (payments : List (Token × ℤ)) (ledger : Ledger Token Account) :
    transferEach (payments.map fun x ↦ ⟨x.1, source, target, x.2⟩) ledger =
      transferAll source target payments ledger := by
  induction payments generalizing ledger with
  | nil => rfl
  | cons x rest ih =>
    simp only [List.map_cons, transferEach, transferAll]
    exact congrArg _ (funext ih)

/-- What all accounts together hold of a token. -/
def supply [Fintype Account] (ledger : Ledger Token Account) (token : Token) : ℤ :=
  ∑ account, ledger.balance token account

/-- A transfer moves tokens and makes none. -/
theorem supply_transfer [Fintype Account] {token : Token} {amount : ℤ}
    (h : ledger.transfer token source target amount = some next) (t : Token) :
    next.supply t = ledger.supply t := by
  simp only [supply, balance_transfer h, Finset.sum_add_distrib, Finset.sum_sub_distrib, ite_and]
  split_ifs <;> simp

theorem supply_transferEach [Fintype Account] {moves : List (Transfer Token Account)}
    (h : transferEach moves ledger = some next) (t : Token) :
    next.supply t = ledger.supply t := by
  induction moves generalizing ledger with
  | nil =>
    obtain rfl : ledger = next := Option.some.inj h
    rfl
  | cons move rest ih =>
    obtain ⟨middle, hfirst, hrest⟩ := Option.bind_eq_some_iff.mp h
    rw [ih hrest, supply_transfer hfirst]

end Ledger

end OrbitChain.Foundations
