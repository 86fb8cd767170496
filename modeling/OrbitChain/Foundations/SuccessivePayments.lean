import OrbitChain.Foundations.ProportionalShares

/-!
# Payments one after the other

A list of payments made out of what is held, each out of what the ones before it left. `Payable`
is about holdings in several parts, where a payment is shared in proportion to the parts and
rounded down; `Coverable` is about a single holding that pays in full, and stops paying once it is
empty.
-/

set_option autoImplicit false
set_option relaxedAutoImplicit false

namespace OrbitChain.Foundations

variable {ι : Type*}

/-- The holdings after a payment shared in proportion to the parts. -/
def afterPayment (parts : Finset ι) (holdings : ι → ℤ) (payment : ℤ) (i : ι) : ℤ :=
  holdings i - share (holdings i) payment (∑ j ∈ parts, holdings j)

/-- Payments can be shared out one after the other: at each of them something is held, and no
part's share exceeds the part. -/
def Payable (parts : Finset ι) : List ℤ → (ι → ℤ) → Prop
  | [], _ => True
  | payment :: rest, holdings =>
    0 < ∑ i ∈ parts, holdings i ∧
      (∀ i ∈ parts, holdings i * (payment - ∑ j ∈ parts, holdings j) < ∑ j ∈ parts, holdings j) ∧
      Payable parts rest (afterPayment parts holdings payment)

/-- The products of successive shares satisfy a range rule. -/
def ProductsIn (range : ℤ → Prop) (parts : Finset ι) : List ℤ → (ι → ℤ) → Prop
  | [], _ => True
  | payment :: rest, holdings =>
    (∀ i ∈ parts, range (holdings i * payment)) ∧
      ProductsIn range parts rest (afterPayment parts holdings payment)

instance decidablePayable (parts : Finset ι) :
    (payments : List ℤ) → (holdings : ι → ℤ) → Decidable (Payable parts payments holdings)
  | [], _ => inferInstanceAs (Decidable True)
  | payment :: rest, holdings =>
    have := Finset.decidableDforallFinset (s := parts) (p := fun i _ ↦
      holdings i * (payment - ∑ j ∈ parts, holdings j) < ∑ j ∈ parts, holdings j)
    have := decidablePayable parts rest (afterPayment parts holdings payment)
    inferInstanceAs (Decidable (_ ∧ _ ∧ _))

instance decidableProductsIn (range : ℤ → Prop) [DecidablePred range] (parts : Finset ι) :
    (payments : List ℤ) → (holdings : ι → ℤ) →
      Decidable (ProductsIn range parts payments holdings)
  | [], _ => inferInstanceAs (Decidable True)
  | payment :: rest, holdings =>
    have := Finset.decidableDforallFinset (s := parts) (p := fun i _ ↦ range (holdings i * payment))
    have := decidableProductsIn range parts rest (afterPayment parts holdings payment)
    inferInstanceAs (Decidable (_ ∧ _))

/-- Payments can be made in full one after the other, until nothing is held. -/
def Coverable : List ℤ → ℤ → Prop
  | [], _ => True
  | payment :: rest, held => held = 0 ∨ payment ≤ held ∧ Coverable rest (held - payment)

instance decidableCoverable : (payments : List ℤ) → (held : ℤ) → Decidable (Coverable payments held)
  | [], _ => inferInstanceAs (Decidable True)
  | payment :: rest, held =>
    have := decidableCoverable rest (held - payment)
    inferInstanceAs (Decidable (held = 0 ∨ payment ≤ held ∧ Coverable rest (held - payment)))

/-- Nothing is left to pay out of an empty holding. -/
theorem coverable_zero (payments : List ℤ) : Coverable payments 0 := by
  cases payments with
  | nil => exact trivial
  | cons payment rest => exact .inl rfl

end OrbitChain.Foundations
