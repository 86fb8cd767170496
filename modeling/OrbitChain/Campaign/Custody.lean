import OrbitChain.Campaign.Settlement

/-!
# Custody

`donate` records a pledge and moves no token; the donor's transfer is a step of its own. On the
bare chain the contract therefore need not hold what its records say. On the settled chain, where
every donation is paired with its transfer, the contract's balance of a token is what was donated
in it, less what releases and refunds paid (`custody_of_settled`).
-/

set_option autoImplicit false
set_option relaxedAutoImplicit false

namespace OrbitChain.Campaign

open Foundations

/-- The token a donation of an asset is booked under. -/
def Storage.resolvedToken (s : Storage) (asset : AssetInfo) : Option Address :=
  s.getCampaign.bind fun campaign ↦ (getTokenAddressForAsset asset campaign).toOption

/-- What an action donated of a token. -/
def donatedIn (token : Address) (r : Receipt Action World) : ℤ :=
  match r.label with
  | .invoke ⟨_, _, _, .donate _ amount asset⟩ =>
    if r.before.storage.resolvedToken asset = some token then amount else 0
  | _ => 0

/-- What an action of a kind made the contract pay to others in a token, by the transfer log. -/
def paidBy (kind : Call → Bool) (contract token : Address) (r : Receipt Action World) : ℤ :=
  if r.label.invokes kind then
    r.after.ledger.spent token contract - r.before.ledger.spent token contract
  else 0

/-- What the contract should hold of a token after a history: what was donated in it less what
releases and refunds paid. -/
def custodyBalance (contract token : Address) (history : List (Receipt Action World)) : ℤ :=
  (history.map (donatedIn token)).sum - (history.map (paidBy Call.isRelease contract token)).sum
    - (history.map (paidBy Call.isRefund contract token)).sum

theorem resolvedToken_eq_some {s : Storage} {campaign : CampaignData} {asset : AssetInfo}
    {token : Address} (hfound : s.campaignData = some campaign)
    (h : getTokenAddressForAsset asset campaign = .ok token) :
    s.resolvedToken asset = some token := by
  rw [Storage.resolvedToken, Storage.getCampaign, hfound, Option.bind_some, h]
  rfl

theorem paidBy_of_kind {kind : Call → Bool} {contract token : Address} {inv : Invocation}
    {w next : World} (h : kind inv.call = true) :
    paidBy kind contract token ⟨.invoke inv, w, next⟩ =
      next.ledger.spent token contract - w.ledger.spent token contract :=
  if_pos h

theorem paidBy_of_other {kind : Call → Bool} {contract token : Address} {inv : Invocation}
    {w next : World} (h : kind inv.call = false) :
    paidBy kind contract token ⟨.invoke inv, w, next⟩ = 0 :=
  if_neg (ne_true_of_eq_false h)

theorem donatedIn_of_ne {token : Address} {inv : Invocation} {w next : World}
    (h : ∀ donor amount asset, inv.call ≠ .donate donor amount asset) :
    donatedIn token ⟨.invoke inv, w, next⟩ = 0 := by
  obtain ⟨timestamp, sequence, authorisers, call⟩ := inv
  cases call with
  | donate donor amount asset => exact absurd rfl (h donor amount asset)
  | _ => rfl

/-! ### What a step does to the contract's balance -/

section Steps

variable {host : Host} {inv : Invocation} {w next : World}

/-- Invocations other than releases and refunds move no tokens. -/
theorem Step.ledger_eq (h : Step host (.invoke inv) w next)
    (hrelease : inv.call.isRelease = false) (hrefund : inv.call.isRefund = false) :
    next.ledger = w.ledger := by
  cases h with
  | initialized _ _ _ h => exact h.ledger
  | donated _ _ h => exact h.ledger
  | administered _ _ h => exact h.ledger
  | claimed _ hcall _ =>
    rw [hcall] at hrefund
    exact absurd hrefund.symm Bool.false_ne_true
  | released _ hcall _ | multiReleased _ hcall _ =>
    rw [hcall] at hrelease
    exact absurd hrelease.symm Bool.false_ne_true

/-- What the contract pays leaves its balance. -/
theorem Step.balance_add_spent (h : Step host (.invoke inv) w next) (t : Address) :
    next.ledger.balance t host.contract + next.ledger.spent t host.contract =
      w.ledger.balance t host.contract + w.ledger.spent t host.contract := by
  cases h with
  | initialized _ _ _ h => rw [h.ledger]
  | donated _ _ h => rw [h.ledger]
  | administered _ _ h => rw [h.ledger]
  | claimed _ _ h => exact Ledger.balance_add_spent_transferAll h.ledger t
  | released _ _ h => exact Ledger.balance_add_spent_transferAll h.ledger t
  | multiReleased _ _ h => exact Ledger.balance_add_spent_transferAll h.ledger t

/-- The balance after an invocation. -/
theorem Step.balance_eq (h : Step host (.invoke inv) w next) (t : Address) :
    next.ledger.balance t host.contract = w.ledger.balance t host.contract
      - paidBy Call.isRelease host.contract t ⟨.invoke inv, w, next⟩
      - paidBy Call.isRefund host.contract t ⟨.invoke inv, w, next⟩ := by
  have hspent := h.balance_add_spent t
  by_cases hrelease : inv.call.isRelease = true
  · rw [paidBy_of_kind hrelease, paidBy_of_other (Call.isRefund_of_isRelease hrelease)]
    linarith
  · have hrelease := eq_false_of_ne_true hrelease
    rw [paidBy_of_other hrelease]
    by_cases hrefund : inv.call.isRefund = true
    · rw [paidBy_of_kind hrefund]
      linarith
    · have hrefund := eq_false_of_ne_true hrefund
      rw [paidBy_of_other hrefund, h.ledger_eq hrelease hrefund]
      ring

/-- A settled invocation changes the contract's balance by what it donated, released and
refunded. -/
theorem SettledStep.balance_eq (h : SettledStep host (.invoke inv) w next) (t : Address) :
    next.ledger.balance t host.contract = w.ledger.balance t host.contract
      + donatedIn t ⟨.invoke inv, w, next⟩
      - paidBy Call.isRelease host.contract t ⟨.invoke inv, w, next⟩
      - paidBy Call.isRefund host.contract t ⟨.invoke inv, w, next⟩ := by
  cases h with
  | @donated _ _ middle _ donor amount asset campaign token hcall hexec hdonated hledger hstorage =>
    obtain ⟨timestamp, sequence, authorisers, call⟩ := inv
    obtain rfl : call = _ := hcall
    have hdonor : host.contract ≠ donor := hdonated.authorised.2.symm
    have hresolved := resolvedToken_eq_some hdonated.found hdonated.resolved
    have hrelease : paidBy Call.isRelease host.contract t ⟨.invoke ⟨timestamp, sequence,
        authorisers, .donate donor amount asset⟩, w, next⟩ = 0 := paidBy_of_other rfl
    have hrefund : paidBy Call.isRefund host.contract t ⟨.invoke ⟨timestamp, sequence,
        authorisers, .donate donor amount asset⟩, w, next⟩ = 0 := paidBy_of_other rfl
    rw [Ledger.balance_transfer hledger, hrelease, hrefund]
    simp only [donatedIn, hresolved, hdonor, Option.some.injEq, eq_comm (a := t), and_true,
      and_false, if_false]
    ring
  | other hcall h =>
    rw [h.balance_eq, donatedIn_of_ne fun donor amount asset ↦ hcall inv donor amount asset rfl,
      add_zero]

end Steps

/-! ### Custody of runs -/

section Runs

variable {contract : Address} {overflowChecks : Bool} {ledger : Ledger Address Address}
  {wasmHash : BitVec 256} {history : List (Receipt Action World)} {w : World}

/-- Without transfers from outside, the contract's balance grew by what custody says. -/
theorem SettledRun.balance_eq
    (run : SettledRun contract overflowChecks ledger wasmHash history w)
    (hquiet : ∀ r ∈ history, r.label.isTransfer = false) (t : Address) :
    w.ledger.balance t contract =
      ledger.balance t contract + custodyBalance contract t history := by
  refine SettledRun.induction (I := fun history w ↦ (∀ r ∈ history, r.label.isTransfer = false) →
    w.ledger.balance t contract = ledger.balance t contract + custodyBalance contract t history)
    (fun _ ↦ by simp [custodyBalance, World.deployed]) ?_ run hquiet
  intro history w action next _ ih hstep hquiet
  have hw := ih fun r hr ↦ hquiet r (List.mem_cons_of_mem _ hr)
  cases action with
  | transfer token source target amount =>
    exact absurd (hquiet _ List.mem_cons_self).symm Bool.false_ne_true
  | invoke inv =>
    have hbalance := hstep.balance_eq t
    simp only [standardHost] at hbalance
    rw [hbalance, hw]
    simp only [custodyBalance, List.map_cons, List.sum_cons]
    ring

/-- Custody of settled runs: `donate` itself moves nothing, its settlement moves exactly the
donated amount of the resolved token from the donor to the contract, and the contract's balance
of an accepted token that it did not hold at first is what was donated in it less what releases
and refunds paid. -/
theorem custody_of_settled
    (run : SettledRun contract overflowChecks ledger wasmHash history w)
    (hquiet : ∀ r ∈ history, r.label.isTransfer = false) :
    (∀ r ∈ history, ∀ inv donor amount asset, r.label = .invoke inv →
      inv.call = .donate donor amount asset → ∃ middle token,
        (chain (standardHost contract overflowChecks)).exec r.label r.before = .ok middle ∧
        middle.ledger = r.before.ledger ∧
        r.before.storage.resolvedToken asset = some token ∧
        r.before.ledger.transfer token donor contract amount = some r.after.ledger) ∧
    ∀ campaign, w.storage.campaignData = some campaign → ∀ t ∈ campaign.issuers,
      ledger.balance t contract = 0 →
      w.ledger.balance t contract = custodyBalance contract t history := by
  constructor
  · rintro ⟨label, before, after⟩ hr inv donor amount asset rfl hcall
    obtain ⟨hexec, earlier, hearlier⟩ := run.fired hr
    have hstep := settledStep_of_exec (SettledRun.untouched hearlier) hexec
    cases hstep with
    | donated hsame hexec hdonated hledger _ =>
      obtain ⟨rfl, rfl, rfl⟩ : _ ∧ _ ∧ _ := by simpa using hcall.symm.trans hsame
      exact ⟨_, _, hexec, hdonated.ledger, resolvedToken_eq_some hdonated.found hdonated.resolved,
        hledger⟩
    | other hother _ => exact absurd hcall (hother inv donor amount asset rfl)
  · intro campaign _ t _ hopening
    rw [SettledRun.balance_eq run hquiet t, hopening, zero_add]

end Runs

/-- Two donors reach the goal, half of it is released, and after the cancellation one of them is
refunded. -/
def Sample.releasedAndRefunded : List Action :=
  [Sample.opening [⟨"XLM", some Sample.token⟩] [Sample.milestone 500, Sample.milestone 1000] 1000,
    Sample.giving Sample.donor 600 Sample.token, Sample.giving Sample.secondDonor 400 Sample.token,
    Sample.call Sample.creator (.releaseMilestone 0 Sample.recipient),
    Sample.call Sample.creator .cancelCampaign,
    Sample.call Sample.donor (.claimRefund Sample.donor)]

/-- Of the thousand donated, five hundred are released and three hundred refunded. -/
theorem custody_of_settled_releasedAndRefunded :
    ((Sample.settledHistory Sample.releasedAndRefunded).map
        (paidBy Call.isRelease Sample.contract Sample.token)).sum = 500 ∧
      ((Sample.settledHistory Sample.releasedAndRefunded).map
        (paidBy Call.isRefund Sample.contract Sample.token)).sum = 300 ∧
      (Sample.settledWorld Sample.releasedAndRefunded).ledger.balance Sample.token
        Sample.contract = 200 := by
  obtain ⟨-, hcustody⟩ := custody_of_settled (Sample.settledRun Sample.releasedAndRefunded)
    (by decide +kernel)
  have hissuers : (Sample.settledWorld Sample.releasedAndRefunded).storage.campaignData.map
      CampaignData.issuers = some [Sample.token] := by decide +kernel
  obtain ⟨campaign, hfound, hlisted⟩ := Option.map_eq_some_iff.mp hissuers
  refine ⟨by decide +kernel, by decide +kernel, ?_⟩
  rw [hcustody campaign hfound Sample.token (by rw [hlisted]; exact List.mem_singleton_self _)
    (by decide)]
  decide +kernel

/-- A campaign with one token is opened and a donor gives some of it. -/
def Sample.firstDonation : List Action :=
  [Sample.opening [⟨"XLM", some Sample.token⟩] [Sample.milestone 1000] 1000,
    Sample.giving Sample.donor 100 Sample.token]

/-- On the bare chain the contract need not hold what was donated. -/
theorem custody_fails :
    ¬ ∀ (contract : Address) (overflowChecks : Bool) (ledger : Ledger Address Address)
      (wasmHash : BitVec 256) (history : List (Receipt Action World)) (w : World),
      CampaignRun contract overflowChecks ledger wasmHash history w →
      (∀ r ∈ history, r.label.isTransfer = false) →
      ∀ campaign, w.storage.campaignData = some campaign → ∀ t ∈ campaign.issuers,
        ledger.balance t contract = 0 →
        w.ledger.balance t contract = custodyBalance contract t history := by
  intro h
  have hissuers : (Sample.reached Sample.firstDonation).storage.campaignData.map
      CampaignData.issuers = some [Sample.token] := by decide +kernel
  obtain ⟨campaign, hfound, hlisted⟩ := Option.map_eq_some_iff.mp hissuers
  have hcustody := h _ _ _ _ _ _ (Sample.run Sample.firstDonation) (by decide +kernel) campaign
    hfound Sample.token (by rw [hlisted]; exact List.mem_singleton_self _) (by decide)
  revert hcustody
  decide +kernel

end OrbitChain.Campaign
