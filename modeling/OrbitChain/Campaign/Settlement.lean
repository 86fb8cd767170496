import OrbitChain.Campaign.Invariants

/-!
# Settled runs

Runs in which every donation is paired with the transfer of its tokens to the contract. A settled
donation is the donation and then the transfer (`SettledStep.donated`); every other action is the
plain one. A settled run is therefore a run of the bare chain with more receipts
(`SettledRun.exists_campaignRun`), and what holds in every state of the bare chain holds in every
state of the settled one.
-/

set_option autoImplicit false
set_option relaxedAutoImplicit false

namespace OrbitChain.Campaign

open Foundations

/-- The successful actions of the settled chain. -/
inductive SettledStep (host : Host) : Action → World → World → Prop
  | donated {inv : Invocation} {w middle next : World} {donor : Address} {amount : ℤ}
      {asset : AssetInfo} {campaign : CampaignData} {token : Address}
      (call : inv.call = .donate donor amount asset)
      (exec : (chain host).exec (.invoke inv) w = .ok middle)
      (h : CampaignContract.Donated (inv.env host) donor amount asset w middle campaign token)
      (ledger : w.ledger.transfer token donor host.contract amount = some next.ledger)
      (storage : next.storage = middle.storage) : SettledStep host (.invoke inv) w next
  | other {action : Action} {w next : World}
      (call : ∀ inv donor amount asset, action = .invoke inv →
        inv.call ≠ .donate donor amount asset)
      (h : Step host action w next) : SettledStep host action w next

/-- Settling a donation transfers its tokens; settling anything else does nothing. -/
theorem settleDonation_ok {host : Host} {call : Call} {w next : World}
    (h : settleDonation host call w = .ok next) :
    ((∀ donor amount asset, call ≠ .donate donor amount asset) ∧ next = w) ∨
      ∃ donor amount asset campaign token, call = .donate donor amount asset ∧
        w.storage.campaignData = some campaign ∧
        getTokenAddressForAsset asset campaign = .ok token ∧
        host.token.transfer token donor host.contract amount w = .ok next := by
  cases call with
  | donate donor amount asset =>
    simp only [settleDonation, bind_eq_ok_iff, orFail_eq_ok_iff] at h
    obtain ⟨campaign, hcampaign, token, htoken, h⟩ := h
    exact .inr ⟨donor, amount, asset, campaign, token, rfl, hcampaign, htoken, h⟩
  | _ => exact .inl ⟨fun _ _ _ hcall ↦ Call.noConfusion hcall, (pure_eq_ok_iff.mp h).symm⟩

/-- The raised amount plays no part in resolving an asset. -/
theorem getTokenAddressForAsset_withRaised (asset : AssetInfo) (campaign : CampaignData)
    (raised : ℤ) : getTokenAddressForAsset asset (campaign.withRaised raised) =
      getTokenAddressForAsset asset campaign := by
  cases asset <;> rfl

section Standard

variable {contract : Address} {overflowChecks : Bool}

/-- With standard tokens, every successful action of a settled chain is a `SettledStep`. -/
theorem settledStep_of_exec {action : Action} {w next : World}
    (huntouched : Untouched w.storage)
    (h : (settledChain (standardHost contract overflowChecks)).exec action w = .ok next) :
    SettledStep (standardHost contract overflowChecks) action w next := by
  cases action with
  | transfer token source target amount =>
    exact .other (fun _ _ _ _ hinv ↦ (nomatch hinv)) (step_of_exec huntouched h)
  | invoke inv =>
    simp only [settledChain, bind_eq_ok_iff] at h
    obtain ⟨middle, hexec, hsettle⟩ := h
    have hstep := step_of_exec huntouched hexec
    rcases settleDonation_ok hsettle with ⟨hcall, rfl⟩ | ⟨donor, amount, asset, campaign, token,
      hcall, hcampaign, htoken, htransfer⟩
    · refine .other (fun inv' donor amount asset hinv ↦ ?_) hstep
      obtain rfl : inv = inv' := by simpa using hinv
      exact hcall donor amount asset
    · obtain ⟨found, resolved, hdonated⟩ := hstep.of_donate hcall
      obtain rfl : campaign = _ := Option.some.inj (hcampaign.symm.trans hdonated.campaignData)
      rw [getTokenAddressForAsset_withRaised, hdonated.resolved] at htoken
      obtain rfl : resolved = token := by simpa using htoken
      simp only [standardHost, sep41, bind_eq_ok_iff, orFail_eq_ok_iff, pure_eq_ok_iff,
        hdonated.ledger] at htransfer
      obtain ⟨ledger, hledger, rfl⟩ := htransfer
      exact .donated hcall hexec hdonated hledger rfl

/-- A run of the settled chain from the contract's deployment. -/
abbrev SettledRun (contract : Address) (overflowChecks : Bool) (ledger : Ledger Address Address)
    (wasmHash : BitVec 256) : List (Receipt Action World) → World → Prop :=
  Run (settledChain (standardHost contract overflowChecks)) (.deployed ledger wasmHash)

variable {ledger : Ledger Address Address} {wasmHash : BitVec 256}
  {history : List (Receipt Action World)} {w : World}

/-- What a settled run reaches, a run of the bare chain reaches. -/
theorem SettledRun.exists_campaignRun
    (run : SettledRun contract overflowChecks ledger wasmHash history w) :
    ∃ steps, CampaignRun contract overflowChecks ledger wasmHash steps w := by
  refine run.state_invariant
    (I := fun w ↦ ∃ steps, CampaignRun contract overflowChecks ledger wasmHash steps w)
    ⟨[], .start⟩ ?_
  rintro action w next ⟨steps, prior⟩ hexec
  cases action with
  | transfer token source target amount =>
    have hplain : (chain (standardHost contract overflowChecks)).exec
        (.transfer token source target amount) w = .ok next := hexec
    exact ⟨_, prior.accept hplain⟩
  | invoke inv =>
    simp only [settledChain, bind_eq_ok_iff] at hexec
    obtain ⟨middle, hexec, hsettle⟩ := hexec
    have hmiddle := prior.accept hexec
    rcases settleDonation_ok hsettle with ⟨-, rfl⟩ | ⟨donor, amount, asset, campaign, token,
      hcall, -, -, htransfer⟩
    · exact ⟨_, hmiddle⟩
    · obtain ⟨_, _, hdonated⟩ :=
        (step_of_exec (CampaignRun.untouched prior) hexec).of_donate hcall
      have hpaid : (chain (standardHost contract overflowChecks)).exec
          (.transfer token donor contract amount) middle = .ok next := by
        simp only [chain, bind_eq_ok_iff, failIf_eq_ok_iff]
        exact ⟨(), hdonated.authorised.2, htransfer⟩
      exact ⟨_, hmiddle.accept hpaid⟩

theorem SettledRun.untouched
    (run : SettledRun contract overflowChecks ledger wasmHash history w) :
    Untouched w.storage := by
  obtain ⟨steps, hrun⟩ := SettledRun.exists_campaignRun run
  exact CampaignRun.untouched hrun

/-- The induction rule for settled runs. -/
theorem SettledRun.induction {I : List (Receipt Action World) → World → Prop}
    (hstart : I [] (.deployed ledger wasmHash))
    (hstep : ∀ history w action next,
      SettledRun contract overflowChecks ledger wasmHash history w → I history w →
      SettledStep (standardHost contract overflowChecks) action w next →
      I (⟨action, w, next⟩ :: history) next)
    (run : SettledRun contract overflowChecks ledger wasmHash history w) : I history w :=
  run.invariant hstart fun history w action next prior hI hexec ↦
    hstep history w action next prior hI (settledStep_of_exec (SettledRun.untouched prior) hexec)

end Standard

namespace Sample

/-- The receipts of the actions that succeed, in order, on the settled chain. -/
def settledHistory (actions : List Action) : List (Receipt Action World) :=
  ((settledChain (standardHost contract true)).replay actions start).1

/-- The world the actions reach on the settled chain. -/
def settledWorld (actions : List Action) : World :=
  ((settledChain (standardHost contract true)).replay actions start).2

theorem settledRun (actions : List Action) :
    SettledRun contract true ledger 0 (settledHistory actions) (settledWorld actions) :=
  System.run_replay _ actions start

end Sample

end OrbitChain.Campaign
