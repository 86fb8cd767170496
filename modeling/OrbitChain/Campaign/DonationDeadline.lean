import OrbitChain.Campaign.Contract

/-!
# Donations after the deadline

A campaign has an end time, which its creator can move, and the entrypoint that takes donations
does not look at it. Whether a donation after the end time is refused is decided by the checks that
the entrypoint does make (`Donatable`), so a run takes donations in time exactly when each of its
donation calls either comes in time or fails one of them.
-/

set_option autoImplicit false
set_option relaxedAutoImplicit false

namespace OrbitChain.Campaign

open Foundations

/-- The invocation is made no later than the end time of the campaign it finds. -/
def Invocation.InTime (inv : Invocation) (w : World) : Prop :=
  ∀ campaign, w.storage.campaignData = some campaign → inv.timestamp ≤ campaign.endTime

/-- The invocation passes every check that a donation meets. -/
def Invocation.DonationAccepted (inv : Invocation) (host : Host) (donor : Address) (amount : ℤ)
    (asset : AssetInfo) (w : World) : Prop :=
  inv.WellTyped ∧ ∃ campaign token,
    CampaignContract.Donatable (inv.env host) donor amount asset w campaign token

/-- Every donation of a history was made in time. -/
def DonatesInTime (history : List (Receipt Action World)) : Prop :=
  ∀ r ∈ history, ∀ inv donor amount asset, r.label = .invoke inv →
    inv.call = .donate donor amount asset → inv.InTime r.before

/-- Every donation call either comes in time or fails a check. -/
def LateDonationsRefused (host : Host) (attempts : List (Action × World)) : Prop :=
  ∀ a ∈ attempts, ∀ inv donor amount asset, a.1 = .invoke inv →
    inv.call = .donate donor amount asset →
      inv.InTime a.2 ∨ ¬ inv.DonationAccepted host donor amount asset a.2

/-- A donation call succeeds exactly when it passes the checks. -/
theorem exec_donate_isOk_iff {host : Host} {inv : Invocation} {donor : Address} {amount : ℤ}
    {asset : AssetInfo} {w : World} (hcall : inv.call = .donate donor amount asset) :
    (∃ next, (chain host).exec (.invoke inv) w = .ok next) ↔
      inv.DonationAccepted host donor amount asset w := by
  simp only [exec_invoke_eq_ok_iff, hcall, exists_and_left]
  exact and_congr_right fun _ ↦ CampaignContract.donate_isOk_iff

section Standard

variable {contract : Address} {overflowChecks : Bool} {ledger : Ledger Address Address}
  {wasmHash : BitVec 256}

/-- Where every late donation call fails a check, donations are taken in time. -/
theorem donatesInTime_of_refused {actions : List Action}
    (hrefused : LateDonationsRefused (standardHost contract overflowChecks)
      ((chain (standardHost contract overflowChecks)).attempts actions
        (.deployed ledger wasmHash))) :
    DonatesInTime ((chain (standardHost contract overflowChecks)).replay actions
      (.deployed ledger wasmHash)).1 := by
  intro r hr inv donor amount asset hlabel hcall
  obtain ⟨hattempt, hexec⟩ := (System.mem_replay_iff _).mp hr
  rw [hlabel] at hexec
  have haccepted := (exec_donate_isOk_iff hcall).mp ⟨r.after, hexec⟩
  exact (hrefused _ hattempt inv donor amount asset hlabel hcall).resolve_right
    fun hfailed ↦ hfailed haccepted

/-- A run whose donation calls all come in time takes donations in time. -/
theorem donatesInTime_of_calls {actions : List Action}
    (hintime : ∀ a ∈ (chain (standardHost contract overflowChecks)).attempts actions
        (.deployed ledger wasmHash), ∀ inv donor amount asset, a.1 = .invoke inv →
      inv.call = .donate donor amount asset → inv.InTime a.2) :
    DonatesInTime ((chain (standardHost contract overflowChecks)).replay actions
      (.deployed ledger wasmHash)).1 :=
  donatesInTime_of_refused fun a ha inv donor amount asset hlabel hcall ↦
    .inl (hintime a ha inv donor amount asset hlabel hcall)

/-- A run, given by its calls in order, failing ones included, takes donations in time exactly
when every late donation call of it fails a check. -/
theorem donation_deadline_iff (actions : List Action) :
    DonatesInTime ((chain (standardHost contract overflowChecks)).replay actions
        (.deployed ledger wasmHash)).1 ↔
      LateDonationsRefused (standardHost contract overflowChecks)
        ((chain (standardHost contract overflowChecks)).attempts actions
          (.deployed ledger wasmHash)) := by
  refine ⟨?_, donatesInTime_of_refused⟩
  rintro hintime ⟨action, w⟩ hattempt inv donor amount asset rfl hcall
  by_cases haccepted : inv.DonationAccepted (standardHost contract overflowChecks) donor amount
      asset w
  · obtain ⟨next, hexec⟩ := (exec_donate_isOk_iff hcall).mpr haccepted
    have hreceipt := (System.mem_replay_iff _ (r := ⟨Action.invoke inv, w, next⟩)).mpr
      ⟨hattempt, hexec⟩
    exact .inl (hintime _ hreceipt inv donor amount asset rfl hcall)
  · exact .inr haccepted

end Standard

/-- A donor gives a second after the campaign's end time. -/
def Sample.lateDonation : List Action :=
  [Sample.opening [⟨"XLM", some Sample.token⟩] [Sample.milestone 1000] 1000,
    .invoke ⟨1001, 2, [Sample.donor], .donate Sample.donor 100 (.stellar Sample.token)⟩]

/-- A donation is taken after the campaign's end time. -/
theorem donated_late :
    ¬ ∀ (contract : Address) (overflowChecks : Bool) (ledger : Ledger Address Address)
      (wasmHash : BitVec 256) (actions : List Action),
      DonatesInTime ((chain (standardHost contract overflowChecks)).replay actions
        (.deployed ledger wasmHash)).1 := by
  intro h
  have hlate : ∃ r ∈ Sample.history Sample.lateDonation,
      r.label = .invoke ⟨1001, 2, [Sample.donor],
        .donate Sample.donor 100 (.stellar Sample.token)⟩ ∧
      r.before.storage.campaignData.any (fun campaign ↦ campaign.endTime < 1001) = true := by
    decide +kernel
  obtain ⟨r, hr, hlabel, hcampaign⟩ := hlate
  obtain ⟨campaign, hfound, hended⟩ := Option.any_eq_true _ _ |>.mp hcampaign
  have htime := h Sample.contract true Sample.ledger 0 Sample.lateDonation r hr _ _ _ _ hlabel rfl
    campaign hfound
  exact (of_decide_eq_true hended).not_ge htime

end OrbitChain.Campaign
