import OrbitChain.Campaign.Initialization
import OrbitChain.Campaign.Donation
import OrbitChain.Campaign.Refund
import OrbitChain.Campaign.MilestoneRelease
import OrbitChain.Campaign.MultiAssetRelease
import OrbitChain.Campaign.Lifecycle
import OrbitChain.Foundations.TransitionRuns

/-!
# The contract on its chain

The entrypoints as calls (`Call`, `invoke`) and the two systems their runs are taken in. In
`chain` anyone invokes the contract at any ledger time with any authorizations, and token holders
other than the contract move their tokens. `settledChain` is the same with every donation paired
with the transfer of its tokens to the contract, both or neither.

`Step` says what a successful action can be, once for all invariants: a transfer between token
holders, one of the five entrypoints that keep the books, or an administrative one.
-/

set_option autoImplicit false
set_option relaxedAutoImplicit false

namespace OrbitChain.Campaign

open Foundations

/-- The entrypoints that can change the contract, with their arguments. -/
inductive Call
  | initializeCampaign (creator : Address) (goalAmount : ℤ) (endTime : ℕ)
      (acceptedAssets : List StellarAsset) (milestones : List MilestoneData)
      (minDonationAmount : ℤ)
  | donate (donor : Address) (amount : ℤ) (asset : AssetInfo)
  | claimRefund (donor : Address)
  | endCampaign
  | cancelCampaign
  | extendDeadline (newEndTime : ℕ)
  | releaseMilestone (milestoneIndex : ℕ) (recipient : Address)
  | releaseMilestoneMultiAsset (milestoneIndex : ℕ) (recipient : Address)
  | upgrade (newWasmHash : BitVec 256)
  | freeze
  | unfreeze
  | blockAsset (asset : Address)
  | unblockAsset (asset : Address)
  | bumpStorage
  deriving DecidableEq

/-- The arguments are values of their wire types. -/
def Call.WellTyped : Call → Prop
  | .initializeCampaign _ goalAmount endTime acceptedAssets milestones minDonationAmount =>
    InI128 goalAmount ∧ endTime ≤ u64Max ∧ acceptedAssets.length ≤ u32Max ∧
      milestones.length ≤ u32Max ∧ (∀ m ∈ milestones, m.WellTyped) ∧ InI128 minDonationAmount
  | .donate _ amount _ => InI128 amount
  | .extendDeadline newEndTime => newEndTime ≤ u64Max
  | .releaseMilestone milestoneIndex _ => milestoneIndex ≤ u32Max
  | .releaseMilestoneMultiAsset milestoneIndex _ => milestoneIndex ≤ u32Max
  | _ => True

instance (call : Call) : Decidable call.WellTyped := by
  unfold Call.WellTyped
  split <;> infer_instance

namespace Call

/-- The creator's entrypoints that move no funds, and storage maintenance. -/
def isAdministrative : Call → Bool
  | .endCampaign | .cancelCampaign | .extendDeadline _ | .upgrade _ | .freeze | .unfreeze
  | .blockAsset _ | .unblockAsset _ | .bumpStorage => true
  | _ => false

def isDonation : Call → Bool
  | .donate _ _ _ => true
  | _ => false

def isRefund : Call → Bool
  | .claimRefund _ => true
  | _ => false

/-- The two entrypoints that release a milestone. -/
def isRelease : Call → Bool
  | .releaseMilestone _ _ | .releaseMilestoneMultiAsset _ _ => true
  | _ => false

theorem isRefund_of_isRelease {call : Call} (h : call.isRelease = true) :
    call.isRefund = false := by
  cases call with
  | claimRefund donor => exact absurd h Bool.false_ne_true
  | _ => rfl

/-- The status an administrative call leaves. -/
def targetStatus (call : Call) (status : CampaignStatus) : CampaignStatus :=
  match call with
  | .endCampaign => .ended
  | .cancelCampaign => .cancelled
  | _ => status

end Call

open CampaignContract in
/-- Dispatch a call to its entrypoint. -/
def invoke (env : Env) : Call → World → Except Failure World
  | .initializeCampaign creator goalAmount endTime acceptedAssets milestones minDonationAmount =>
    initializeCampaign env creator goalAmount endTime acceptedAssets milestones
      minDonationAmount
  | .donate donor amount asset => donate env donor amount asset
  | .claimRefund donor => claimRefund env donor
  | .endCampaign => endCampaign env
  | .cancelCampaign => cancelCampaign env
  | .extendDeadline newEndTime => extendDeadline env newEndTime
  | .releaseMilestone index recipient => CampaignContract.releaseMilestone env index recipient
  | .releaseMilestoneMultiAsset index recipient =>
    CampaignContract.releaseMilestoneMultiAsset env index recipient
  | .upgrade newWasmHash => upgrade env newWasmHash
  | .freeze => freeze env
  | .unfreeze => unfreeze env
  | .blockAsset asset => blockAsset env asset
  | .unblockAsset asset => unblockAsset env asset
  | .bumpStorage => bumpStorage

/-- A top-level invocation: when it runs, who authorised it and what it calls. -/
structure Invocation where
  timestamp : ℕ
  sequence : ℕ
  authorisers : List Address
  call : Call
  deriving DecidableEq

namespace Invocation

def WellTyped (inv : Invocation) : Prop :=
  inv.timestamp ≤ u64Max ∧ inv.sequence ≤ u32Max ∧ inv.call.WellTyped

instance (inv : Invocation) : Decidable inv.WellTyped :=
  inferInstanceAs (Decidable (_ ∧ _ ∧ _))

/-- The environment an invocation runs in on a host. -/
def env (inv : Invocation) (host : Host) : Env where
  host := host
  timestamp := inv.timestamp
  sequence := inv.sequence
  authorisers := inv.authorisers

end Invocation

/-- What happens on the ledger, as far as the contract can see it. -/
inductive Action
  | invoke (inv : Invocation)
  | transfer (token source target : Address) (amount : ℤ)
  deriving DecidableEq

namespace Action

/-- The action invokes an entrypoint of a kind. -/
def invokes (kind : Call → Bool) : Action → Bool
  | .invoke inv => kind inv.call
  | .transfer _ _ _ _ => false

/-- An invocation is of the kinds that its call is of. -/
theorem invokes_of_call {inv : Invocation} {call : Call} (hcall : inv.call = call)
    (kind : Call → Bool) : (Action.invoke inv).invokes kind = kind call :=
  congrArg kind hcall

/-- A transfer between token holders, outside the contract. -/
def isTransfer : Action → Bool
  | .transfer _ _ _ _ => true
  | .invoke _ => false

/-- An action of a kind is of every wider kind. -/
theorem invokes_of_invokes {kind wider : Call → Bool}
    (h : ∀ {call}, kind call = true → wider call = true) {action : Action}
    (haction : action.invokes kind = true) : action.invokes wider = true := by
  cases action with
  | invoke inv => exact h haction
  | transfer => exact absurd haction Bool.false_ne_true

theorem isRefund_of_isDonation {action : Action} (h : action.invokes Call.isDonation = true) :
    action.invokes Call.isRefund = false := by
  obtain ⟨timestamp, sequence, authorisers, call⟩ | _ := action
  · cases call with
    | claimRefund donor => exact absurd h Bool.false_ne_true
    | _ => rfl
  · rfl

end Action

/-- The contract between token holders: invocations of the contract, rolled back when they fail,
and transfers by holders other than the contract. -/
def chain (host : Host) : System Action World Failure where
  exec
    | .invoke inv, w => do
      failIf (¬ inv.WellTyped) .malformed
      invoke (inv.env host) inv.call w
    | .transfer token source target amount, w => do
      failIf (source = host.contract) .auth
      host.token.transfer token source target amount w

/-- An invocation succeeds when its arguments are well typed and its entrypoint succeeds. -/
theorem exec_invoke_eq_ok_iff {host : Host} {inv : Invocation} {w next : World} :
    (chain host).exec (.invoke inv) w = .ok next ↔
      inv.WellTyped ∧ invoke (inv.env host) inv.call w = .ok next := by
  simp only [chain, bind_eq_ok_iff, failIf_eq_ok_iff, not_not]
  constructor
  · rintro ⟨_, htyped, h⟩
    exact ⟨htyped, h⟩
  · rintro ⟨htyped, h⟩
    exact ⟨(), htyped, h⟩

/-- Move the tokens of a donation that the contract has just recorded. -/
def settleDonation (host : Host) (call : Call) (w : World) : Except Failure World :=
  match call with
  | .donate donor amount asset => do
    let campaign ← orFail w.storage.getCampaign (.contract .notInitialized)
    let token ← getTokenAddressForAsset asset campaign
    host.token.transfer token donor host.contract amount w
  | _ => pure w

/-- The chain on which every donation is paired with the transfer of its tokens. -/
def settledChain (host : Host) : System Action World Failure where
  exec
    | .invoke inv, w => do
      let w ← (chain host).exec (.invoke inv) w
      settleDonation host inv.call w
    | .transfer token source target amount, w =>
      (chain host).exec (.transfer token source target amount) w

/-- A host with standard tokens. -/
def standardHost (contract : Address) (overflowChecks : Bool) : Host where
  contract := contract
  overflowChecks := overflowChecks
  token := sep41

/-! ### What a successful action can be -/

/-- Nothing is stored before initialization. -/
def Untouched (s : Storage) : Prop := s.campaignData = none → s = .empty

/-- Where a milestone is stored, so is a campaign. -/
theorem Untouched.campaign_ne_none {s : Storage} (h : Untouched s) {index : ℕ} {m : MilestoneData}
    (hm : s.getMilestone index = some m) : s.campaignData ≠ none := by
  intro hfresh
  rw [h hfresh, Storage.getMilestone_empty] at hm
  exact Option.some_ne_none m hm.symm

/-- The successful actions, with everything they checked and wrote. -/
inductive Step (host : Host) : Action → World → World → Prop
  | transferred {token source target : Address} {amount : ℤ} {w next : World}
      (source_ne : source ≠ host.contract)
      (ledger : w.ledger.transfer token source target amount = some next.ledger)
      (storage : next.storage = w.storage) (events : next.events = w.events) :
      Step host (.transfer token source target amount) w next
  | initialized {inv : Invocation} {w next : World} {creator : Address} {goalAmount : ℤ}
      {endTime : ℕ} {acceptedAssets : List StellarAsset} {milestones : List MilestoneData}
      {minDonationAmount : ℤ} (typed : inv.WellTyped)
      (call : inv.call = .initializeCampaign creator goalAmount endTime acceptedAssets milestones
        minDonationAmount) (storage_empty : w.storage = .empty)
      (h : CampaignContract.Initialized (inv.env host) creator goalAmount endTime acceptedAssets
        milestones minDonationAmount w next) : Step host (.invoke inv) w next
  | donated {inv : Invocation} {w next : World} {donor : Address} {amount : ℤ}
      {asset : AssetInfo} {campaign : CampaignData} {token : Address} (typed : inv.WellTyped)
      (call : inv.call = .donate donor amount asset)
      (h : CampaignContract.Donated (inv.env host) donor amount asset w next campaign token) :
      Step host (.invoke inv) w next
  | claimed {inv : Invocation} {w next : World} {donor : Address} {campaign : CampaignData}
      {record : DonorRecord} {numerator : ℤ} (typed : inv.WellTyped)
      (call : inv.call = .claimRefund donor)
      (h : CampaignContract.Claimed (inv.env host) donor w next campaign record numerator) :
      Step host (.invoke inv) w next
  | released {inv : Invocation} {w next : World} {index : ℕ} {recipient : Address}
      {campaign : CampaignData} {milestone : MilestoneData} {primary : StellarAsset}
      (typed : inv.WellTyped) (call : inv.call = .releaseMilestone index recipient)
      (h : ReleaseMilestone.Released (inv.env host) index recipient w next campaign milestone
        primary) : Step host (.invoke inv) w next
  | multiReleased {inv : Invocation} {w next : World} {index : ℕ} {recipient : Address}
      {campaign : CampaignData} {milestone : MilestoneData} (typed : inv.WellTyped)
      (call : inv.call = .releaseMilestoneMultiAsset index recipient)
      (h : MultiAssetRelease.Released (inv.env host) index recipient w next campaign
        milestone) : Step host (.invoke inv) w next
  | administered {inv : Invocation} {w next : World} {campaign : CampaignData}
      {endTime : ℕ} {concluded : Option ℕ} (typed : inv.WellTyped)
      (call : inv.call.isAdministrative = true)
      (h : CampaignContract.Administered (inv.env host) w next campaign
        (inv.call.targetStatus campaign.status) endTime concluded) :
      Step host (.invoke inv) w next

open CampaignContract in
/-- A successful administrative call did what administrative calls do. -/
theorem administered_of_invoke {env : Env} {call : Call} {w next : World}
    (hcall : call.isAdministrative = true) (h : invoke env call w = .ok next) :
    ∃ campaign endTime concluded,
      Administered env w next campaign (call.targetStatus campaign.status) endTime concluded := by
  cases call with
  | endCampaign =>
    have h : endCampaign env w = .ok next := h
    obtain ⟨campaign, h⟩ := conclude_ok rfl h
    exact ⟨campaign, _, _, h⟩
  | cancelCampaign =>
    have h : cancelCampaign env w = .ok next := h
    obtain ⟨campaign, h⟩ := conclude_ok rfl h
    exact ⟨campaign, _, _, h⟩
  | extendDeadline newEndTime =>
    obtain ⟨campaign, h⟩ := extendDeadline_ok h
    exact ⟨campaign, _, _, h⟩
  | upgrade newWasmHash =>
    obtain ⟨campaign, h⟩ := upgrade_ok h
    exact ⟨campaign, _, _, h⟩
  | freeze =>
    have h : freeze env w = .ok next := h
    obtain ⟨campaign, h⟩ := administer_ok (fun s ↦ ⟨_, _, rfl⟩) h
    exact ⟨campaign, _, _, h⟩
  | unfreeze =>
    have h : unfreeze env w = .ok next := h
    obtain ⟨campaign, h⟩ := administer_ok (fun s ↦ ⟨_, _, rfl⟩) h
    exact ⟨campaign, _, _, h⟩
  | blockAsset asset =>
    have h : blockAsset env asset w = .ok next := h
    obtain ⟨campaign, h⟩ := administer_ok (fun s ↦ ⟨_, _, rfl⟩) h
    exact ⟨campaign, _, _, h⟩
  | unblockAsset asset =>
    have h : unblockAsset env asset w = .ok next := h
    obtain ⟨campaign, h⟩ := administer_ok (fun s ↦ ⟨_, _, rfl⟩) h
    exact ⟨campaign, _, _, h⟩
  | bumpStorage =>
    obtain ⟨campaign, h⟩ := bumpStorage_ok h
    exact ⟨campaign, _, _, h⟩
  | initializeCampaign | donate | claimRefund | releaseMilestone | releaseMilestoneMultiAsset =>
    exact absurd hcall Bool.false_ne_true

section Standard

variable {contract : Address} {overflowChecks : Bool}

/-- With standard tokens, every successful action of a chain is a `Step`. -/
theorem step_of_exec {action : Action} {w next : World} (huntouched : Untouched w.storage)
    (h : (chain (standardHost contract overflowChecks)).exec action w = .ok next) :
    Step (standardHost contract overflowChecks) action w next := by
  cases action with
  | transfer token source target amount =>
    simp only [chain, bind_eq_ok_iff, failIf_eq_ok_iff] at h
    obtain ⟨_, hsource, h⟩ := h
    simp only [standardHost, sep41, bind_eq_ok_iff, orFail_eq_ok_iff, pure_eq_ok_iff] at h
    obtain ⟨ledger, hledger, rfl⟩ := h
    exact .transferred hsource hledger rfl rfl
  | invoke inv =>
    obtain ⟨htyped, h⟩ := exec_invoke_eq_ok_iff.mp h
    by_cases hadministrative : inv.call.isAdministrative = true
    · obtain ⟨campaign, endTime, concluded, h⟩ := administered_of_invoke hadministrative h
      exact .administered htyped hadministrative h
    cases hcall : inv.call with
    | initializeCampaign creator goalAmount endTime acceptedAssets milestones minDonationAmount =>
      rw [hcall] at h
      have hfresh : w.storage.campaignData = none := by
        simp only [invoke, CampaignContract.initializeCampaign, bind_eq_ok_iff,
          failIf_eq_ok_iff] at h
        obtain ⟨_, -, _, hfresh, -⟩ := h
        simpa [Storage.getCampaign] using hfresh
      have hempty := huntouched hfresh
      exact .initialized htyped hcall hempty (CampaignContract.initializeCampaign_ok h
        (by rw [hempty]; rfl) (by rw [hempty]; exact fun _ ↦ rfl))
    | donate donor amount asset =>
      rw [hcall] at h
      obtain ⟨campaign, token, h⟩ := CampaignContract.donate_ok h
      exact .donated htyped hcall h
    | claimRefund donor =>
      rw [hcall] at h
      obtain ⟨campaign, record, numerator, h⟩ :=
        (CampaignContract.claimRefund_eq_ok_iff rfl).mp h
      exact .claimed htyped hcall h
    | releaseMilestone index recipient =>
      rw [hcall] at h
      obtain ⟨campaign, milestone, primary, h⟩ :=
        (CampaignContract.releaseMilestone_eq_ok_iff rfl).mp h
      exact .released htyped hcall h
    | releaseMilestoneMultiAsset index recipient =>
      rw [hcall] at h
      obtain ⟨campaign, milestone, h⟩ :=
        (CampaignContract.releaseMilestoneMultiAsset_eq_ok_iff rfl).mp h
      exact .multiReleased htyped hcall h
    | endCampaign | cancelCampaign | extendDeadline | upgrade | freeze | unfreeze | blockAsset
    | unblockAsset | bumpStorage => exact absurd (by rw [hcall]; rfl) hadministrative

/-! ### Steps by their call -/

section ByCall

variable {host : Host} {inv : Invocation} {w next : World} (h : Step host (.invoke inv) w next)
include h

theorem Step.of_initialize {creator : Address} {goalAmount : ℤ} {endTime : ℕ}
    {acceptedAssets : List StellarAsset} {milestones : List MilestoneData}
    {minDonationAmount : ℤ} (hcall : inv.call = .initializeCampaign creator goalAmount endTime
      acceptedAssets milestones minDonationAmount) :
    w.storage = .empty ∧ CampaignContract.Initialized (inv.env host) creator goalAmount endTime
      acceptedAssets milestones minDonationAmount w next := by
  cases h with
  | initialized _ hsame hempty h =>
    obtain ⟨rfl, rfl, rfl, rfl, rfl, rfl⟩ : _ ∧ _ ∧ _ ∧ _ ∧ _ ∧ _ := by
      simpa using hcall.symm.trans hsame
    exact ⟨hempty, h⟩
  | administered _ hadministrative _ =>
    rw [hcall] at hadministrative
    exact absurd hadministrative Bool.false_ne_true
  | _ => simp_all

/-- Before there is a campaign, only an initialization succeeds. -/
theorem Step.initialize_of_fresh (hfresh : w.storage.campaignData = none) :
    ∃ creator goalAmount endTime acceptedAssets milestones minDonationAmount,
      inv.call = .initializeCampaign creator goalAmount endTime acceptedAssets milestones
        minDonationAmount := by
  cases h with
  | initialized _ hcall _ _ => exact ⟨_, _, _, _, _, _, hcall⟩
  | donated _ _ h => exact absurd hfresh (by simp [h.found])
  | claimed _ _ h => exact absurd hfresh (by simp [h.found])
  | released _ _ h => exact absurd hfresh (by simp [h.found])
  | multiReleased _ _ h => exact absurd hfresh (by simp [h.found])
  | administered _ _ h => exact absurd hfresh (by simp [h.found])

theorem Step.of_donate {donor : Address} {amount : ℤ} {asset : AssetInfo}
    (hcall : inv.call = .donate donor amount asset) :
    ∃ campaign token,
      CampaignContract.Donated (inv.env host) donor amount asset w next campaign token := by
  cases h with
  | donated _ hsame h =>
    obtain ⟨rfl, rfl, rfl⟩ : _ ∧ _ ∧ _ := by simpa using hcall.symm.trans hsame
    exact ⟨_, _, h⟩
  | administered _ hadministrative _ =>
    rw [hcall] at hadministrative
    exact absurd hadministrative Bool.false_ne_true
  | _ => simp_all

theorem Step.of_claimRefund {donor : Address} (hcall : inv.call = .claimRefund donor) :
    ∃ campaign record numerator,
      CampaignContract.Claimed (inv.env host) donor w next campaign record numerator := by
  cases h with
  | claimed _ hsame h =>
    obtain rfl : donor = _ := by simpa using hcall.symm.trans hsame
    exact ⟨_, _, _, h⟩
  | administered _ hadministrative _ =>
    rw [hcall] at hadministrative
    exact absurd hadministrative Bool.false_ne_true
  | _ => simp_all

theorem Step.of_releaseMilestone {index : ℕ} {recipient : Address}
    (hcall : inv.call = .releaseMilestone index recipient) :
    ∃ campaign milestone primary, ReleaseMilestone.Released (inv.env host) index recipient w next
      campaign milestone primary := by
  cases h with
  | released _ hsame h =>
    obtain ⟨rfl, rfl⟩ : _ ∧ _ := by simpa using hcall.symm.trans hsame
    exact ⟨_, _, _, h⟩
  | administered _ hadministrative _ =>
    rw [hcall] at hadministrative
    exact absurd hadministrative Bool.false_ne_true
  | _ => simp_all

theorem Step.of_releaseMilestoneMultiAsset {index : ℕ} {recipient : Address}
    (hcall : inv.call = .releaseMilestoneMultiAsset index recipient) :
    ∃ campaign milestone, MultiAssetRelease.Released (inv.env host) index recipient w next
      campaign milestone := by
  cases h with
  | multiReleased _ hsame h =>
    obtain ⟨rfl, rfl⟩ : _ ∧ _ := by simpa using hcall.symm.trans hsame
    exact ⟨_, _, h⟩
  | administered _ hadministrative _ =>
    rw [hcall] at hadministrative
    exact absurd hadministrative Bool.false_ne_true
  | _ => simp_all

theorem Step.of_administrative (hcall : inv.call.isAdministrative = true) :
    ∃ campaign endTime concluded, CampaignContract.Administered (inv.env host) w next campaign
      (inv.call.targetStatus campaign.status) endTime concluded := by
  cases h with
  | administered _ _ h => exact ⟨_, _, _, h⟩
  | initialized _ hsame _ _ | donated _ hsame _ | claimed _ hsame _ | released _ hsame _
  | multiReleased _ hsame _ =>
    rw [hsame] at hcall
    exact absurd hcall Bool.false_ne_true

end ByCall

/-- After a successful invocation there is a campaign. -/
theorem Step.wellTyped {host : Host} {inv : Invocation} {w next : World}
    (h : Step host (.invoke inv) w next) : inv.WellTyped := by
  cases h with
  | initialized typed | donated typed | claimed typed | released typed | multiReleased typed
  | administered typed => exact typed

theorem Step.campaign_isSome {host : Host} {inv : Invocation} {w next : World}
    (h : Step host (.invoke inv) w next) : next.storage.campaignData ≠ none := by
  cases h with
  | initialized _ _ _ h =>
    obtain ⟨report, hstorage⟩ := h.storage
    simp [hstorage]
  | donated _ _ h => simp [h.campaignData]
  | claimed _ _ h | released _ _ h | multiReleased _ _ h =>
    obtain ⟨report, -, hstorage⟩ := h.storage
    simp [hstorage, h.found]
  | administered _ _ h =>
    obtain ⟨frozen, blocked, report, hstorage⟩ := h.storage
    simp [hstorage]

theorem Step.untouched {host : Host} {action : Action} {w next : World}
    (h : Step host action w next) (huntouched : Untouched w.storage) :
    Untouched next.storage := by
  cases action with
  | transfer token source target amount =>
    cases h with
    | transferred _ _ hstorage => rwa [hstorage]
  | invoke inv => exact fun hnone ↦ absurd hnone h.campaign_isSome

/-- A run of the contract from its deployment beside a ledger of standard tokens. -/
abbrev CampaignRun (contract : Address) (overflowChecks : Bool) (ledger : Ledger Address Address)
    (wasmHash : BitVec 256) :
    List (Receipt Action World) → World → Prop :=
  Run (chain (standardHost contract overflowChecks)) (.deployed ledger wasmHash)

variable {ledger : Ledger Address Address} {wasmHash : BitVec 256}
  {history : List (Receipt Action World)} {w : World}

theorem CampaignRun.untouched
    (run : CampaignRun contract overflowChecks ledger wasmHash history w) :
    Untouched w.storage :=
  run.state_invariant (I := fun w ↦ Untouched w.storage) (fun _ ↦ rfl)
    fun _ _ _ hw hstep ↦ (step_of_exec hw hstep).untouched hw

/-- The induction rule for runs of the contract: a property of the history and the world holds
after every run when it holds at deployment and every `Step` keeps it. -/
theorem CampaignRun.induction {I : List (Receipt Action World) → World → Prop}
    (hstart : I [] (.deployed ledger wasmHash))
    (hstep : ∀ history w action next,
      CampaignRun contract overflowChecks ledger wasmHash history w → I history w →
      Step (standardHost contract overflowChecks) action w next →
      I (⟨action, w, next⟩ :: history) next)
    (run : CampaignRun contract overflowChecks ledger wasmHash history w) : I history w :=
  run.invariant hstart fun history w action next prior hI hexec ↦
    hstep history w action next prior hI (step_of_exec (CampaignRun.untouched prior) hexec)

/-- Every receipt of a run is a step from a state the run had reached. -/
theorem CampaignRun.step_of_mem
    (run : CampaignRun contract overflowChecks ledger wasmHash history w)
    {r : Receipt Action World} (hr : r ∈ history) :
    Step (standardHost contract overflowChecks) r.label r.before r.after ∧
      ∃ earlier, CampaignRun contract overflowChecks ledger wasmHash earlier r.before := by
  obtain ⟨hexec, earlier, hearlier⟩ := run.fired hr
  exact ⟨step_of_exec (CampaignRun.untouched hearlier) hexec, earlier, hearlier⟩

end Standard

/-! ### A sample chain

Addresses, a ledger and actions for concrete runs: every account but the contract starts with a
million of every token. -/

namespace Sample

def contract : Address := .contract 0

def creator : Address := .account 1

def donor : Address := .account 2

def secondDonor : Address := .account 3

def recipient : Address := .account 4

def token : Address := .contract 10

def ledger : Ledger Address Address where
  balance _ account := if account = contract then 0 else 1000000
  transfers := []
  balance_nonneg := by
    intro _ account
    split_ifs <;> decide
  amount_nonneg := by simp

/-- A locked milestone with nothing released. -/
def milestone (targetAmount : ℤ) : MilestoneData where
  index := 0
  targetAmount := targetAmount
  releasedAmount := 0
  descriptionHash := 0
  status := .locked
  releasedAt := none
  releasedAtLedger := none
  releaseTx := none
  releasedTo := none

/-- An invocation signed by one account. -/
def call (signer : Address) (call : Call) : Action := .invoke ⟨20, 2, [signer], call⟩

/-- The creator opens a campaign with a schedule whose last target is the goal. -/
def opening (assets : List StellarAsset) (milestones : List MilestoneData) (goalAmount : ℤ) :
    Action :=
  call creator (.initializeCampaign creator goalAmount 1000 assets milestones 0)

/-- A donor gives an amount of a token. -/
def giving (donor : Address) (amount : ℤ) (token : Address) : Action :=
  call donor (.donate donor amount (.stellar token))

def start : World := .deployed ledger 0

/-- The receipts of the actions that succeed, in order, on the bare chain. -/
def history (actions : List Action) : List (Receipt Action World) :=
  ((chain (standardHost contract true)).replay actions start).1

/-- The world the actions reach on the bare chain. -/
def reached (actions : List Action) : World :=
  ((chain (standardHost contract true)).replay actions start).2

theorem run (actions : List Action) :
    CampaignRun contract true ledger 0 (history actions) (reached actions) :=
  System.run_replay _ actions start

end Sample

end OrbitChain.Campaign
