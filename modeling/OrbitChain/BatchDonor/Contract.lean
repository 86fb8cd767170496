import OrbitChain.Campaign.Types
import OrbitChain.Foundations.ExceptSteps
import OrbitChain.Foundations.TransitionRuns

/-!
# The batch donor contract

One call donates to many campaigns, either all or nothing (`batchDonate`) or as far as it goes
(`batchDonateContinueOnError`). The contract keeps no storage. What it calls is a system of
donations (`campaigns`): any contract with a `donate` entrypoint that returns nothing may stand
behind a target, and its call moves the state of the ledger or fails. A failed call leaves no
effect: the host rolls back the failed call of a `try_invoke_contract` alone and the whole
transaction of a failed `invoke_contract`.
-/

set_option autoImplicit false
set_option relaxedAutoImplicit false

namespace OrbitChain.BatchDonor

open Foundations
open OrbitChain.Campaign (Address)

/-- The asset of a donation, as the campaign contract declares it. -/
inductive AssetInfo
  | native
  | stellar (address : Address)
  deriving DecidableEq

/-- A single donation target inside a batch. -/
structure DonateTarget where
  campaign : Address
  donor : Address
  amount : ℤ
  asset : AssetInfo
  deriving DecidableEq

/-- Per-target outcome of a batched call. -/
inductive BatchDonateOutcome
  | success
  | validationFailed (code : ℕ)
  | invocationFailed
  deriving DecidableEq

structure BatchDonateResult where
  index : ℕ
  outcome : BatchDonateOutcome
  validationCode : Option ℕ
  deriving DecidableEq

namespace ValidationCode

def invalidAmount : ℕ := 3

def emptyBatch : ℕ := 4

def batchTooLarge : ℕ := 5

end ValidationCode

/-- Hard ceiling on the number of targets. -/
def maxBatchSize : ℕ := 50

/-- The error the contract panics with. -/
inductive ValidationError
  | batchEmpty
  | batchTooLarge
  | invalidAmount
  deriving DecidableEq

/-- Every validation code is reported under the first error. -/
def ValidationError.fromCode (_code : ℕ) : ValidationError := .batchEmpty

/-- Why a transaction failed. -/
inductive Failure (E : Type)
  | auth
  | validation (error : ValidationError)
  | invocation (error : E)
  deriving DecidableEq

section Batch

variable {S E : Type} (campaigns : System DonateTarget S E)

def panicWithCode (code : ℕ) : Failure E := .validation (.fromCode code)

/-- The address signed for the transaction. -/
def requireAuth (authorisers : List Address) (address : Address) : Except (Failure E) Unit :=
  failIf (address ∉ authorisers) .auth

/-- Whole-batch validation gate. -/
def preValidate (targets : List DonateTarget) : Except (Failure E) Unit := do
  failIf (targets = []) (panicWithCode ValidationCode.emptyBatch)
  failIf (maxBatchSize < targets.length) (panicWithCode ValidationCode.batchTooLarge)
  targets.forM fun target ↦
    failIf (target.amount ≤ 0) (panicWithCode ValidationCode.invalidAmount)

/-- The validation code of a target, if it fails validation. -/
def validate (target : DonateTarget) : Option ℕ :=
  if target.amount ≤ 0 then some ValidationCode.invalidAmount else none

/-- The gate that collects validation codes instead of failing on them. -/
def preValidateCollect (targets : List DonateTarget) : Except (Failure E) (List (Option ℕ)) := do
  failIf (targets = []) (panicWithCode ValidationCode.emptyBatch)
  failIf (maxBatchSize < targets.length) (panicWithCode ValidationCode.batchTooLarge)
  pure (targets.map validate)

/-- Call a campaign; its failure fails the transaction. -/
def invokeCampaignDonate (target : DonateTarget) (s : S) : Except (Failure E) S :=
  (campaigns.exec target s).mapError .invocation

/-- Call a campaign and catch its failure, whose effects are rolled back. -/
def tryInvokeCampaignDonate (target : DonateTarget) (s : S) : Except Unit Unit × S :=
  match campaigns.exec target s with
  | .ok next => (.ok (), next)
  | .error _ => (.error (), s)

/-- The loop of the atomic mode over the targets from an index on. -/
def invokeFrom : ℕ → List DonateTarget → List BatchDonateResult → S →
    Except (Failure E) (List BatchDonateResult × S)
  | _, [], results, s => .ok (results, s)
  | index, target :: rest, results, s => do
    let s ← invokeCampaignDonate campaigns target s
    invokeFrom (index + 1) rest (results ++ [⟨index, .success, none⟩]) s

def batchDonateAtomic (targets : List DonateTarget) (s : S) :
    Except (Failure E) (List BatchDonateResult × S) := do
  preValidate targets
  invokeFrom campaigns 0 targets [] s

/-- The loop of the best-effort mode over the targets from an index on, with the validation codes
of all targets. -/
def tryInvokeFrom (pre : List (Option ℕ)) : ℕ → List DonateTarget → List BatchDonateResult → S →
    List BatchDonateResult × S
  | _, [], results, s => (results, s)
  | index, target :: rest, results, s =>
    match pre[index]? with
    | some (some code) =>
      tryInvokeFrom pre (index + 1) rest
        (results ++ [⟨index, .validationFailed code, some code⟩]) s
    | _ =>
      match tryInvokeCampaignDonate campaigns target s with
      | (.ok (), s) =>
        tryInvokeFrom pre (index + 1) rest (results ++ [⟨index, .success, none⟩]) s
      | (.error (), s) =>
        tryInvokeFrom pre (index + 1) rest (results ++ [⟨index, .invocationFailed, none⟩]) s

def batchDonateBestEffort (targets : List DonateTarget) (s : S) :
    Except (Failure E) (List BatchDonateResult × S) := do
  let pre ← preValidateCollect targets
  pure (tryInvokeFrom campaigns pre 0 targets [] s)

/-! ### Entrypoints -/

/-- Atomic multi-campaign donation. -/
def batchDonate (authorisers : List Address) (operator : Address) (targets : List DonateTarget)
    (s : S) : Except (Failure E) (List BatchDonateResult × S) := do
  requireAuth authorisers operator
  batchDonateAtomic campaigns targets s

/-- Best-effort multi-campaign donation. -/
def batchDonateContinueOnError (authorisers : List Address) (operator : Address)
    (targets : List DonateTarget) (s : S) :
    Except (Failure E) (List BatchDonateResult × S) := do
  requireAuth authorisers operator
  batchDonateBestEffort campaigns targets s

/-- The state a transaction leaves: the host rolls a failed one back. -/
def stateAfter (transaction : S → Except (Failure E) (List BatchDonateResult × S)) (s : S) : S :=
  match transaction s with
  | .ok (_, next) => next
  | .error _ => s

end Batch

end OrbitChain.BatchDonor
