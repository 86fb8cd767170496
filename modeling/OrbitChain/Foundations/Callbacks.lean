import OrbitChain.Foundations.TransitionRuns

/-!
# Systems that call back

An open system executes calls with the help of a client, code of somebody else that it invokes along
the way. A client may return from a state in other states (`Returns`), and what it does in between
is, for a reentrant client, a run of the same system: moves of its own and calls, executed with
clients that may call back again. Failed calls are rolled back, as in every run.

`ReentrantTo` bounds the depth of the nesting and `Reentrant` leaves it open. The rule for guarded
states is `Reentrant.guarded`: what every move and every call keeps, whatever its client does, holds
again when the client returns.
-/

set_option autoImplicit false
set_option relaxedAutoImplicit false

namespace OrbitChain.Foundations

/-- A system whose calls are executed with a client, beside moves that are not its own. -/
structure OpenSystem (Client Call Move State Failure : Type*) where
  exec : Client → Call → State → Except Failure State
  move : Move → State → State
  Returns : Client → State → State → Prop

/-- What happens around an open system: a call with an admitted client, or a move. -/
inductive Interaction {Client : Type*} (Call Move : Type*) (Admitted : Client → Prop)
  | call (client : Subtype Admitted) (call : Call)
  | move (move : Move)

namespace Interaction

variable {Client Call Move : Type*} {Admitted : Client → Prop}

/-- The interaction is a call of a kind. -/
def calls (kind : Call → Bool) : Interaction Call Move Admitted → Bool
  | .call _ c => kind c
  | .move _ => false

/-- The key of an interaction, by the key of its call. -/
def key {Key : Type*} (callKey : Call → Option Key) :
    Interaction Call Move Admitted → Option Key
  | .call _ c => callKey c
  | .move _ => none

end Interaction

namespace OpenSystem

variable {Client Call Move State Failure : Type*}
  (sys : OpenSystem Client Call Move State Failure)

/-- The system with the clients it admits. -/
def closed (Admitted : Client → Prop) :
    System (Interaction Call Move Admitted) State Failure where
  exec
    | .call client call, state => sys.exec client.1 call state
    | .move move, state => .ok (sys.move move state)

/-- The client returns after a run in which calls are nested less than `depth` deep. -/
def ReentrantTo : ℕ → Client → Prop
  | 0, _ => False
  | depth + 1, client => ∀ state next, sys.Returns client state next →
      ∃ history, Run (sys.closed (ReentrantTo depth)) state history next

/-- The client returns after runs whose calls are nested to some depth. -/
def Reentrant (client : Client) : Prop := ∃ depth, sys.ReentrantTo depth client

variable {sys}

/-- What moves and calls keep, whatever the clients of the calls do, holds again when a reentrant
client returns. -/
theorem Reentrant.guarded {I : State → Prop}
    (hmove : ∀ move state, I state → I (sys.move move state))
    (hcall : ∀ client call state next, I state → sys.exec client call state = .ok next → I next)
    {client : Client} (hclient : sys.Reentrant client) {state next : State}
    (hreturns : sys.Returns client state next) (hstate : I state) : I next := by
  obtain ⟨depth, hdepth⟩ := hclient
  cases depth with
  | zero => exact hdepth.elim
  | succ depth =>
    obtain ⟨history, run⟩ := hdepth state next hreturns
    refine run.state_invariant hstate fun label before after hbefore hexec ↦ ?_
    cases label with
    | call client call => exact hcall client.1 call before after hbefore hexec
    | move move =>
      obtain rfl := Except.ok.inj hexec
      exact hmove move before hbefore

end OpenSystem

end OrbitChain.Foundations
