import OrbitChain.Foundations.TransitionRuns

/-!
# Logs that steps append to

A log is a list in the state that successful steps append to and never rewrite. What a step
appended is read off its receipt, and the log a run reached is what its receipts appended, oldest
first, after the log it started from.
-/

set_option autoImplicit false
set_option relaxedAutoImplicit false

namespace OrbitChain.Foundations

variable {Label State Failure Entry : Type*}

/-- The entries that a step appended to a log. -/
def appended (log : State → List Entry) (r : Receipt Label State) : List Entry :=
  (log r.after).drop (log r.before).length

theorem appended_eq {log : State → List Entry} {r : Receipt Label State} {new : List Entry}
    (h : log r.after = log r.before ++ new) : appended log r = new := by
  rw [appended, h, List.drop_left]

/-- Every step of a run appends to the log. -/
def AppendsTo (sys : System Label State Failure) (start : State) (log : State → List Entry) :
    Prop :=
  ∀ history state label next, Run sys start history state → sys.exec label state = .ok next →
    log state <+: log next

/-- The log a run reached is what its receipts appended. -/
theorem Run.log_eq {sys : System Label State Failure} {start state : State}
    {log : State → List Entry} {history : List (Receipt Label State)}
    (run : Run sys start history state) (happends : AppendsTo sys start log) :
    log state = log start ++ history.reverse.flatMap (appended log) := by
  induction run with
  | start => exact (List.append_nil _).symm
  | accept prior step ih =>
    obtain ⟨new, hnew⟩ := happends _ _ _ _ prior step
    rw [List.reverse_cons, List.flatMap_append, ← List.append_assoc, ← ih, List.flatMap_singleton,
      appended_eq hnew.symm]
    exact hnew.symm
  | reject _ _ ih => exact ih

end OrbitChain.Foundations
