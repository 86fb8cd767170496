import OrbitChain.Foundations.TransitionRuns

/-!
# Projections of runs

A part of a system has a system of its own: a step of the whole is a run of the part, which may
be empty, the step seen from there, or a series of moves that the part's environment can make.
`Run.project` puts these runs together. Of the receipts of the part, those that are visible are
told in advance (`own`): they are what the part itself did in a step of the whole, and the others
are moves of its environment.
-/

set_option autoImplicit false
set_option relaxedAutoImplicit false

namespace OrbitChain.Foundations

variable {Label State Failure : Type*} {Label' State' Failure' : Type*}
  {sys : System Label State Failure} {part : System Label' State' Failure'}

/-- A run from `before` to `after` whose visible receipts are `own`. -/
def RunShowing (part : System Label' State' Failure') (visible : Receipt Label' State' → Bool)
    (own : List (Receipt Label' State')) (before after : State') : Prop :=
  ∃ history, Run part before history after ∧ history.filter visible = own

namespace RunShowing

variable {visible : Receipt Label' State' → Bool} {own earlier later : List (Receipt Label' State')}
  {before middle after : State'}

theorem refl (state : State') : RunShowing part visible [] state state :=
  ⟨[], .start, rfl⟩

theorem trans (second : RunShowing part visible later middle after)
    (first : RunShowing part visible earlier before middle) :
    RunShowing part visible (later ++ earlier) before after := by
  obtain ⟨new, hnew, rfl⟩ := second
  obtain ⟨old, hold, rfl⟩ := first
  exact ⟨new ++ old, hold.append hnew, List.filter_append ..⟩

/-- A visible step shows itself. -/
theorem shown {label : Label'} (step : part.exec label before = .ok after)
    (hvisible : visible ⟨label, before, after⟩ = true) :
    RunShowing part visible [⟨label, before, after⟩] before after :=
  ⟨[⟨label, before, after⟩], Run.start.accept step, by simp [hvisible]⟩

/-- A step that is not visible shows nothing. -/
theorem hidden {label : Label'} (step : part.exec label before = .ok after)
    (hhidden : visible ⟨label, before, after⟩ = false) :
    RunShowing part visible [] before after :=
  ⟨[⟨label, before, after⟩], Run.start.accept step, by simp [hhidden]⟩

end RunShowing

/-- A run of the whole is a run of the part when every step is, on the states that an invariant of
the whole holds in. The visible receipts of the part are those that the steps tell. -/
theorem Run.project (I : State → Prop) (view : State → State')
    {visible : Receipt Label' State' → Bool}
    {own : Receipt Label State → List (Receipt Label' State')} {start state : State}
    {history : List (Receipt Label State)} (hstart : I start)
    (hstep : ∀ label before after, I before → sys.exec label before = .ok after → I after ∧
      RunShowing part visible (own ⟨label, before, after⟩) (view before) (view after))
    (run : Run sys start history state) :
    I state ∧ RunShowing part visible (history.flatMap own) (view start) (view state) := by
  induction run with
  | start => exact ⟨hstart, .refl (view start)⟩
  | accept _ step ih =>
    obtain ⟨hafter, hshown⟩ := hstep _ _ _ ih.1 step
    exact ⟨hafter, hshown.trans ih.2⟩
  | reject _ _ ih => exact ih

end OrbitChain.Foundations
