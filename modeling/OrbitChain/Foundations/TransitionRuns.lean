import OrbitChain.Foundations.ExceptSteps
import Mathlib.Data.List.Basic
import Mathlib.Data.List.Pairwise

/-!
# Serial runs of a fallible system

A system offers labelled steps that either succeed with a next state or fail. A `Run` is a serial
history: successful steps move the state and leave a receipt, failed steps are rolled back and
leave nothing. Receipts are kept newest first, so the head of a history is the last success and
sums over a history are sums over a list.

`Run.invariant` is the induction rule: what holds at the start and survives every successful step
holds after every run. `Run.split` cuts a run at one of its receipts and `Run.append` joins two
runs. `replay` executes a list of labels, which is how concrete runs are produced, `attempts` lists
everything it tries, failures included, and `guarded` refuses some labels outright. `Throughout`
says of a history that every receipt of it has a property. `MarksOnce` is the pattern of steps that
can be taken once for each key: they need the key unmarked, mark it, and no step takes a mark back
(`Run.once`).
-/

set_option autoImplicit false
set_option relaxedAutoImplicit false

namespace OrbitChain.Foundations

/-- A system of fallible steps. -/
structure System (Label State Failure : Type*) where
  exec : Label → State → Except Failure State

/-- A successful step: its label, the state it started from and the state it left. -/
structure Receipt (Label State : Type*) where
  label : Label
  before : State
  after : State

variable {Label State Failure : Type*}

/-- Serial runs from a start state, with the receipts of the successful steps, newest first. -/
inductive Run (sys : System Label State Failure) (start : State) :
    List (Receipt Label State) → State → Prop
  | start : Run sys start [] start
  | accept {history : List (Receipt Label State)} {state next : State} {label : Label}
      (prior : Run sys start history state) (step : sys.exec label state = .ok next) :
      Run sys start (⟨label, state, next⟩ :: history) next
  | reject {history : List (Receipt Label State)} {state : State} {label : Label}
      {failure : Failure} (prior : Run sys start history state)
      (step : sys.exec label state = .error failure) : Run sys start history state

namespace Run

variable {sys : System Label State Failure} {start middle state : State}
variable {history earlier later : List (Receipt Label State)}

/-- The induction rule for properties of a history and the state it reached. -/
theorem invariant {I : List (Receipt Label State) → State → Prop} (hstart : I [] start)
    (hstep : ∀ history state label next, Run sys start history state → I history state →
      sys.exec label state = .ok next → I (⟨label, state, next⟩ :: history) next)
    (run : Run sys start history state) : I history state := by
  induction run with
  | start => exact hstart
  | accept prior step ih => exact hstep _ _ _ _ prior ih step
  | reject _ _ ih => exact ih

/-- The induction rule for properties of the reached state alone. -/
theorem state_invariant {I : State → Prop} (hstart : I start)
    (hstep : ∀ label state next, I state → sys.exec label state = .ok next → I next)
    (run : Run sys start history state) : I state :=
  run.invariant (I := fun _ reached ↦ I reached) hstart
    fun _ state label next _ hI step ↦ hstep label state next hI step

/-- A run without receipts has not moved. -/
theorem eq_start (run : Run sys start [] state) : state = start := by
  generalize hnil : ([] : List (Receipt Label State)) = empty at run
  induction run with
  | start => rfl
  | accept => simp at hnil
  | reject _ _ ih => exact ih hnil

/-- A run cut at one of its receipts: the run before it, the step itself and the run after it. -/
theorem split {r : Receipt Label State} (run : Run sys start (later ++ r :: earlier) state) :
    Run sys start earlier r.before ∧ sys.exec r.label r.before = .ok r.after ∧
      Run sys r.after later state := by
  generalize hwhole : later ++ r :: earlier = whole at run
  induction run generalizing later with
  | start => simp at hwhole
  | accept prior step ih =>
    cases later with
    | nil =>
      simp only [List.nil_append, List.cons.injEq] at hwhole
      obtain ⟨rfl, rfl⟩ := hwhole
      exact ⟨prior, step, .start⟩
    | cons head rest =>
      simp only [List.cons_append, List.cons.injEq] at hwhole
      obtain ⟨rfl, hrest⟩ := hwhole
      obtain ⟨hearlier, hfired, hlater⟩ := ih hrest
      exact ⟨hearlier, hfired, hlater.accept step⟩
  | reject prior step ih =>
    obtain ⟨hearlier, hfired, hlater⟩ := ih hwhole
    exact ⟨hearlier, hfired, hlater.reject step⟩

/-- Every receipt fired from a state that an earlier part of the run reached. -/
theorem fired {r : Receipt Label State} (run : Run sys start history state)
    (hr : r ∈ history) :
    sys.exec r.label r.before = .ok r.after ∧ ∃ earlier, Run sys start earlier r.before := by
  obtain ⟨later, earlier, rfl⟩ := List.append_of_mem hr
  obtain ⟨hearlier, hfired, -⟩ := run.split
  exact ⟨hfired, earlier, hearlier⟩

/-- A run can be continued from the state it reached. -/
theorem append (first : Run sys start earlier middle) (second : Run sys middle later state) :
    Run sys start (later ++ earlier) state := by
  induction second with
  | start => exact first
  | accept _ step ih => exact ih.accept step
  | reject _ step ih => exact ih.reject step

end Run

/-- Every receipt of a history has a property that may depend on the receipts before it. -/
def Throughout (P : List (Receipt Label State) → Receipt Label State → Prop) :
    List (Receipt Label State) → Prop
  | [] => True
  | r :: earlier => P earlier r ∧ Throughout P earlier

instance decidableThroughout {P : List (Receipt Label State) → Receipt Label State → Prop}
    [∀ earlier r, Decidable (P earlier r)] :
    (history : List (Receipt Label State)) → Decidable (Throughout P history)
  | [] => inferInstanceAs (Decidable True)
  | _ :: earlier =>
    have : Decidable (Throughout P earlier) := decidableThroughout earlier
    inferInstanceAs (Decidable (_ ∧ _))

theorem Throughout.of_mem {P : List (Receipt Label State) → Receipt Label State → Prop}
    {history : List (Receipt Label State)} (h : Throughout P history) {r : Receipt Label State}
    (hr : r ∈ history) : ∃ earlier, P earlier r := by
  induction history with
  | nil => exact absurd hr List.not_mem_nil
  | cons head earlier ih =>
    rcases List.mem_cons.mp hr with rfl | hr
    · exact ⟨earlier, h.1⟩
    · exact ih h.2 hr

/-- Two properties hold throughout the same runs when they agree on every step up to which both
held throughout. -/
theorem Run.throughout_iff {sys : System Label State Failure} {start state : State}
    {history : List (Receipt Label State)}
    {P Q : List (Receipt Label State) → Receipt Label State → Prop}
    (run : Run sys start history state)
    (hstep : ∀ history state label next, Run sys start history state →
      Throughout P history → Throughout Q history → sys.exec label state = .ok next →
        (P history ⟨label, state, next⟩ ↔ Q history ⟨label, state, next⟩)) :
    Throughout P history ↔ Throughout Q history := by
  induction run with
  | start => exact Iff.rfl
  | accept prior step ih =>
    unfold Throughout
    rw [← ih]
    exact and_congr_left fun hp ↦ hstep _ _ _ _ prior hp (ih.mp hp) step
  | reject _ _ ih => exact ih

/-- Steps with a key that happen once: on every state that runs reach, such a step finds its key
unmarked and marks it, and marks stay. -/
structure MarksOnce {Key : Type*} (sys : System Label State Failure) (start : State)
    (key : Label → Option Key) (Marked : Key → State → Prop) : Prop where
  fresh {history : List (Receipt Label State)} {label : Label} {state next : State} {k : Key}
    (prior : Run sys start history state) (step : sys.exec label state = .ok next)
    (hkey : key label = some k) : ¬ Marked k state
  marks {history : List (Receipt Label State)} {label : Label} {state next : State} {k : Key}
    (prior : Run sys start history state) (step : sys.exec label state = .ok next)
    (hkey : key label = some k) : Marked k next
  keeps {history : List (Receipt Label State)} {label : Label} {state next : State} {k : Key}
    (prior : Run sys start history state) (step : sys.exec label state = .ok next)
    (marked : Marked k state) : Marked k next

namespace Run

variable {Key : Type*} {sys : System Label State Failure} {start state : State}
  {history : List (Receipt Label State)} {key : Label → Option Key} {Marked : Key → State → Prop}

/-- The key of every step of a run is marked at its end. -/
theorem marked_of_mem (hsys : MarksOnce sys start key Marked)
    (run : Run sys start history state) :
    ∀ r ∈ history, ∀ k, key r.label = some k → Marked k state := by
  induction run with
  | start => simp
  | reject _ _ ih => exact ih
  | accept prior step ih =>
    intro r hr k hk
    rcases List.mem_cons.mp hr with rfl | hr
    · exact hsys.marks prior step hk
    · exact hsys.keeps prior step (ih r hr k hk)

/-- No two steps of a run have the same key. -/
theorem once (hsys : MarksOnce sys start key Marked) (run : Run sys start history state) :
    history.Pairwise fun later earlier ↦
      ∀ k, key later.label = some k → key earlier.label ≠ some k := by
  induction run with
  | start => exact .nil
  | reject _ _ ih => exact ih
  | accept prior step ih =>
    exact .cons (fun earlier hearlier k hlater hkey ↦
      hsys.fresh prior step hlater (prior.marked_of_mem hsys earlier hearlier k hkey)) ih

/-- The keys of the steps of a run are distinct. -/
theorem keys_nodup (hsys : MarksOnce sys start key Marked) (run : Run sys start history state) :
    (history.filterMap fun r ↦ key r.label).Nodup := by
  rw [List.Nodup, List.pairwise_filterMap]
  refine (run.once hsys).imp fun honce k hk k' hk' heq ↦ ?_
  exact honce k hk (heq ▸ hk')

/-- The step with a key is determined by the key. -/
theorem eq_of_key (hsys : MarksOnce sys start key Marked) (run : Run sys start history state)
    {r r' : Receipt Label State} (hr : r ∈ history) (hr' : r' ∈ history) {k : Key}
    (hk : key r.label = some k) (hk' : key r'.label = some k) : r = r' := by
  have hsymm : Std.Symm fun later earlier : Receipt Label State ↦
      ∀ k, key later.label = some k → key earlier.label ≠ some k :=
    ⟨fun _ _ h k hearlier hlater ↦ h k hlater hearlier⟩
  by_contra hne
  exact (run.once hsys).forall hr hr' hne k hk hk'

end Run

namespace System

variable (sys : System Label State Failure)

/-- Execute labels in order, rolling back the ones that fail. -/
def replay : List Label → State → List (Receipt Label State) × State
  | [], state => ([], state)
  | label :: rest, state =>
    match sys.exec label state with
    | .ok next =>
      ((replay rest next).1 ++ [⟨label, state, next⟩], (replay rest next).2)
    | .error _ => replay rest state

/-- The labels a replay attempts, each with the state it is attempted in. -/
def attempts : List Label → State → List (Label × State)
  | [], _ => []
  | label :: rest, state =>
    (label, state) ::
      match sys.exec label state with
      | .ok next => attempts rest next
      | .error _ => attempts rest state

/-- Execute labels in order, stopping at the first failure. -/
def execAll : List Label → State → Except Failure State
  | [], state => .ok state
  | label :: rest, state => do
    let next ← sys.exec label state
    execAll rest next

theorem replay_cons_of_ok {label : Label} {state next : State}
    (h : sys.exec label state = .ok next) (rest : List Label) :
    sys.replay (label :: rest) state =
      ((sys.replay rest next).1 ++ [⟨label, state, next⟩], (sys.replay rest next).2) := by
  simp only [replay, h]

theorem replay_cons_of_error {label : Label} {state : State} {failure : Failure}
    (h : sys.exec label state = .error failure) (rest : List Label) :
    sys.replay (label :: rest) state = sys.replay rest state := by
  simp only [replay, h]

/-- A replay leaves a receipt for every attempt that succeeds, and no others. -/
theorem mem_replay_iff {labels : List Label} {state : State} {r : Receipt Label State} :
    r ∈ (sys.replay labels state).1 ↔
      (r.label, r.before) ∈ sys.attempts labels state ∧
        sys.exec r.label r.before = .ok r.after := by
  obtain ⟨firedLabel, before, after⟩ := r
  induction labels generalizing state with
  | nil => simp [replay, attempts]
  | cons label rest ih =>
    unfold attempts
    rw [List.mem_cons, Prod.mk.injEq, or_and_right]
    cases hstep : sys.exec label state with
    | ok next =>
      rw [sys.replay_cons_of_ok hstep, List.mem_append, ih, or_comm, List.mem_singleton]
      refine or_congr_left ?_
      rw [Receipt.mk.injEq]
      constructor
      · rintro ⟨rfl, rfl, rfl⟩
        exact ⟨⟨rfl, rfl⟩, hstep⟩
      · rintro ⟨⟨rfl, rfl⟩, hfired⟩
        exact ⟨rfl, rfl, Except.ok.inj (hfired.symm.trans hstep)⟩
    | error failure =>
      rw [sys.replay_cons_of_error hstep, ih]
      refine (or_iff_right ?_).symm
      rintro ⟨⟨rfl, rfl⟩, hfired⟩
      exact absurd (hstep.symm.trans hfired) (by simp)

/-- An attempt is made in the state that the labels before it were replayed to. -/
theorem getElem?_attempts (labels : List Label) (state : State) (i : ℕ) :
    (sys.attempts labels state)[i]? =
      labels[i]?.map fun label ↦ (label, (sys.replay (labels.take i) state).2) := by
  induction labels generalizing state i with
  | nil => rfl
  | cons label rest ih =>
    unfold attempts
    cases i with
    | zero => rfl
    | succ i =>
      rw [List.getElem?_cons_succ, List.getElem?_cons_succ, List.take_succ_cons]
      cases hstep : sys.exec label state with
      | ok next => rw [ih, sys.replay_cons_of_ok hstep]
      | error failure => rw [ih, sys.replay_cons_of_error hstep]

theorem length_attempts (labels : List Label) (state : State) :
    (sys.attempts labels state).length = labels.length := by
  induction labels generalizing state with
  | nil => rfl
  | cons label rest ih =>
    unfold attempts
    rw [List.length_cons, List.length_cons]
    cases sys.exec label state with
    | ok next => rw [ih]
    | error failure => rw [ih]

/-- When every label executes in sequence, the replay ends in the same state and every attempt
succeeds. -/
theorem replay_of_execAll {labels : List Label} {state final : State}
    (h : sys.execAll labels state = .ok final) :
    (sys.replay labels state).2 = final ∧
      ∀ a ∈ sys.attempts labels state, ∃ next, sys.exec a.1 a.2 = .ok next := by
  induction labels generalizing state with
  | nil => exact ⟨Except.ok.inj h, by simp [attempts]⟩
  | cons label rest ih =>
    unfold execAll at h
    cases hstep : sys.exec label state with
    | error failure => simp [hstep, bind, Except.bind] at h
    | ok next =>
      rw [hstep] at h
      obtain ⟨hfinal, hattempts⟩ := ih h
      unfold attempts
      rw [sys.replay_cons_of_ok hstep]
      refine ⟨hfinal, fun a ha ↦ ?_⟩
      rw [hstep] at ha
      rcases List.mem_cons.mp ha with rfl | ha
      · exact ⟨next, hstep⟩
      · exact hattempts a ha

/-- The system with its failures renamed. -/
def mapFailure {Failure' : Type*} (f : Failure → Failure') : System Label State Failure' where
  exec label state := (sys.exec label state).mapError f

theorem exec_mapFailure_eq_ok_iff {Failure' : Type*} {f : Failure → Failure'} {label : Label}
    {state next : State} :
    (sys.mapFailure f).exec label state = .ok next ↔ sys.exec label state = .ok next := by
  cases hexec : sys.exec label state <;> simp [mapFailure, hexec, Except.mapError]

theorem execAll_mapFailure_eq_ok_iff {Failure' : Type*} {f : Failure → Failure'}
    {labels : List Label} {state final : State} :
    (sys.mapFailure f).execAll labels state = .ok final ↔ sys.execAll labels state = .ok final := by
  induction labels generalizing state with
  | nil => simp [execAll]
  | cons label rest ih =>
    simp only [execAll, bind_eq_ok_iff, exec_mapFailure_eq_ok_iff, ih]

/-- The system that refuses some labels. -/
def guarded (accepts : Label → Prop) [DecidablePred accepts] (refusal : Failure) :
    System Label State Failure where
  exec label state := if accepts label then sys.exec label state else .error refusal

/-- A guarded sequence succeeds when all its labels are accepted and the sequence succeeds. -/
theorem execAll_guarded_eq_ok_iff {accepts : Label → Prop} [DecidablePred accepts]
    {refusal : Failure} {labels : List Label} {state final : State} :
    (sys.guarded accepts refusal).execAll labels state = .ok final ↔
      (∀ label ∈ labels, accepts label) ∧ sys.execAll labels state = .ok final := by
  induction labels generalizing state with
  | nil => simp [execAll]
  | cons label rest ih =>
    unfold execAll
    rw [List.forall_mem_cons, and_assoc]
    by_cases haccepts : accepts label
    · have hexec : (sys.guarded accepts refusal).exec label state = sys.exec label state :=
        if_pos haccepts
      rw [hexec, and_iff_right haccepts]
      cases sys.exec label state with
      | ok next => exact ih
      | error failure => simp [bind, Except.bind]
    · have hexec : (sys.guarded accepts refusal).exec label state = .error refusal :=
        if_neg haccepts
      rw [hexec]
      simp [haccepts, bind, Except.bind]

/-- Replaying labels is a run. -/
theorem run_replay (labels : List Label) (state : State) :
    Run sys state (sys.replay labels state).1 (sys.replay labels state).2 := by
  induction labels generalizing state with
  | nil => exact .start
  | cons label rest ih =>
    cases hstep : sys.exec label state with
    | ok next =>
      rw [sys.replay_cons_of_ok hstep]
      exact (Run.start.accept hstep).append (ih next)
    | error failure =>
      rw [sys.replay_cons_of_error hstep]
      simpa using (Run.start.reject hstep).append (ih state)

end System

end OrbitChain.Foundations
