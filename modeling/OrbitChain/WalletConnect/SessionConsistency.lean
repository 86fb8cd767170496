import OrbitChain.WalletConnect.SessionSteps

/-!
# When a wallet session is consistent

A session is consistent when an attempt from before the last disconnect connects nothing, when the
failure of an attempt that others have followed ends no connection, and when the flag says what the
page and the last event say. The controller does not tell attempts apart, so a run is consistent
exactly when the promises and the callers are in order (`session_consistent_iff`).
-/

set_option autoImplicit false
set_option relaxedAutoImplicit false

namespace OrbitChain.WalletConnect

open Foundations

variable {s next : SessionState}

/-! ### Consistency -/

/-- The flag is set exactly when the page shows a connection and the last event was one. -/
def InStep (s : SessionState) : Prop :=
  s.connected = true ↔ (lastView s.log).any View.isConnected = true ∧
    (lastEvent s.log).any Event.isConnection = true

/-- The effects of a step. -/
def effects (r : Receipt Step SessionState) : List Effect :=
  r.after.log.take (r.after.log.length - r.before.log.length)

theorem effects_eq {new : List Effect} {r : Receipt Step SessionState}
    (h : r.after.log = new ++ r.before.log) : effects r = new := by
  rw [effects, h, List.length_append, Nat.add_sub_cancel, List.take_left]

/-! ### Attempts -/

/-- The attempt started before the last disconnect. -/
def Stale (attempt : Attempt) (s : SessionState) : Prop := attempt.disconnects < s.disconnects

/-- The attempt was followed by another one or by a disconnect. -/
def Superseded (attempt : Attempt) (s : SessionState) : Prop :=
  attempt.start < s.starts ∨ Stale attempt s

/-- The attempt that a step continues. -/
def actor (s : SessionState) : Step → Option Attempt
  | .settle start _ _ => (s.awaited start).map Pending.attempt
  | .confirmWallet _ _ | .cancelPicker _ => s.walletPicker
  | .selectWallet _ | .cancelChooser _ => s.desktopChooser.map Prod.fst
  | .submitAddress _ _ | .cancelManualForm _ => s.manualForm
  | .initializeSession _ _ | .connect _ | .disconnect _ | .handleAction _ _ => none

/-- What a step of the session should do. -/
structure Consistent (page : Page) (r : Receipt Step SessionState) : Prop where
  stale_silent : ∀ attempt, actor r.before r.label = some attempt → Stale attempt r.before →
    ∀ effect ∈ effects r, effect.connects = false
  superseded_harmless : ∀ start outcome faults pending, r.label = .settle start outcome faults →
    r.before.awaited start = some pending → Fails page pending.kind outcome →
      Superseded pending.attempt r.before → r.before.connected = true → r.after.connected = true
  inStep : InStep r.after

/-- The controller is started, and asked to connect, while not connected; a promise from before the
last disconnect ends in an error; and one that was followed by another attempt does not while the
session is connected. -/
def Orderly (page : Page) (r : Receipt Step SessionState) : Prop :=
  match r.label with
  | .initializeSession _ _ | .connect _ => r.before.connected = false
  | .settle start outcome _ => ∀ pending, r.before.awaited start = some pending →
      pending.kind.connects = true →
        (Stale pending.attempt r.before → Fails page pending.kind outcome) ∧
        (Superseded pending.attempt r.before → r.before.connected = true →
          ¬ Fails page pending.kind outcome)
  | _ => True

/-! ### The flag, the page and the events -/

theorem Reports.inStep_iff (h : Reports s next) : InStep next ↔ InStep s := by
  obtain ⟨new, hlog, hnew⟩ := h.log_eq
  rw [InStep, InStep, hlog, h.connected_eq, lastView_append, lastEvent_append,
    lastView_eq_none hnew, lastEvent_eq_none hnew, Option.none_or, Option.none_or]

theorem Waits.inStep_iff (h : Waits s next) : InStep next ↔ s.connected = false := by
  obtain ⟨new, hlog, hquiet, shown, hshown⟩ := h.log_eq
  obtain ⟨last, hlast, hother⟩ := lastView_of_quiet hquiet hshown
  rw [InStep, hlog, h.connected_eq, lastView_append, hlast, Option.some_or, Option.any_some, hother]
  simp

theorem Surfaces.inStep (h : Surfaces s next) : InStep next := by
  obtain ⟨event, publicKey, statusText, writes, hevent, hlog⟩ := h.log_eq
  rw [InStep, hlog, h.connected_eq]
  simp [lastView, lastEvent, View.isConnected, hevent]

theorem Clears.inStep (h : Clears s next) : InStep next := by
  obtain ⟨new, hlog, -, hview, hsome⟩ := h.log_eq
  obtain ⟨last, hlast⟩ := Option.isSome_iff_exists.mp hsome
  rw [hlast] at hview
  rw [InStep, hlog, h.connected_eq, lastView_append, hlast, Option.some_or, hview]
  simp

/-! ### Steady sessions -/

/-- The flag is in step with the page and the events, and dialogs are only open while not connected,
for attempts that no disconnect has followed. -/
structure Steady (s : SessionState) : Prop where
  inStep : InStep s
  disconnected : ∀ attempt ∈ s.openDialogs, s.connected = false
  current : ∀ attempt ∈ s.openDialogs, attempt.disconnects = s.disconnects

theorem steady_fresh (storage : Option StoredValue) : Steady (.fresh storage) where
  inStep := by simp [InStep, SessionState.fresh, lastView]
  disconnected := by simp [SessionState.fresh]
  current := by simp [SessionState.fresh, SessionState.openDialogs]

theorem Reports.steady (h : Reports s next) (hsteady : Steady s) : Steady next where
  inStep := h.inStep_iff.mpr hsteady.inStep
  disconnected attempt hattempt := by
    rw [h.openDialogs_eq] at hattempt
    rw [h.connected_eq, hsteady.disconnected attempt hattempt]
  current attempt hattempt := by
    rw [h.openDialogs_eq] at hattempt
    rw [h.disconnects_eq, hsteady.current attempt hattempt]

theorem Waits.steady (h : Waits s next) (hsteady : Steady s) (hconnected : s.connected = false) :
    Steady next where
  inStep := h.inStep_iff.mpr hconnected
  disconnected _ _ := h.connected_eq.trans hconnected
  current attempt hattempt := by
    rw [h.disconnects_eq]
    rcases h.openDialogs_sub attempt hattempt with hopen | hcurrent
    · exact hsteady.current attempt hopen
    · exact hcurrent

theorem Surfaces.steady (h : Surfaces s next) : Steady next where
  inStep := h.inStep
  disconnected := by simp [h.openDialogs_eq]
  current := by simp [h.openDialogs_eq]

theorem Clears.steady (h : Clears s next) : Steady next where
  inStep := h.inStep
  disconnected := by simp [h.openDialogs_eq]
  current := by simp [h.openDialogs_eq]

section Runs

variable {page : Page} {step : Step} {storage : Option StoredValue}
  {history : List (Receipt Step SessionState)}

theorem Steady.connected_eq_false (hsteady : Steady s) (hopen : s.openDialogs ≠ []) :
    s.connected = false := by
  obtain ⟨attempt, hattempt⟩ := List.exists_mem_of_ne_nil _ hopen
  exact hsteady.disconnected attempt hattempt

/-- Orderly steps keep a session steady. -/
theorem Steady.of_does (hsteady : Steady s) (hdoes : Does page s next step)
    (horderly : Orderly page ⟨step, s, next⟩) : Steady next := by
  cases step with
  | initializeSession => exact hdoes.steady hsteady horderly
  | connect => exact hdoes.steady hsteady horderly
  | disconnect => exact hdoes.steady
  | handleAction =>
    rcases hdoes with ⟨-, hclears⟩ | ⟨hconnected, hwaits⟩
    · exact hclears.steady
    · exact hwaits.steady hsteady hconnected
  | confirmWallet => exact hdoes.steady hsteady
  | selectWallet => exact hdoes.steady hsteady
  | submitAddress =>
    rcases hdoes.2 with hsurfaces | hreports
    · exact hsurfaces.steady
    · exact hreports.steady hsteady
  | cancelPicker => exact hdoes.2.steady hsteady (hsteady.connected_eq_false hdoes.1)
  | cancelChooser => exact hdoes.2.steady hsteady (hsteady.connected_eq_false hdoes.1)
  | cancelManualForm => exact hdoes.2.steady hsteady (hsteady.connected_eq_false hdoes.1)
  | settle =>
    obtain ⟨pending, -, ⟨-, hreports⟩ | ⟨-, -, hclears⟩ | ⟨-, -, hsurfaces⟩⟩ := hdoes
    · exact hreports.steady hsteady
    · exact hclears.steady
    · exact hsurfaces.steady

theorem steady_of_run (run : Run (sessionSystem page) (.fresh storage) history s)
    (horderly : Throughout (fun _ r ↦ Orderly page r) history) : Steady s := by
  induction run with
  | start => exact steady_fresh storage
  | accept _ hexec ih => exact (ih horderly.2).of_does (does_of_exec hexec) horderly.1
  | reject _ _ ih => exact ih horderly

/-! ### Silence -/

theorem Reports.silent (h : Reports s next) :
    ∀ effect ∈ effects ⟨step, s, next⟩, effect.connects = false := by
  obtain ⟨new, hlog, hnew⟩ := h.log_eq
  rw [effects_eq hlog]
  exact fun effect heffect ↦ connects_of_isStatus (hnew effect heffect)

theorem Waits.silent (h : Waits s next) :
    ∀ effect ∈ effects ⟨step, s, next⟩, effect.connects = false := by
  obtain ⟨new, hlog, hnew, -⟩ := h.log_eq
  rw [effects_eq hlog]
  exact fun effect heffect ↦ connects_of_quiet (hnew effect heffect)

theorem Clears.silent (h : Clears s next) :
    ∀ effect ∈ effects ⟨step, s, next⟩, effect.connects = false := by
  obtain ⟨new, hlog, hnew, -⟩ := h.log_eq
  rwa [effects_eq hlog]

theorem Surfaces.not_silent (h : Surfaces s next) :
    ¬ ∀ effect ∈ effects ⟨step, s, next⟩, effect.connects = false := by
  obtain ⟨event, publicKey, statusText, writes, -, hlog⟩ := h.log_eq
  rw [effects_eq hlog]
  intro hsilent
  exact absurd (hsilent (.setConnected true) (by simp)) (by decide)

/-! ### Orderly steps -/

/-- An orderly step of a steady session is consistent. -/
theorem Steady.consistent (hsteady : Steady s) (hdoes : Does page s next step)
    (horderly : Orderly page ⟨step, s, next⟩) : Consistent page ⟨step, s, next⟩ where
  inStep := (hsteady.of_does hdoes horderly).inStep
  stale_silent attempt hactor hstale := by
    have hcurrent (hopen : attempt ∈ s.openDialogs) : False :=
      absurd hstale (Nat.not_lt.mpr (Nat.le_of_eq (hsteady.current attempt hopen).symm))
    cases step with
    | initializeSession => cases hactor
    | connect => cases hactor
    | disconnect => cases hactor
    | handleAction => cases hactor
    | confirmWallet => exact hdoes.silent
    | selectWallet => exact hdoes.silent
    | submitAddress => exact (hcurrent (mem_openDialogs_iff.mpr (.inr (.inr hactor)))).elim
    | cancelPicker => exact hdoes.2.silent
    | cancelChooser => exact hdoes.2.silent
    | cancelManualForm => exact hdoes.2.silent
    | settle =>
      obtain ⟨pending, hawaited, hcase⟩ := hdoes
      simp only [actor, hawaited, Option.map_some, Option.some.injEq] at hactor
      subst hactor
      rcases hcase with ⟨-, hreports⟩ | ⟨-, -, hclears⟩ | ⟨hkind, hyields, -⟩
      · exact hreports.silent
      · exact hclears.silent
      · exact absurd ((horderly pending hawaited hkind).1 hstale) hyields
  superseded_harmless start outcome faults pending hlabel hawaited hfails hsuperseded
      hconnected := by
    subst hlabel
    obtain ⟨pending', hawaited', hcase⟩ := hdoes
    obtain rfl : pending = pending' := Option.some.inj (hawaited.symm.trans hawaited')
    rcases hcase with ⟨-, hreports⟩ | ⟨hkind, -, -⟩ | ⟨-, hyields, -⟩
    · exact hreports.connected_eq.trans hconnected
    · exact absurd hfails ((horderly pending hawaited hkind).2 hsuperseded hconnected)
    · exact absurd hfails hyields

/-- A consistent step is orderly. -/
theorem orderly_of_consistent (hdoes : Does page s next step)
    (hconsistent : Consistent page ⟨step, s, next⟩) : Orderly page ⟨step, s, next⟩ := by
  cases step with
  | initializeSession => exact hdoes.inStep_iff.mp hconsistent.inStep
  | connect => exact hdoes.inStep_iff.mp hconsistent.inStep
  | settle start outcome faults =>
    obtain ⟨pending, hawaited, hcase⟩ := hdoes
    intro pending' hawaited' hkind
    obtain rfl : pending = pending' := Option.some.inj (hawaited.symm.trans hawaited')
    have hactor : actor s (.settle start outcome faults) = some pending.attempt := by
      simp only [actor, hawaited, Option.map_some]
    rcases hcase with ⟨hother, -⟩ | ⟨-, hfails, hclears⟩ | ⟨-, hyields, hsurfaces⟩
    · rw [hkind] at hother
      cases hother
    · refine ⟨fun _ ↦ hfails, fun hsuperseded hconnected _ ↦ ?_⟩
      have hkept := hconsistent.superseded_harmless start outcome faults pending rfl hawaited hfails
        hsuperseded hconnected
      exact absurd (hclears.connected_eq.symm.trans hkept) (by decide)
    · refine ⟨fun hstale ↦ ?_, fun _ _ ↦ hyields⟩
      exact absurd (hconsistent.stale_silent pending.attempt hactor hstale) hsurfaces.not_silent
  | _ => trivial

end Runs

/-- A run of the session is consistent exactly when it is orderly. -/
theorem session_consistent_iff (page : Page) (storage : Option StoredValue) (steps : List Step) :
    Throughout (fun _ r ↦ Consistent page r)
        ((sessionSystem page).replay steps (.fresh storage)).1 ↔
      Throughout (fun _ r ↦ Orderly page r)
        ((sessionSystem page).replay steps (.fresh storage)).1 := by
  refine ((sessionSystem page).run_replay steps (.fresh storage)).throughout_iff ?_
  intro history s step next run _ horderly hexec
  have hsteady := steady_of_run run horderly
  have hdoes := does_of_exec hexec
  exact ⟨orderly_of_consistent hdoes, hsteady.consistent hdoes⟩

/-! ### A late approval -/

namespace Sample

/-- A desktop page with the Freighter provider. -/
def page : Page where
  storage := true
  provider := true
  mobile := false
  isMobile := false
  desktop := false
  supportsWalletPicker := false
  supportsDesktopChooser := false
  supportsManualForm := false
  decodeJwtSubject _ := none

def publicKey : String := "GAMX62ZD4FWIKMWGVPEDR6WNL2TYTPQMO2ZJEAZUAON7VCZ5G2GWDF7W"

def faults : Faults := ⟨false, false, false⟩

/-- Connect, disconnect while the wallet asks for approval, approve. -/
def lateApproval : List Step :=
  [.connect [], .disconnect faults, .settle 1 (.resolved (some publicKey)) faults]

end Sample

/-- A wallet that is approved after the user has disconnected connects the session. -/
theorem connected_after_disconnect :
    ¬ ∀ (page : Page) (storage : Option StoredValue) (steps : List Step),
      Throughout (fun _ r ↦ Consistent page r)
        ((sessionSystem page).replay steps (.fresh storage)).1 := by
  intro hclaim
  have hconsistent := (hclaim Sample.page none Sample.lateApproval).1
  have hstale : (0 : ℕ) < 1 := Nat.one_pos
  have hsilent := hconsistent.stale_silent ⟨1, 0⟩ rfl hstale
  exact absurd (hsilent (.setConnected true) (by decide +kernel)) (by decide)

end OrbitChain.WalletConnect
