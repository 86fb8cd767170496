import OrbitChain.WalletConnect.Session

/-!
# What the steps of a wallet session do

A step of the session reports something, waits for something, surfaces a connection or clears one.
What it does to the flag, the dialogs and the log of effects is said once for each of these, and
which of these a step is once for each step (`does_of_exec`). How a promise settles decides between
surfacing and clearing; when it was started does not.
-/

set_option autoImplicit false
set_option relaxedAutoImplicit false

namespace OrbitChain.WalletConnect

open Foundations

/-! ### Effects -/

/-- The effect connects: it sets the flag, writes the session or announces a connection. -/
def Effect.connects : Effect → Bool
  | .setConnected value => value
  | .writeSession _ _ => true
  | .emit (.connected _ _) => true
  | _ => false

/-- The state of the page that was shown last. -/
def lastView (log : List Effect) : Option View :=
  log.findSome? fun effect ↦
    match effect with
    | .view shown => some shown
    | _ => none

/-- The lifecycle event that was emitted last. -/
def lastEvent (log : List Effect) : Option Event :=
  log.findSome? fun effect ↦
    match effect with
    | .emit event => some event
    | _ => none

def View.isConnected : View → Bool
  | .connected _ _ => true
  | _ => false

def Event.isConnection : Event → Bool
  | .connected _ _ | .reconnected _ _ => true
  | .disconnected => false

/-- The promise ends in an error. -/
def Fails (page : Page) (kind : PendingKind) (outcome : Outcome) : Prop :=
  ∃ error, received page kind outcome = .error error

/-- The promise of a wallet app connects nothing in this page. -/
def PendingKind.connects : PendingKind → Bool
  | .mobileStart _ _ => false
  | _ => true

/-! ### What steps do -/

/-- The attempts whose dialogs are open. -/
def SessionState.openDialogs (s : SessionState) : List Attempt :=
  s.walletPicker.toList ++ (s.desktopChooser.map Prod.fst).toList ++ s.manualForm.toList

/-- The effect shows no connection and announces nothing. -/
def Effect.quiet : Effect → Bool
  | .status _ => true
  | .view shown => !shown.isConnected
  | _ => false

def Effect.isStatus : Effect → Bool
  | .status _ => true
  | _ => false

variable {s next : SessionState}

/-- Nothing is shown but a status. -/
structure Reports (s next : SessionState) : Prop where
  connected_eq : next.connected = s.connected
  openDialogs_eq : next.openDialogs = s.openDialogs
  disconnects_eq : next.disconnects = s.disconnects
  log_eq : ∃ new, next.log = new ++ s.log ∧ ∀ effect ∈ new, effect.isStatus = true

/-- The page shows something other than a connection, and the flag stays. -/
structure Waits (s next : SessionState) : Prop where
  connected_eq : next.connected = s.connected
  openDialogs_sub : ∀ attempt ∈ next.openDialogs,
    attempt ∈ s.openDialogs ∨ attempt.disconnects = s.disconnects
  disconnects_eq : next.disconnects = s.disconnects
  log_eq : ∃ new, next.log = new ++ s.log ∧ (∀ effect ∈ new, effect.quiet = true) ∧
    ∃ shown, .view shown ∈ new

/-- A connection is shown and announced. -/
structure Surfaces (s next : SessionState) : Prop where
  connected_eq : next.connected = true
  openDialogs_eq : next.openDialogs = []
  disconnects_eq : next.disconnects = s.disconnects
  log_eq : ∃ event publicKey statusText writes, event.isConnection = true ∧
    next.log = [.emit event, .view (.connected publicKey statusText), .setConnected true] ++
      writes ++ s.log

/-- The flag is cleared and the page shows no connection. -/
structure Clears (s next : SessionState) : Prop where
  connected_eq : next.connected = false
  openDialogs_eq : next.openDialogs = []
  log_eq : ∃ new, next.log = new ++ s.log ∧ (∀ effect ∈ new, effect.connects = false) ∧
    (lastView new).any View.isConnected = false ∧ (lastView new).isSome = true

/-! ### Promises

What is shown and surfaced does not depend on the promises that are awaited. -/

section Promises

variable {s next : SessionState} {awaiting : List Pending}

theorem Reports.of_pending (h : Reports { s with pending := awaiting } next) : Reports s next :=
  ⟨h.connected_eq, h.openDialogs_eq, h.disconnects_eq, h.log_eq⟩

theorem Surfaces.of_pending (h : Surfaces { s with pending := awaiting } next) :
    Surfaces s next :=
  ⟨h.connected_eq, h.openDialogs_eq, h.disconnects_eq, h.log_eq⟩

theorem Clears.of_pending (h : Clears { s with pending := awaiting } next) : Clears s next :=
  ⟨h.connected_eq, h.openDialogs_eq, h.log_eq⟩

end Promises

/-! ### Logs -/

section Logs

variable {new log : List Effect}

theorem lastView_append : lastView (new ++ log) = (lastView new).or (lastView log) :=
  List.findSome?_append

theorem lastEvent_append : lastEvent (new ++ log) = (lastEvent new).or (lastEvent log) :=
  List.findSome?_append

theorem lastView_eq_none (h : ∀ effect ∈ new, effect.isStatus = true) : lastView new = none := by
  refine List.findSome?_eq_none_iff.mpr fun effect heffect ↦ ?_
  have hstatus := h effect heffect
  cases effect <;> simp [Effect.isStatus] at hstatus ⊢

theorem lastEvent_eq_none (h : ∀ effect ∈ new, effect.isStatus = true) : lastEvent new = none := by
  refine List.findSome?_eq_none_iff.mpr fun effect heffect ↦ ?_
  have hstatus := h effect heffect
  cases effect <;> simp [Effect.isStatus] at hstatus ⊢

theorem connects_of_isStatus {effect : Effect} (h : effect.isStatus = true) :
    effect.connects = false := by
  cases effect <;> simp [Effect.isStatus, Effect.connects] at h ⊢

theorem connects_of_quiet {effect : Effect} (h : effect.quiet = true) :
    effect.connects = false := by
  cases effect <;> simp [Effect.quiet, Effect.connects] at h ⊢

/-- The last of quiet views is not a connection. -/
theorem lastView_of_quiet {shown : View} (h : ∀ effect ∈ new, effect.quiet = true)
    (hshown : .view shown ∈ new) : ∃ last, lastView new = some last ∧ last.isConnected = false := by
  cases hlast : lastView new with
  | none =>
    have hnone := List.findSome?_eq_none_iff.mp hlast _ hshown
    simp at hnone
  | some last =>
    obtain ⟨effect, heffect, hview⟩ := List.exists_of_findSome?_eq_some hlast
    have hquiet := h effect heffect
    cases effect with
    | view shown =>
      obtain rfl : shown = last := by simpa using hview
      exact ⟨shown, rfl, by simpa [Effect.quiet] using hquiet⟩
    | _ => simp at hview

end Logs

/-! ### Functions of the controller -/

section Functions

open SessionState

variable {page : Page} {faults : Faults} {attempt : Attempt} {wallet : Wallet}

theorem discardStoredSession_eq (faults : Faults) (s : SessionState) :
    ∃ storage, s.discardStoredSession faults = { s with storage := storage } := by
  unfold discardStoredSession
  split_ifs
  · exact ⟨s.storage, rfl⟩
  · exact ⟨none, rfl⟩

theorem readSession_snd (page : Page) (faults : Faults) (s : SessionState) :
    ∃ storage, (s.readSession page faults).2 = { s with storage := storage } := by
  unfold readSession
  split
  · exact ⟨s.storage, rfl⟩
  · split
    · exact ⟨s.storage, rfl⟩
    · split
      · exact ⟨s.storage, rfl⟩
      · exact discardStoredSession_eq faults s
    · exact discardStoredSession_eq faults s

theorem writeSession_snd (page : Page) (faults : Faults) (s : SessionState) (publicKey : String)
    (source : Source) : ∃ storage writes, (s.writeSession page faults publicKey source).2 =
      { s with storage := storage, log := writes ++ s.log } := by
  unfold writeSession
  split_ifs
  · exact ⟨s.storage, [], rfl⟩
  · exact ⟨_, [_], rfl⟩

theorem clearSession_snd (page : Page) (faults : Faults) (s : SessionState) :
    ∃ storage writes, (s.clearSession page faults).2 =
      { s with storage := storage, log := writes ++ s.log } ∧
        ∀ effect ∈ writes, effect = .clearSession := by
  unfold SessionState.clearSession
  split_ifs
  · exact ⟨s.storage, [], rfl, by simp⟩
  · exact ⟨none, [.clearSession], rfl, by simp⟩

theorem surface_surfaces {publicKey unsavedText : String} {source : Source} {event : Event}
    (hevent : event.isConnection = true) :
    Surfaces s (s.surface page faults publicKey source unsavedText event) := by
  obtain ⟨storage, writes, hwrite⟩ := writeSession_snd page faults s publicKey source
  rcases hresult : s.writeSession page faults publicKey source with ⟨persisted, written⟩
  rw [hresult] at hwrite
  subst hwrite
  simp only [surface, hresult]
  exact ⟨rfl, rfl, rfl, event, publicKey, _, writes, hevent, rfl⟩

theorem completeConnection_surfaces {publicKey : String} {source : Source} :
    Surfaces s (s.completeConnection page faults publicKey source) :=
  surface_surfaces rfl

theorem showFailure_clears {error : Option String} {fallback : String} :
    Clears s (s.showFailure page faults error fallback) := by
  obtain ⟨storage, hread⟩ := readSession_snd page faults (s.setConnected false)
  rcases hresult : (s.setConnected false).readSession page faults with ⟨saved, read⟩
  rw [hresult] at hread
  subst hread
  simp only [showFailure, hresult]
  exact ⟨rfl, rfl, [.view (.disconnected _ _), .setConnected false], rfl,
    by simp [Effect.connects], rfl, rfl⟩

theorem cancelDialog_waits : Waits s (s.cancelDialog page faults) := by
  obtain ⟨storage, hread⟩ := readSession_snd page faults s
  rcases hresult : s.readSession page faults with ⟨saved, read⟩
  rw [hresult] at hread
  subst hread
  simp only [cancelDialog, hresult]
  exact ⟨rfl, by simp [showDisconnected, record, closeDialogs, openDialogs], rfl,
    [.view (.disconnected _ _)], rfl, by simp [Effect.quiet, View.isConnected], _,
    List.mem_singleton_self _⟩

theorem disconnect_clears : Clears s (s.disconnect page faults) := by
  obtain ⟨storage, writes, hclear, hwrites⟩ :=
    clearSession_snd page faults (s.setConnected false).countDisconnect
  rcases hresult : (s.setConnected false).countDisconnect.clearSession page faults with
    ⟨cleared, left⟩
  rw [hresult] at hclear
  subst hclear
  simp only [disconnect, hresult]
  generalize (if cleared = true then "Disconnected."
    else "Disconnected, but the saved session could not be cleared.") = text
  refine ⟨rfl, rfl, [.emit .disconnected, .view (.disconnected false text)] ++ writes ++
    [.setConnected false], ?_, fun effect heffect ↦ ?_, rfl, rfl⟩
  · rw [List.append_assoc, List.append_assoc]
    rfl
  · simp only [List.cons_append, List.nil_append, List.mem_cons, List.mem_append,
      List.not_mem_nil, or_false] at heffect
    rcases heffect with rfl | rfl | hwrite | rfl
    · rfl
    · rfl
    · rw [hwrites effect hwrite]
      rfl
    · rfl

theorem finishMobileReturn_waits : Waits s (s.finishMobileReturn attempt) :=
  ⟨rfl, fun _ h ↦ .inl h, rfl, [.status _, .view .reconnecting], rfl, by decide, .reconnecting,
    by simp⟩

theorem mem_openDialogs_iff {other : Attempt} : other ∈ s.openDialogs ↔
    s.walletPicker = some other ∨ (∃ offered, s.desktopChooser = some (other, offered)) ∨
      s.manualForm = some other := by
  simp [openDialogs]

theorem showDisconnected_waits {reconnect : Bool} {statusText : String} :
    Waits s (s.showDisconnected reconnect statusText) :=
  ⟨rfl, by simp [showDisconnected, record, closeDialogs, openDialogs], rfl,
    [.view (.disconnected reconnect statusText)], rfl, by simp [Effect.quiet, View.isConnected], _,
    List.mem_singleton_self _⟩

theorem showReconnecting_waits : Waits s s.showReconnecting :=
  ⟨rfl, fun _ h ↦ .inl h, rfl, [.view .reconnecting], rfl, by decide, _,
    List.mem_singleton_self _⟩

/-- What waits after it has waited waits. -/
theorem Waits.trans {middle : SessionState} (h : Waits s middle) (h' : Waits middle next) :
    Waits s next := by
  obtain ⟨new, hlog, hnew, shown, hshown⟩ := h.log_eq
  obtain ⟨new', hlog', hnew', -⟩ := h'.log_eq
  refine ⟨h'.connected_eq.trans h.connected_eq, fun attempt hattempt ↦ ?_,
    h'.disconnects_eq.trans h.disconnects_eq, new' ++ new, ?_, ?_, shown,
    List.mem_append_right _ hshown⟩
  · rcases h'.openDialogs_sub attempt hattempt with hmiddle | hcurrent
    · exact h.openDialogs_sub attempt hmiddle
    · exact .inr (hcurrent.trans h.disconnects_eq)
  · rw [hlog', hlog, List.append_assoc]
  · exact List.forall_mem_append.mpr ⟨hnew', hnew⟩

/-- What is reported, and what is awaited then, makes no difference to waiting. -/
theorem Waits.reports {middle : SessionState} (h : Waits s middle) (h' : Reports middle next) :
    Waits s next := by
  obtain ⟨new, hlog, hnew, shown, hshown⟩ := h.log_eq
  obtain ⟨new', hlog', hnew'⟩ := h'.log_eq
  refine ⟨h'.connected_eq.trans h.connected_eq, fun attempt hattempt ↦ ?_,
    h'.disconnects_eq.trans h.disconnects_eq, new' ++ new, ?_, ?_, shown,
    List.mem_append_right _ hshown⟩
  · rw [h'.openDialogs_eq] at hattempt
    exact h.openDialogs_sub attempt hattempt
  · rw [hlog', hlog, List.append_assoc]
  · refine List.forall_mem_append.mpr ⟨fun effect heffect ↦ ?_, hnew⟩
    have hstatus := hnew' effect heffect
    cases effect <;> simp [Effect.isStatus, Effect.quiet] at hstatus ⊢

/-- A dialog that opens belongs to the attempt that opens it. -/
theorem Waits.opens {middle : SessionState} (h : Waits s middle)
    (hconnected : next.connected = middle.connected)
    (hdisconnects : next.disconnects = middle.disconnects) (hlog : next.log = middle.log)
    (hdialogs : ∀ attempt ∈ next.openDialogs,
      attempt ∈ middle.openDialogs ∨ attempt.disconnects = s.disconnects) : Waits s next := by
  refine ⟨hconnected.trans h.connected_eq, fun attempt hattempt ↦ ?_,
    hdisconnects.trans h.disconnects_eq, hlog ▸ h.log_eq⟩
  rcases hdialogs attempt hattempt with hmiddle | hcurrent
  · exact h.openDialogs_sub attempt hmiddle
  · exact .inr hcurrent

theorem await_reports {kind : PendingKind} : Reports s (s.await attempt kind) :=
  ⟨rfl, rfl, rfl, [], rfl, by simp⟩

theorem finishDesktopWallet_reports : Reports s (s.finishDesktopWallet attempt wallet) :=
  ⟨rfl, rfl, rfl, [.status _], rfl, by simp [Effect.isStatus]⟩

theorem initializeSession_waits {pendingReturn : Bool} :
    Waits s (s.initializeSession page faults pendingReturn) := by
  have hcount {next : SessionState} (h : Waits s.countStart next) : Waits s next :=
    ⟨h.connected_eq, h.openDialogs_sub, h.disconnects_eq, h.log_eq⟩
  unfold initializeSession
  split
  · exact hcount finishMobileReturn_waits
  · obtain ⟨storage, hread⟩ := readSession_snd page faults s.countStart
    rcases hresult : s.countStart.readSession page faults with ⟨saved, read⟩
    rw [hresult] at hread
    subst hread
    have hstorage {next : SessionState} (h : Waits { s.countStart with storage := storage } next) :
        Waits s next :=
      ⟨h.connected_eq, h.openDialogs_sub, h.disconnects_eq, h.log_eq⟩
    simp only [hresult]
    cases saved with
    | none => exact hstorage showDisconnected_waits
    | some session =>
      simp only
      split
      · exact hstorage (showReconnecting_waits.trans showDisconnected_waits)
      · exact hstorage (showReconnecting_waits.reports await_reports)

theorem showConnecting_waits : Waits s s.showConnecting :=
  ⟨rfl, fun _ h ↦ .inl h, rfl, [.view .connecting], rfl, by decide, _,
    List.mem_singleton_self _⟩

theorem connectMobile_waits (h : attempt.disconnects = s.disconnects) :
    Waits s (s.connectMobile attempt) := by
  refine showConnecting_waits.opens rfl rfl rfl fun other hother ↦ ?_
  rw [mem_openDialogs_iff] at hother ⊢
  rcases hother with hpicker | hrest
  · obtain rfl : attempt = other := Option.some.inj hpicker
    exact .inr h
  · exact .inl (.inr hrest)

theorem connectViaProvider_waits : Waits s (s.connectViaProvider page attempt) :=
  showConnecting_waits.reports await_reports

theorem connectDesktop_waits {detected : List Wallet} (h : attempt.disconnects = s.disconnects) :
    Waits s (s.connectDesktop page attempt detected) := by
  unfold connectDesktop
  simp only
  split
  · exact showConnecting_waits.reports finishDesktopWallet_reports
  · split
    · refine showConnecting_waits.opens rfl rfl rfl fun other hother ↦ ?_
      rw [mem_openDialogs_iff] at hother ⊢
      rcases hother with hpicker | ⟨offered, hchooser⟩ | hform
      · exact .inl (.inl hpicker)
      · obtain rfl : attempt = other := congrArg Prod.fst (Option.some.inj hchooser)
        exact .inr h
      · exact .inl (.inr (.inr hform))
    · exact showConnecting_waits.reports finishDesktopWallet_reports
  · split
    · refine showConnecting_waits.opens rfl rfl rfl fun other hother ↦ ?_
      rw [mem_openDialogs_iff] at hother ⊢
      rcases hother with hpicker | hchooser | hform
      · exact .inl (.inl hpicker)
      · exact .inl (.inr (.inl hchooser))
      · obtain rfl : attempt = other := Option.some.inj hform
        exact .inr h
    · exact showConnecting_waits.trans connectViaProvider_waits

theorem connect_waits {detected : List Wallet} : Waits s (s.connect page detected) := by
  have hcount {next : SessionState} (h : Waits s.countStart next) : Waits s next :=
    ⟨h.connected_eq, h.openDialogs_sub, h.disconnects_eq, h.log_eq⟩
  unfold SessionState.connect
  simp only
  split
  · exact hcount (connectMobile_waits rfl)
  · split
    · exact hcount (connectDesktop_waits rfl)
    · exact hcount connectViaProvider_waits

theorem confirmWallet_reports {account : String} :
    Reports s (s.confirmWallet attempt wallet account) :=
  ⟨rfl, rfl, rfl, [.status _], rfl, by simp [Effect.isStatus]⟩

theorem selectWallet_reports : Reports s (s.selectWallet attempt wallet) :=
  ⟨rfl, rfl, rfl, [.status _], rfl, by simp [Effect.isStatus]⟩

theorem submitAddress_does {address : String} :
    Surfaces s (s.submitAddress page faults address) ∨
      Reports s (s.submitAddress page faults address) := by
  unfold submitAddress
  split_ifs
  · exact .inl completeConnection_surfaces
  · exact .inr ⟨rfl, rfl, rfl, [.status _], rfl, by simp [Effect.isStatus]⟩

section Settlements

variable {kind : PendingKind} {outcome : Outcome}

theorem settle_reports (hkind : kind.connects = false) :
    Reports s (s.settle page faults kind outcome) := by
  cases kind with
  | mobileStart wallet account =>
    cases outcome with
    | resolved value => exact ⟨rfl, rfl, rfl, [], rfl, by simp⟩
    | rejected error => exact ⟨rfl, rfl, rfl, [.status _], rfl, by simp [Effect.isStatus]⟩
  | _ => simp [PendingKind.connects] at hkind

/-- A promise that yields a public key surfaces a connection, whatever happened since it was
started. -/
theorem settle_surfaces (hkind : kind.connects = true) (h : ¬ Fails page kind outcome) :
    Surfaces s (s.settle page faults kind outcome) := by
  cases hreceived : received page kind outcome with
  | error error => exact absurd ⟨error, hreceived⟩ h
  | ok publicKey =>
    cases kind with
    | restore =>
      simp only [settle, settleRestore, hreceived]
      exact surface_surfaces rfl
    | mobileReturn =>
      simp only [settle, settleMobileReturn, hreceived]
      exact surface_surfaces rfl
    | mobileStart wallet account => simp [PendingKind.connects] at hkind
    | _ =>
      simp only [settle, settleConnection, hreceived]
      exact completeConnection_surfaces

/-- A promise that fails clears the flag, whatever happened since it was started. -/
theorem settle_clears (hkind : kind.connects = true) (h : Fails page kind outcome) :
    Clears s (s.settle page faults kind outcome) := by
  obtain ⟨error, hreceived⟩ := h
  cases kind with
  | restore =>
    simp only [settle, settleRestore, hreceived]
    exact ⟨rfl, rfl, [.view (.disconnected true "Unable to restore wallet. Reconnect to continue."),
      .setConnected false], rfl, by decide, rfl, rfl⟩
  | mobileReturn =>
    simp only [settle, settleMobileReturn, hreceived]
    exact showFailure_clears
  | mobileStart wallet account => simp [PendingKind.connects] at hkind
  | _ =>
    simp only [settle, settleConnection, hreceived]
    exact showFailure_clears

/-- What settling a promise does to the session that awaited it. -/
theorem settle_does {awaiting : List Pending} :
    (kind.connects = false ∧
        Reports s ({ s with pending := awaiting }.settle page faults kind outcome)) ∨
      (kind.connects = true ∧ Fails page kind outcome ∧
        Clears s ({ s with pending := awaiting }.settle page faults kind outcome)) ∨
      (kind.connects = true ∧ ¬ Fails page kind outcome ∧
        Surfaces s ({ s with pending := awaiting }.settle page faults kind outcome)) := by
  cases hkind : kind.connects with
  | false => exact .inl ⟨rfl, (settle_reports hkind).of_pending⟩
  | true =>
    by_cases hfails : Fails page kind outcome
    · exact .inr (.inl ⟨rfl, hfails, (settle_clears hkind hfails).of_pending⟩)
    · exact .inr (.inr ⟨rfl, hfails, (settle_surfaces hkind hfails).of_pending⟩)

end Settlements

end Functions

/-! ### Steps -/

/-- What each step does. -/
def Does (page : Page) (s next : SessionState) : Step → Prop
  | .initializeSession _ _ | .connect _ => Waits s next
  | .disconnect _ => Clears s next
  | .handleAction _ _ =>
    (s.connected = true ∧ Clears s next) ∨ (s.connected = false ∧ Waits s next)
  | .confirmWallet _ _ | .selectWallet _ => Reports s next
  | .submitAddress _ _ => s.openDialogs ≠ [] ∧ (Surfaces s next ∨ Reports s next)
  | .cancelPicker _ | .cancelChooser _ | .cancelManualForm _ => s.openDialogs ≠ [] ∧ Waits s next
  | .settle start outcome _ => ∃ pending, s.awaited start = some pending ∧
      ((pending.kind.connects = false ∧ Reports s next) ∨
        (pending.kind.connects = true ∧ Fails page pending.kind outcome ∧ Clears s next) ∨
        (pending.kind.connects = true ∧ ¬ Fails page pending.kind outcome ∧ Surfaces s next))

section Steps

variable {page : Page} {step : Step}

theorem does_of_exec (h : (sessionSystem page).exec step s = .ok next) : Does page s next step := by
  have hopen {attempt : Attempt} (hmem : attempt ∈ s.openDialogs) : s.openDialogs ≠ [] :=
    List.ne_nil_of_mem hmem
  cases step with
  | initializeSession pendingReturn faults =>
    obtain rfl := pure_eq_ok_iff.mp h
    exact initializeSession_waits
  | connect detected =>
    obtain rfl := pure_eq_ok_iff.mp h
    exact connect_waits
  | disconnect faults =>
    obtain rfl := pure_eq_ok_iff.mp h
    exact disconnect_clears
  | handleAction detected faults =>
    obtain rfl := pure_eq_ok_iff.mp h
    unfold SessionState.handleAction
    split_ifs with hconnected
    · exact .inl ⟨hconnected, disconnect_clears⟩
    · exact .inr ⟨Bool.not_eq_true _ ▸ hconnected, connect_waits⟩
  | confirmWallet wallet account =>
    obtain ⟨attempt, -, hnext⟩ := bind_eq_ok_iff.mp h
    obtain rfl := pure_eq_ok_iff.mp hnext
    exact confirmWallet_reports
  | selectWallet wallet =>
    obtain ⟨⟨attempt, offered⟩, -, hrest⟩ := bind_eq_ok_iff.mp h
    obtain ⟨_, -, hnext⟩ := bind_eq_ok_iff.mp hrest
    obtain rfl := pure_eq_ok_iff.mp hnext
    exact selectWallet_reports
  | submitAddress address faults =>
    obtain ⟨attempt, hform, hnext⟩ := bind_eq_ok_iff.mp h
    obtain rfl := pure_eq_ok_iff.mp hnext
    rw [orFail_eq_ok_iff] at hform
    exact ⟨hopen (mem_openDialogs_iff.mpr (.inr (.inr hform))), submitAddress_does⟩
  | cancelPicker faults =>
    obtain ⟨attempt, hpicker, hnext⟩ := bind_eq_ok_iff.mp h
    obtain rfl := pure_eq_ok_iff.mp hnext
    rw [orFail_eq_ok_iff] at hpicker
    exact ⟨hopen (mem_openDialogs_iff.mpr (.inl hpicker)), cancelDialog_waits⟩
  | cancelChooser faults =>
    obtain ⟨⟨attempt, offered⟩, hchooser, hnext⟩ := bind_eq_ok_iff.mp h
    obtain rfl := pure_eq_ok_iff.mp hnext
    rw [orFail_eq_ok_iff] at hchooser
    exact ⟨hopen (mem_openDialogs_iff.mpr (.inr (.inl ⟨offered, hchooser⟩))), cancelDialog_waits⟩
  | cancelManualForm faults =>
    obtain ⟨attempt, hform, hnext⟩ := bind_eq_ok_iff.mp h
    obtain rfl := pure_eq_ok_iff.mp hnext
    rw [orFail_eq_ok_iff] at hform
    exact ⟨hopen (mem_openDialogs_iff.mpr (.inr (.inr hform))), cancelDialog_waits⟩
  | settle start outcome faults =>
    obtain ⟨pending, hawaited, hnext⟩ := bind_eq_ok_iff.mp h
    obtain rfl := pure_eq_ok_iff.mp hnext
    refine ⟨pending, orFail_eq_ok_iff.mp hawaited, ?_⟩
    exact settle_does

end Steps

end OrbitChain.WalletConnect
