import OrbitChain.Foundations.TransitionRuns

/-!
# The wallet session

The controller owns one flag, one storage slot and the page, and everything that connects works on
them: restoring a saved session, returning from a mobile wallet, a provider or a prompt, the
extensions of a desktop, a form. What is awaited is a pending promise (`Pending`), which may settle
at any time; what runs between two awaits is one step. A dialog holds its handlers until the page
closes it. Every effect is logged, newest first. What the browser decides is an argument: which
storage calls throw (`Faults`), which extensions are detected, what a promise settles to.
-/

set_option autoImplicit false
set_option relaxedAutoImplicit false

namespace OrbitChain.WalletConnect

open Foundations

/-- Where a connected key came from. -/
inductive Source
  | freighter
  | manual
  | mobile
  deriving DecidableEq

/-- A wallet of the registry. -/
structure Wallet where
  id : String
  name : String
  deriving DecidableEq

/-- What the storage slot of the session holds. -/
inductive StoredValue
  | session (publicKey : String) (source : Source)
  /-- A value that is no session. -/
  | invalid
  deriving DecidableEq

/-- The storage calls that throw during a step. -/
structure Faults where
  getItem : Bool
  setItem : Bool
  removeItem : Bool
  deriving DecidableEq

/-- What the page offers the controller. -/
structure Page where
  storage : Bool
  provider : Bool
  mobile : Bool
  isMobile : Bool
  desktop : Bool
  supportsWalletPicker : Bool
  supportsDesktopChooser : Bool
  supportsManualForm : Bool
  /-- The subject of a session token. -/
  decodeJwtSubject : String → Option String

/-- The state of the page that the controller asked for last. -/
inductive View
  | connecting
  | reconnecting
  | connected (publicKey statusText : String)
  | disconnected (reconnect : Bool) (statusText : String)
  deriving DecidableEq

/-- The lifecycle events of a wallet. -/
inductive Event
  | connected (publicKey : String) (source : Source)
  | reconnected (publicKey : String) (source : Source)
  | disconnected
  deriving DecidableEq

inductive Effect
  | setConnected (value : Bool)
  | view (view : View)
  | status (text : String)
  | writeSession (publicKey : String) (source : Source)
  | clearSession
  | emit (event : Event)
  deriving DecidableEq

/-- When an attempt started: its number among all starts, and how often the session had been
disconnected by then. -/
structure Attempt where
  start : ℕ
  disconnects : ℕ
  deriving DecidableEq

/-- What a promise is awaited for. -/
inductive PendingKind
  | restore
  | mobileReturn
  | provider
  | prompt
  | desktop (wallet : Wallet)
  | mobileStart (wallet : Wallet) (account : String)
  deriving DecidableEq

structure Pending where
  attempt : Attempt
  kind : PendingKind
  deriving DecidableEq

/-- What a promise settles to: the address or the token that its value carries, if any, or the
message of an error. -/
inductive Outcome
  | resolved (value : Option String)
  | rejected (error : Option String)
  deriving DecidableEq

structure SessionState where
  connected : Bool
  storage : Option StoredValue
  /-- The attempts whose dialogs are open. -/
  walletPicker : Option Attempt
  desktopChooser : Option (Attempt × List Wallet)
  manualForm : Option Attempt
  pending : List Pending
  starts : ℕ
  disconnects : ℕ
  log : List Effect
  deriving DecidableEq

/-- A public key has 56 characters, `G` and then letters and digits of base 32. -/
def isValidPublicKey (value : String) : Bool :=
  match value.toList with
  | [] => false
  | first :: rest =>
    first = 'G' && rest.length = 55 &&
      rest.all fun c ↦ ('A' ≤ c && c ≤ 'Z') || ('2' ≤ c && c ≤ '7')

def errorMessage (error : Option String) (fallback : String) : String :=
  match error with
  | some message => if message = "" then fallback else message
  | none => fallback

/-- The error when a promise resolves without a valid public key. -/
def invalidKeyError : PendingKind → String
  | .mobileReturn => "Auth server session token has no valid account."
  | .prompt => "Invalid or cancelled address input."
  | .desktop wallet => wallet.name ++ " did not return a valid public key."
  | .restore | .provider | .mobileStart _ _ => "Freighter did not return a valid public key."

/-- The public key that a promise yields, or the message of the error it ends in. -/
def received (page : Page) (kind : PendingKind) (outcome : Outcome) :
    Except (Option String) String :=
  -- Restoring does not ask anyone when there is no provider.
  if kind = .restore ∧ page.provider = false then .error (some "Freighter is not available.")
  else
    match outcome with
    | .rejected error => .error error
    | .resolved value =>
      let address := if kind = .mobileReturn then value.bind page.decodeJwtSubject else value
      match address with
      | some publicKey =>
        if isValidPublicKey publicKey then .ok publicKey else .error (some (invalidKeyError kind))
      | none => .error (some (invalidKeyError kind))

namespace SessionState

/-- A page that has just loaded. -/
def fresh (storage : Option StoredValue) : SessionState :=
  ⟨false, storage, none, none, none, [], 0, 0, []⟩

/-! ### The page -/

section Effects

variable (s : SessionState)

def record (effect : Effect) : SessionState := { s with log := effect :: s.log }

def setConnected (value : Bool) : SessionState :=
  { s with connected := value }.record (.setConnected value)

def setStatus (text : String) : SessionState := s.record (.status text)

def emit (event : Event) : SessionState := s.record (.emit event)

def showConnecting : SessionState := s.record (.view .connecting)

def showReconnecting : SessionState := s.record (.view .reconnecting)

/-- Close the dialogs, which drops their handlers. -/
def closeDialogs : SessionState :=
  { s with walletPicker := none, desktopChooser := none, manualForm := none }

def showConnected (publicKey statusText : String) : SessionState :=
  s.closeDialogs.record (.view (.connected publicKey statusText))

def showDisconnected (reconnect : Bool) (statusText : String) : SessionState :=
  s.closeDialogs.record (.view (.disconnected reconnect statusText))

/-- Await a promise. -/
def await (attempt : Attempt) (kind : PendingKind) : SessionState :=
  { s with pending := ⟨attempt, kind⟩ :: s.pending }

/-- The attempt that starts now. -/
def nextAttempt : Attempt := ⟨s.starts + 1, s.disconnects⟩

def countStart : SessionState := { s with starts := s.starts + 1 }

def countDisconnect : SessionState := { s with disconnects := s.disconnects + 1 }

end Effects

/-! ### Storage -/

section Storage

variable (page : Page) (faults : Faults) (s : SessionState)

def discardStoredSession : SessionState :=
  if faults.removeItem then s else { s with storage := none }

/-- The saved session, if there is a valid one. -/
def readSession : Option (String × Source) × SessionState :=
  if page.storage = false ∨ faults.getItem = true then (none, s)
  else
    match s.storage with
    | none => (none, s)
    | some (.session publicKey source) =>
      if isValidPublicKey publicKey then (some (publicKey, source), s)
      else (none, s.discardStoredSession faults)
    | some .invalid => (none, s.discardStoredSession faults)

def writeSession (publicKey : String) (source : Source) : Bool × SessionState :=
  if page.storage = false ∨ faults.setItem = true then (false, s)
  else
    (true, { s with storage := some (.session publicKey source) }.record
      (.writeSession publicKey source))

def clearSession : Bool × SessionState :=
  if page.storage = false ∨ faults.removeItem = true then (false, s)
  else (true, { s with storage := none }.record .clearSession)

end Storage

/-! ### Ends of attempts -/

section Ends

variable (page : Page) (faults : Faults) (s : SessionState)

/-- Save a session and show it. -/
def surface (publicKey : String) (source : Source) (unsavedText : String) (event : Event) :
    SessionState :=
  let (persisted, s) := s.writeSession page faults publicKey source
  ((s.setConnected true).showConnected publicKey (if persisted then "" else unsavedText)).emit
    event

def completeConnection (publicKey : String) (source : Source) : SessionState :=
  s.surface page faults publicKey source
    "Wallet connected, but this session could not be saved." (.connected publicKey source)

/-- Show that an attempt failed, offering to reconnect if a session is saved. -/
def showFailure (error : Option String) (fallback : String) : SessionState :=
  let s := s.setConnected false
  let (saved, s) := s.readSession page faults
  s.showDisconnected saved.isSome ("❌ " ++ errorMessage error fallback)

def failConnection (error : Option String) : SessionState :=
  s.showFailure page faults error "Unable to connect wallet."

/-- Dismiss a dialog. -/
def cancelDialog : SessionState :=
  let (saved, s) := s.readSession page faults
  s.showDisconnected saved.isSome ""

end Ends

/-! ### Starts of attempts -/

section Starts

variable (page : Page) (faults : Faults) (s : SessionState)

def finishMobileReturn (attempt : Attempt) : SessionState :=
  (s.showReconnecting.setStatus "Verifying signed challenge…").await attempt .mobileReturn

/-- Start the controller on a page that may carry the return of a mobile wallet. -/
def initializeSession (pendingReturn : Bool) : SessionState :=
  let attempt := s.nextAttempt
  let s := s.countStart
  if page.mobile && pendingReturn then s.finishMobileReturn attempt
  else
    let (saved, s) := s.readSession page faults
    match saved with
    | none => s.showDisconnected false ""
    | some (_, source) =>
      let s := s.showReconnecting
      if source ≠ .freighter then
        s.showDisconnected true "Previous wallet found. Reconnect to continue."
      else s.await attempt .restore

def connectMobile (attempt : Attempt) : SessionState :=
  { s.showConnecting with walletPicker := some attempt }

def connectViaProvider (attempt : Attempt) : SessionState :=
  s.showConnecting.await attempt (if page.provider then .provider else .prompt)

/-- Await an extension, up to its settlement. -/
def finishDesktopWallet (attempt : Attempt) (wallet : Wallet) : SessionState :=
  (s.setStatus ("Connecting with " ++ wallet.name ++ "…")).await attempt (.desktop wallet)

/-- Connect with the extensions that are detected. -/
def connectDesktop (attempt : Attempt) (detected : List Wallet) : SessionState :=
  let s := s.showConnecting
  match detected with
  | [wallet] => s.finishDesktopWallet attempt wallet
  | first :: _ :: _ =>
    if page.supportsDesktopChooser then { s with desktopChooser := some (attempt, detected) }
    else s.finishDesktopWallet attempt first
  | [] =>
    if page.supportsManualForm then { s with manualForm := some attempt }
    else s.connectViaProvider page attempt

def connect (detected : List Wallet) : SessionState :=
  let attempt := s.nextAttempt
  let s := s.countStart
  if page.mobile && page.isMobile && page.supportsWalletPicker then s.connectMobile attempt
  else if page.desktop then s.connectDesktop page attempt detected
  else s.connectViaProvider page attempt

def disconnect : SessionState :=
  let s := (s.setConnected false).countDisconnect
  let (cleared, s) := s.clearSession page faults
  (s.showDisconnected false
    (if cleared then "Disconnected."
    else "Disconnected, but the saved session could not be cleared.")).emit .disconnected

def handleAction (detected : List Wallet) : SessionState :=
  if s.connected then s.disconnect page faults else s.connect page detected

end Starts

/-! ### Settlements -/

section Settlements

variable (page : Page) (faults : Faults) (s : SessionState)

def settleRestore (outcome : Outcome) : SessionState :=
  match received page .restore outcome with
  | .ok publicKey =>
    s.surface page faults publicKey .freighter
      "Wallet reconnected, but this session could not be saved."
      (.reconnected publicKey .freighter)
  | .error _ =>
    (s.setConnected false).showDisconnected true
      "Unable to restore wallet. Reconnect to continue."

def settleMobileReturn (outcome : Outcome) : SessionState :=
  match received page .mobileReturn outcome with
  | .ok publicKey =>
    s.surface page faults publicKey .mobile
      "Wallet connected, but this session could not be saved." (.connected publicKey .mobile)
  | .error error => s.showFailure page faults error "Unable to verify the signed challenge."

/-- The end of a connection through the provider, the prompt or an extension. -/
def settleConnection (kind : PendingKind) (source : Source) (outcome : Outcome) : SessionState :=
  match received page kind outcome with
  | .ok publicKey => s.completeConnection page faults publicKey source
  | .error error => s.failConnection page faults error

/-- A redirection to a wallet app that fails is reported; one that succeeds leaves the page. -/
def settleMobileStart (outcome : Outcome) : SessionState :=
  match outcome with
  | .resolved _ => s
  | .rejected error => s.setStatus ("❌ " ++ errorMessage error "Unable to open the wallet app.")

/-- What runs when a promise settles. -/
def settle (kind : PendingKind) (outcome : Outcome) : SessionState :=
  match kind with
  | .restore => s.settleRestore page faults outcome
  | .mobileReturn => s.settleMobileReturn page faults outcome
  | .provider => s.settleConnection page faults kind .freighter outcome
  | .prompt => s.settleConnection page faults kind .manual outcome
  | .desktop wallet =>
    s.settleConnection page faults kind
      (if wallet.id = "freighter" then .freighter else .manual) outcome
  | .mobileStart _ _ => s.settleMobileStart outcome

end Settlements

/-! ### Dialogs -/

section Dialogs

variable (page : Page) (faults : Faults) (s : SessionState)

/-- Continue to a wallet app from the picker. -/
def confirmWallet (attempt : Attempt) (wallet : Wallet) (account : String) : SessionState :=
  (s.countStart.setStatus "Requesting SEP-10 challenge…").await
    ⟨s.starts + 1, attempt.disconnects⟩ (.mobileStart wallet account)

/-- Choose an extension. -/
def selectWallet (attempt : Attempt) (wallet : Wallet) : SessionState :=
  s.countStart.finishDesktopWallet ⟨s.starts + 1, attempt.disconnects⟩ wallet

/-- Submit an address in the form. -/
def submitAddress (address : String) : SessionState :=
  if isValidPublicKey address then s.completeConnection page faults address .manual
  else s.setStatus "Error: Enter a valid Stellar public key (starts with G, 56 chars)."

end Dialogs

end SessionState

/-! ### The session over time -/

inductive Step
  | initializeSession (pendingReturn : Bool) (faults : Faults)
  | connect (detected : List Wallet)
  | disconnect (faults : Faults)
  | handleAction (detected : List Wallet) (faults : Faults)
  | confirmWallet (wallet : Wallet) (account : String)
  | selectWallet (wallet : Wallet)
  | submitAddress (address : String) (faults : Faults)
  | cancelPicker (faults : Faults)
  | cancelChooser (faults : Faults)
  | cancelManualForm (faults : Faults)
  /-- The promise with a start number settles. -/
  | settle (start : ℕ) (outcome : Outcome) (faults : Faults)
  deriving DecidableEq

/-- Why a step cannot be taken. -/
inductive Failure
  | dialogClosed
  | notOffered
  | notPending
  deriving DecidableEq

/-- The promise with a start number. -/
def SessionState.awaited (s : SessionState) (start : ℕ) : Option Pending :=
  s.pending.find? fun pending ↦ pending.attempt.start = start

def sessionSystem (page : Page) : System Step SessionState Failure where
  exec step s :=
    match step with
    | .initializeSession pendingReturn faults =>
      pure (s.initializeSession page faults pendingReturn)
    | .connect detected => pure (s.connect page detected)
    | .disconnect faults => pure (s.disconnect page faults)
    | .handleAction detected faults => pure (s.handleAction page faults detected)
    | .confirmWallet wallet account => do
      let attempt ← orFail s.walletPicker .dialogClosed
      pure (s.confirmWallet attempt wallet account)
    | .selectWallet wallet => do
      let (attempt, offered) ← orFail s.desktopChooser .dialogClosed
      failIf (wallet ∉ offered) .notOffered
      pure (s.selectWallet attempt wallet)
    | .submitAddress address faults => do
      let _ ← orFail s.manualForm .dialogClosed
      pure (s.submitAddress page faults address)
    | .cancelPicker faults => do
      let _ ← orFail s.walletPicker .dialogClosed
      pure (s.cancelDialog page faults)
    | .cancelChooser faults => do
      let _ ← orFail s.desktopChooser .dialogClosed
      pure (s.cancelDialog page faults)
    | .cancelManualForm faults => do
      let _ ← orFail s.manualForm .dialogClosed
      pure (s.cancelDialog page faults)
    | .settle start outcome faults => do
      let pending ← orFail (s.awaited start) .notPending
      let s := { s with pending := s.pending.filter (· ≠ pending) }
      pure (s.settle page faults pending.kind outcome)

end OrbitChain.WalletConnect
