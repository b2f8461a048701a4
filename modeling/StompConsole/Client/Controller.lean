import StompConsole.Client.Manager
import StompConsole.Numeric.Shortest

/-!
# The controller

The controller joins the manager to a user interface. It keeps the connect and disconnect buttons
in step with the session (one of them enabled, the disconnect button exactly while a session is
active) and turns every event into something shown: a status line, an alert, a message, or a
refused payload.

What is shown is up to the `Presenter`; a `Recorder` keeps every call in order.
-/

namespace StompConsole.Client

open Payload Numeric

/-- **A user interface** as the controller sees it. -/
class Presenter (P : Type) where
  /-- Show an alert's detail. -/
  showAlert : String → P → P
  /-- Show a notification. -/
  showMessage : Json.Value → P → P
  /-- Show that a payload on `destination` was refused. -/
  showRejected : String → PayloadError → P → P
  /-- Show a status line. -/
  showStatus : String → P → P

/-- One call of a presenter, with its text. -/
inductive Presented where
  | alert (detail : String)
  | message (text : String)
  | rejected (destination : String) (error : String)
  | status (text : String)
  deriving DecidableEq, Repr

/-- A presenter that keeps every call, oldest first. -/
structure Recorder where
  calls : List Presented := []

instance : Presenter Recorder where
  showAlert d r := ⟨r.calls ++ [.alert d]⟩
  showMessage v r := ⟨r.calls ++ [.message v.compact]⟩
  showRejected dest e r := ⟨r.calls ++ [.rejected dest e.message]⟩
  showStatus t r := ⟨r.calls ++ [.status t]⟩

/-- **A duration in seconds** as a single-precision number: the whole seconds and the remaining
nanoseconds are each rounded, the nanoseconds divided by 10⁹, and the two added. -/
def secondsSingle (ms : Nat) : BinFloat binary32 :=
  let secs := BinFloat.ofNat binary32 (ms / 1000)
  let nanos := BinFloat.ofNat binary32 (ms % 1000 * 1000000)
  BinFloat.addNonneg secs (BinFloat.div nanos (BinFloat.ofNat binary32 1000000000))

/-- The text of a retry delay, in seconds. -/
def retryText (ms : Nat) : String :=
  "Retrying in " ++ (secondsSingle ms).positionalText ++ "s"

/-- The controller's state. -/
structure Controller (P : Type) where
  manager : Manager
  controls : ControlPair := .initial
  presenter : P

namespace Controller

variable {P : Type} [Presenter P]

/-- A controller with no session. -/
def create (config : ConnectConfig) (presenter : P) : Controller P :=
  { manager := .create config, presenter := presenter }

/-- Show the session as active exactly when the manager's state is. -/
def syncControls (c : Controller P) : Controller P :=
  { c with controls := c.controls.setConnected c.manager.state.isActive }

/-- **Connect**: start a session and bring the buttons in step. -/
def connect (c : Controller P) : Except ConnectError Unit × Controller P :=
  match c.manager.connect with
  | .ok m => (.ok (), syncControls { c with manager := m })
  | .error e => (.error e, syncControls c)

/-- **Disconnect**: stop the session; the buttons show no session. -/
def disconnect (c : Controller P) : Bool × Controller P :=
  let (existed, m) := c.manager.disconnect
  (existed, { c with manager := m, controls := c.controls.setConnected false })

/-- The status line for a broker's acceptance. -/
def connectedText (version server : Option String) : String :=
  "Connected to " ++ server.getD "broker" ++ " (STOMP " ++ version.getD "1.0" ++ ")"

/-- **Handle one event.** -/
def handleEvent (c : Controller P) (e : Event) : Controller P :=
  let present (f : P → P) : Controller P := { c with presenter := f c.presenter }
  match e with
  | .stateChanged _ => syncControls c
  | .connected version server => present (Presenter.showStatus (connectedText version server))
  | .alert details => present (Presenter.showAlert details.detail)
  | .notification value => present (Presenter.showMessage value)
  | .payloadRejected destination error => present (Presenter.showRejected destination error)
  | .serverError message => present (Presenter.showStatus ("Broker error: " ++ message))
  | .handshakeFailed reason => present (Presenter.showStatus ("Handshake failed: " ++ reason))
  | .disconnected reason => present (Presenter.showStatus ("Connection lost: " ++ reason))
  | .reconnecting delay => present (Presenter.showStatus (retryText delay))

/-- Read every waiting event. -/
def drain (c : Controller P) : List Event × Controller P :=
  let (events, m) := c.manager.drain
  (events, { c with manager := m })

end Controller

end StompConsole.Client
