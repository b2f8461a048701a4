/-!
# Connection state and the connect/disconnect controls

A session is `closed` until it is asked to connect, `pending` while the transport opens and the
broker answers, `connected` after the broker's `CONNECTED`, and `failed` when the handshake or
the session broke and no retry follows. Pending and connected sessions are *active*: a second
connect is refused while one is active.

The console shows two buttons, connect and disconnect; exactly one of them is enabled at any
time, and which one tells whether the console shows the session as connected.
-/

namespace StompConsole.Client

/-- The state of the broker session. -/
inductive ConnectionState where
  | closed
  | pending
  | connected
  | failed
  deriving DecidableEq, Repr

/-- The state's name, as shown and logged. -/
def ConnectionState.label : ConnectionState → String
  | .closed => "closed"
  | .pending => "pending"
  | .connected => "connected"
  | .failed => "failed"

/-- Whether a session in this state is under way, so that a second one may not start. -/
def ConnectionState.isActive : ConnectionState → Bool
  | .pending | .connected => true
  | .closed | .failed => false

/-- A state from its name. -/
def ConnectionState.ofLabel : String → Option ConnectionState
  | "closed" => some .closed
  | "pending" => some .pending
  | "connected" => some .connected
  | "failed" => some .failed
  | _ => none

/-- The element id of the connect button. -/
def connectControlId : String := "wsConnect"

/-- The element id of the disconnect button. -/
def disconnectControlId : String := "wsDisconnect"

/-- One button: its element id and whether it is disabled. -/
structure Control where
  id : String
  disabled : Bool
  deriving DecidableEq, Repr

/-- Whether the button can be pressed. -/
def Control.isEnabled (c : Control) : Bool := !c.disabled

/-- The two buttons. -/
structure ControlPair where
  connect : Control
  disconnect : Control
  deriving DecidableEq, Repr

/-- The buttons of a console that is not connected: connect enabled, disconnect disabled. -/
def ControlPair.initial : ControlPair :=
  ⟨⟨connectControlId, false⟩, ⟨disconnectControlId, true⟩⟩

/-- Show the session as connected or not: exactly one button is enabled. -/
def ControlPair.setConnected (p : ControlPair) (connected : Bool) : ControlPair :=
  ⟨{ p.connect with disabled := connected }, { p.disconnect with disabled := !connected }⟩

/-- Whether the buttons show a connected session. -/
def ControlPair.showsConnected (p : ControlPair) : Bool := p.disconnect.isEnabled

/-- How many buttons are enabled. -/
def ControlPair.enabledCount (p : ControlPair) : Nat :=
  ([p.connect, p.disconnect].filter Control.isEnabled).length

end StompConsole.Client
