import StompConsole.Client.State
import StompConsole.Payload.Problem
import StompConsole.Client.Config

/-!
# The connection manager

The manager owns at most one broker session. `connect` starts a session and returns at once; the
session itself runs apart from the manager and reports through the event channel. Every
`connect` and `disconnect` starts a new *generation*: a session publishes only while its
generation is current, so a session that was told to stop can never change what the console
shows.

The channel holds at most `eventCapacity` events. The manager's own state changes are dropped when
it is full; a session waits for room instead.
-/

/-!
## Session events

What a session reports to the console, in the order it happened: state changes, the broker's
acceptance, alerts and notifications from the two topics, payloads that could not be read, and the
ways a session ends or is retried.
-/

namespace StompConsole.Client

open Payload

/-- One report of the session. Durations are in milliseconds. -/
inductive Event where
  | stateChanged (state : ConnectionState)
  /-- The broker accepted the session; its `version` and `server` headers. -/
  | connected (version : Option String) (server : Option String)
  /-- Problem details from the error topic. -/
  | alert (details : ProblemDetails)
  /-- A value from the notification topic. -/
  | notification (value : Json.Value)
  /-- A message on one of the topics whose body was refused. -/
  | payloadRejected (destination : String) (error : PayloadError)
  /-- The broker sent `ERROR` during the session. -/
  | serverError (message : String)
  | handshakeFailed (reason : String)
  | disconnected (reason : String)
  | reconnecting (delay : Nat)

/-! ## The manager -/

/-- How many events the channel holds. -/
def eventCapacity : Nat := 256

/-- The manager's state. -/
structure Manager where
  config : ConnectConfig
  state : ConnectionState := .closed
  /-- The generation counter: a 64-bit word that wraps, as the atomic counter it stands for. -/
  generation : UInt64 := 0
  /-- The generation of the session that was started and not stopped since. -/
  session : Option UInt64 := none
  /-- Events not yet read, oldest first. -/
  events : List Event := []

namespace Manager

/-- A manager with no session. -/
def create (config : ConnectConfig) : Manager := { config := config }

/-- Set the state; a change is announced if the channel has room. -/
def publish (m : Manager) (s : ConnectionState) : Manager :=
  if m.state = s then m
  else
    { m with state := s,
             events := if m.events.length < eventCapacity then m.events ++ [.stateChanged s]
                       else m.events }

/-- **Start a session.** Refused while one is active, and when the endpoint URL is invalid; the
manager is then unchanged. -/
def connect (m : Manager) : Except ConnectError Manager := do
  if m.state.isActive then throw (.alreadyActive m.state)
  let _ ← m.config.endpointUrl
  let m := { m with generation := m.generation + 1 }
  let m := m.publish .pending
  return { m with session := some m.generation }

/-- **Stop the session** and set the state to closed. Tells whether a live session existed; one
that already ended by itself (failed, or closed without retry) does not count. -/
def disconnect (m : Manager) : Bool × Manager :=
  let live := m.state.isActive && m.session.isSome
  let m := { m with generation := m.generation + 1, session := none }
  (live, m.publish .closed)

/-- Read every waiting event. -/
def drain (m : Manager) : List Event × Manager := (m.events, { m with events := [] })

/-- Whether the manager is connected. -/
def isConnected (m : Manager) : Bool := m.state = .connected

/-- Whether a session of generation `g` may still publish. -/
def isCurrent (m : Manager) (g : UInt64) : Bool := m.generation = g

/-- A session of generation `g` sets the state; the change is announced. -/
def sessionSetState (m : Manager) (g : UInt64) (s : ConnectionState) : Manager :=
  if m.isCurrent g && m.state != s then { m with state := s, events := m.events ++ [.stateChanged s] }
  else m

/-- A session of generation `g` reports an event. -/
def sessionEmit (m : Manager) (g : UInt64) (e : Event) : Manager :=
  if m.isCurrent g then { m with events := m.events ++ [e] } else m

end Manager

end StompConsole.Client
