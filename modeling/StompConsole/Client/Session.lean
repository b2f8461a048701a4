import StompConsole.Client.Controller

/-!
# Running sessions

A started session works on its own: it opens the transport, performs the handshake and reports
through the event channel, and a front end (the controller, or the console) reads the channel and
handles each event. This module runs that exchange for a network in which every attempt to open
the transport fails, with the same error each time.

Such a session announces the failed handshake and then, if retrying is off, fails; if retrying is
on, it waits and tries again for ever, so it never settles. The front end is taken to keep up
with the session: it handles each event before the session acts again, and it judges each state
change by the state at that moment.
-/

namespace StompConsole.Client

/-- What a front end offers a session run: its manager, and its reactions. -/
class FrontEnd (U : Type) where
  manager : U → Manager
  setManager : U → Manager → U
  connect : U → Except ConnectError Unit × U
  disconnect : U → Bool × U
  handleEvent : U → Event → U

instance {P : Type} [Presenter P] : FrontEnd (Controller P) where
  manager c := c.manager
  setManager c m := { c with manager := m }
  connect := Controller.connect
  disconnect := Controller.disconnect
  handleEvent := Controller.handleEvent

/-- One thing that happened in a run, with the front end after it. -/
inductive RunStep (U : Type) where
  | connected (result : Except ConnectError Unit) (after : U)
  | handled (event : Event) (after : U)
  | disconnected (existed : Bool) (after : U)

/-- What a session does on its own. -/
inductive SessionAction where
  | setState (state : ConnectionState)
  | emit (event : Event)

/-- **One attempt of a session** whose transport cannot be opened: it goes pending, reports the
failed handshake, and fails when retrying is off; when retrying is on it stays pending, announces
the retry, and the attempt repeats. -/
def failedAttempt (config : ConnectConfig) (error : ConnectError) : List SessionAction :=
  [.setState .pending, .emit (.handshakeFailed error.message)] ++
    (if config.reconnects then [.setState .pending, .emit (.reconnecting config.reconnectDelay)]
     else [.setState .failed])

/-- Whether an event ends the wait for a session: a change to failed or closed. -/
def Event.settles : Event → Bool
  | .stateChanged .failed | .stateChanged .closed => true
  | _ => false

variable {U : Type} [FrontEnd U]

/-- Handle every waiting event in order; tells whether one of them settled the session. -/
def handleWaiting (u : U) : List (RunStep U) × Bool × U :=
  let (events, m) := (FrontEnd.manager u).drain
  let u := FrontEnd.setManager u m
  events.foldl (fun (acc : List (RunStep U) × Bool × U) e =>
    let u := FrontEnd.handleEvent acc.2.2 e
    (acc.1 ++ [.handled e u], acc.2.1 || e.settles, u)) ([], false, u)

/-- Let the session of generation `g` act, the front end handling each event as it comes. -/
def act (g : UInt64) (u : U) (a : SessionAction) : List (RunStep U) × Bool × U :=
  let m := FrontEnd.manager u
  let m := match a with
    | .setState s => m.sessionSetState g s
    | .emit e => m.sessionEmit g e
  handleWaiting (FrontEnd.setManager u m)

/-- Run the actions of one attempt, stopping once the session settled. -/
def actAll (g : UInt64) : List SessionAction → U → List (RunStep U) × Bool × U
  | [], u => ([], false, u)
  | a :: rest, u =>
    let (steps, settled, u) := act g u a
    if settled then (steps, true, u)
    else
      let (more, settled, u) := actAll g rest u
      (steps ++ more, settled, u)

/-- **Connect and follow the session until it settles**, connecting again `restarts` more times
after it does. `none` when a session never settles: it retries for ever, or it could not
start. -/
def followSessions (error : ConnectError) : Nat → U → Option (List (RunStep U) × U)
  | restarts, u =>
    let (r, u) := FrontEnd.connect u
    match r with
    | .error _ => none
    | .ok _ =>
      let start := RunStep.connected r u
      let (waiting, settledEarly, u) := handleWaiting u
      let m := FrontEnd.manager u
      let g := m.generation
      let (steps, settled, u) :=
        if settledEarly then ([], true, u) else actAll g (failedAttempt m.config error) u
      if !(settledEarly || settled) then none
      else
        let steps := start :: waiting ++ steps
        match restarts with
        | 0 => some (steps, u)
        | n + 1 => (followSessions error n u).map fun (more, u) => (steps ++ more, u)

/-- **Disconnect** and handle the events that follow. -/
def disconnectAndHandle (u : U) : List (RunStep U) × U :=
  let (existed, u) := FrontEnd.disconnect u
  let (steps, _, u) := handleWaiting u
  (.disconnected existed u :: steps, u)

end StompConsole.Client
