import StompConsole.Console.Screen
import StompConsole.Client.Session

/-!
# The console application

The console is the controller with a `Screen` as its presenter, a keyboard focus on one of the
two buttons, and the moment the current session connected (for the uptime in the status bar).

Keys act only when pressed (not on release or repeat). `Ctrl+C` always quits. While an alert is
shown, only `Enter` and `Esc` do anything: they acknowledge it. Otherwise `q` quits, `c` and `d`
press the connect and disconnect buttons, `Tab`, `BackTab`, `Left` and `Right` move the focus,
and `Enter` or space press the focused button. A disabled button ignores presses.
-/

namespace StompConsole.Console

open Client

/-- Which button has the keyboard focus. -/
inductive Focus where
  | connect
  | disconnect
  deriving DecidableEq, Repr

/-- The focus's name. -/
def Focus.label : Focus → String
  | .connect => "connect"
  | .disconnect => "disconnect"

/-- The other button. -/
def Focus.toggle : Focus → Focus
  | .connect => .disconnect
  | .disconnect => .connect

/-- A key of the keyboard. -/
inductive KeyCode where
  | char (c : Char)
  | esc
  | enter
  | tab
  | backTab
  | left
  | right
  | up
  | down
  | backspace
  | function (n : Nat)
  deriving DecidableEq, Repr

/-- Whether a key went down, came up, or repeats. -/
inductive KeyKind where
  | press
  | release
  | repeat
  deriving DecidableEq, Repr

/-- A key event. -/
structure Key where
  code : KeyCode
  control : Bool := false
  shift : Bool := false
  alt : Bool := false
  kind : KeyKind := .press
  deriving DecidableEq, Repr

/-- The console's state. -/
structure App where
  controller : Controller Screen
  focus : Focus := .connect
  /-- The server shown in the status bar: base URL and endpoint. -/
  serverUrl : String
  /-- Whether the current session's connection time is recorded. -/
  connectedAt : Bool := false
  shouldQuit : Bool := false

namespace App

/-- The first line of every log. -/
def greeting : String := "Press c to connect, d to disconnect, q to quit."

/-- **A new console**, greeting the user. -/
def create (config : ConnectConfig) : App :=
  let screen : Screen := ({} : Screen).push .info greeting
  { controller := Controller.create config screen, serverUrl := config.baseUrl ++ config.endpoint }

/-- The screen. -/
def screen (a : App) : Screen := a.controller.presenter

/-- The session state. -/
def state (a : App) : ConnectionState := a.controller.manager.state

/-- Change the screen. -/
def withScreen (a : App) (f : Screen → Screen) : App :=
  { a with controller := { a.controller with presenter := f a.screen } }

/-- **Connect**, logging the attempt or why it was refused. -/
def connect (a : App) : Except ConnectError Unit × App :=
  let (r, c) := a.controller.connect
  let a := { a with controller := c }
  match r with
  | .ok _ => (r, a.withScreen fun s => s.push .info ("Connecting to " ++ a.serverUrl))
  | .error e => (r, a.withScreen fun s => s.push .error ("Connect: " ++ e.message))

/-- **Disconnect** and log it. -/
def disconnect (a : App) : App :=
  let (_, c) := a.controller.disconnect
  { a with controller := c, connectedAt := false }.withScreen fun s => s.push .info "Disconnected"

/-- **Shut down**: stop a live session, logging it only if there was one. -/
def shutdown (a : App) : App :=
  let (existed, c) := a.controller.disconnect
  let a := { a with controller := c, connectedAt := false }
  if existed then a.withScreen fun s => s.push .info "Disconnected" else a

/-- **Handle an event.** A state change is judged by the live state, since a queued event may be
stale: a connected session records its start, a failed one asks for a retry. -/
def handleEvent (a : App) (e : Event) : App :=
  let a := { a with controller := a.controller.handleEvent e }
  match e with
  | .stateChanged _ =>
    match a.state with
    | .connected => { a with connectedAt := true }
    | .failed =>
      { a with connectedAt := false }.withScreen fun s =>
        s.push .error "Connection failed; press c to retry."
    | _ => { a with connectedAt := false }
  | _ => a

/-- Press a button, unless it is disabled. -/
def activate (a : App) (target : Focus) : App :=
  let control := match target with
    | .connect => a.controller.controls.connect
    | .disconnect => a.controller.controls.disconnect
  if !control.isEnabled then a
  else
    let a := { a with focus := target }
    match target with
    | .connect => (a.connect).2
    | .disconnect => a.disconnect

/-- **Handle a key.** -/
def handleKey (a : App) (k : Key) : App :=
  if k.kind != .press then a
  else if k.control && k.code = .char 'c' then { a with shouldQuit := true }
  else if a.screen.currentAlert.isSome then
    if k.code = .esc || k.code = .enter then a.withScreen fun s => (s.dismissAlert).2 else a
  else
    match k.code with
    | .char 'q' => { a with shouldQuit := true }
    | .char 'c' => a.activate .connect
    | .char 'd' => a.activate .disconnect
    | .tab | .backTab | .left | .right => { a with focus := a.focus.toggle }
    | .enter | .char ' ' => a.activate a.focus
    | _ => a

/-- Feed every waiting event to `handleEvent`. -/
def pump (a : App) : App :=
  let (events, c) := a.controller.drain
  events.foldl handleEvent { a with controller := c }

end App

instance : FrontEnd App where
  manager a := a.controller.manager
  setManager a m := { a with controller := { a.controller with manager := m } }
  connect := App.connect
  disconnect a := ((a.controller.disconnect).1, a.disconnect)
  handleEvent := App.handleEvent

end StompConsole.Console
