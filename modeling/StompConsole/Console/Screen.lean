import StompConsole.Client.Controller

/-!
# The console screen

What the console shows: a log of at most `maxLogLines` lines, each with the time it was written
and its kind, and a queue of alerts waiting to be acknowledged. The front alert is the one on
screen; when `maxPendingAlerts` are waiting, a new alert pushes out the oldest one *behind* the
shown one, so the alert on screen never changes under the reader.

Text from the broker goes through `sanitize` before it is logged, so that it cannot drive the
terminal.
-/

namespace StompConsole.Console

open Client

/-- How many log lines are kept. -/
def maxLogLines : Nat := 1000

/-- How many alerts may wait for acknowledgement. -/
def maxPendingAlerts : Nat := 32

/-- What a log line reports. -/
inductive LineKind where
  | info
  | notice
  | alert
  | error
  deriving DecidableEq, Repr

/-- The kind's name. -/
def LineKind.label : LineKind → String
  | .info => "info"
  | .notice => "notice"
  | .alert => "alert"
  | .error => "error"

/-- One log line. -/
structure LogLine where
  /-- The time of day it was written, `HH:MM:SS`. -/
  timestamp : String
  kind : LineKind
  text : String
  deriving DecidableEq, Repr

/-- Whether a character is kept on screen: tab, and everything from space on except DEL and the
C1 controls. -/
def keepsOnScreen (c : Char) : Bool :=
  c == '\t' || (c.toNat ≥ 0x20 && c.toNat != 0x7F && !(0x80 ≤ c.toNat && c.toNat ≤ 0x9F))

/-- **Remove terminal control characters** (escape sequences lose their `ESC`, C0 and C1
controls disappear). -/
def sanitize (s : String) : String := String.ofList (s.toList.filter keepsOnScreen)

/-- The screen: log and pending alerts. -/
structure Screen where
  /-- Oldest first. -/
  log : List LogLine := []
  /-- Oldest first; the front one is shown. -/
  alerts : List String := []
  /-- The time of day new lines are stamped with. -/
  clock : String := "00:00:00"
  deriving Repr

namespace Screen

/-- **Write a line**, sanitized; the oldest line goes when the log is full. -/
def push (s : Screen) (kind : LineKind) (text : String) : Screen :=
  let log := s.log ++ [⟨s.clock, kind, sanitize text⟩]
  { s with log := if log.length > maxLogLines then log.drop 1 else log }

/-- The alert on screen. -/
def currentAlert (s : Screen) : Option String := s.alerts.head?

/-- Acknowledge the alert on screen; tells whether there was one. -/
def dismissAlert (s : Screen) : Bool × Screen :=
  match s.alerts with
  | [] => (false, s)
  | _ :: rest => (true, { s with alerts := rest })

/-- **Show an alert**: log it and queue it, making room behind the shown alert if needed. -/
def showAlert (detail : String) (s : Screen) : Screen :=
  let s := s.push .alert detail
  let s :=
    if s.alerts.length ≥ maxPendingAlerts then
      match s.alerts with
      | front :: _ :: rest =>
        { s with alerts := front :: rest }.push .error
          "Too many pending alerts; the oldest unread one was dropped (still in the log)."
      | _ => s
    else s
  { s with alerts := s.alerts ++ [detail] }

/-- Stamp every line with the same time. -/
def withTimestamps (s : Screen) (t : String) : Screen :=
  { s with log := s.log.map fun l => { l with timestamp := t } }

end Screen

instance : Presenter Screen where
  showAlert := Screen.showAlert
  showMessage v s := s.push .notice v.compact
  showRejected dest e s := s.push .error ("Ignored message on " ++ dest ++ ": " ++ e.message)
  showStatus t s := s.push .info t

end StompConsole.Console
