import StompConsole.Console.App
import StompConsole.Client.Session
import StompConsole.Console.Arguments
import StompConsole.Console.View

/-!
# The console's command line

Reads the command line and the settings file, merges them, and then either writes the settings
in effect back to the file (`--save-config`) or runs the console, a screen printed after every
line of input, until `q` or the end of the input.
-/

/-!
## The console driven by lines

The console run from lines of input rather than from a raw terminal: every character of a line is
a key press (a tab the Tab key, an escape character the Esc key) and an empty line is the Enter
key. Time moves a line at a time: after each line a live session takes its next attempt.

No network transport is built in, so every attempt fails with the same transport error; the
session then fails, or retries on the next line when retrying is on.
-/

namespace StompConsole.Console

open Client

/-- The error every connection attempt meets. -/
def noTransport : ConnectError := .transport "no network transport is available"

/-- **The keys a line stands for.** -/
def keysOfLine (line : String) : List Key :=
  if line.isEmpty then [{ code := .enter }]
  else line.toList.map fun c =>
    if c == '\t' then { code := .tab }
    else if c == '\x1b' then { code := .esc }
    else { code := .char c }

namespace App

/-- **Let a live session take its next attempt**, handling what it reports as it comes. -/
def advanceSession (a : App) : App :=
  let m := a.controller.manager
  match m.session with
  | some g => if m.state.isActive then (actAll g (failedAttempt m.config noTransport) a).2.2 else a
  | none => a

/-- **One line of input**: its keys, the events they caused, and the session's next attempt. -/
def step (a : App) (line : String) : App :=
  ((keysOfLine line).foldl handleKey a).pump.advanceSession

end App

/-! ## Running the console -/

/-- The screen's size. -/
def screenWidth : Nat := 80

/-- The screen's height. -/
def screenHeight : Nat := 24

/-- Read the settings file at `path`: none when there is no file, and none with a warning when it
cannot be read or is not valid. -/
def loadSettingsFile (path : String) : IO Settings := do
  match ← (IO.FS.readFile path).toBaseIO with
  | .error (.noFileOrDirectory ..) => return {}
  | .error e =>
    IO.eprintln ("Warning: can't read " ++ path ++ ": " ++ toString e)
    return {}
  | .ok text =>
    match Settings.parse text with
    | .ok s => return s
    | .error e =>
      IO.eprintln ("Warning: bad config file " ++ path ++ ": " ++ e)
      return {}

/-- Write settings to `path`, creating its directory. -/
def saveSettingsFile (path : String) (s : Settings) : IO Unit := do
  match s.toText with
  | .error e => throw (IO.userError e)
  | .ok text =>
    if let some dir := parentDirectory path then IO.FS.createDirAll dir
    IO.FS.writeFile path text

/-- Print the screen. -/
def showScreen (a : App) (secs : Nat) : IO Unit := do
  for line in (draw a screenWidth screenHeight secs).lines do
    IO.println line
  (← IO.getStdout).flush

/-- Run the console on the lines of standard input. -/
partial def runConsole (a : App) (started : Nat) : IO App := do
  showScreen a (((← IO.monoMsNow) - started) / 1000)
  let line ← (← IO.getStdin).getLine
  if line.isEmpty then return a
  let a := a.step (String.ofList (line.toList.filter fun c => c != '\n' && c != '\r'))
  if a.shouldQuit then return a
  runConsole a started

end StompConsole.Console

open StompConsole.Console

/-- **The console's entry point.** -/
def main (args : List String) : IO UInt32 := do
  let mut found : List (String × String) := []
  for name in environmentNames do
    if let some v ← IO.getEnv name then found := (name, v) :: found
  let env := fun k => found.lookup k
  match readInvocation args env with
  | .error message =>
    IO.eprint message
    return 2
  | .ok inv =>
    if inv.help then
      IO.print helpText
      return 0
    let path := inv.settingsFile.getD (settingsPath env)
    let settings ← loadSettingsFile path
    match Resolved.merge inv.commandLine settings with
    | .error message =>
      IO.eprintln ("Error: " ++ message)
      return 1
    | .ok resolved =>
      if inv.saveSettings then
        let logFile := resolved.logFile.getD (defaultLogPath env)
        try saveSettingsFile path (resolved.toSettings logFile)
        catch e =>
          IO.eprintln ("Error: " ++ toString e)
          return 1
        IO.eprintln ("Saved settings to " ++ path)
        return 0
      let a := App.create resolved.connect
      let a := if resolved.autoConnect then (a.connect).2.pump.advanceSession else a
      let _ ← runConsole a (← IO.monoMsNow)
      return 0
