import StompConsole.Terminal.Buffer
import StompConsole.Console.App
import StompConsole.Terminal.Widgets

/-!
# Drawing the console

The console is four bands, top to bottom: a status bar with the session state and the server,
the two buttons (each a bordered box titled with its element id), the log in a bordered box showing
its newest lines, and a line of key hints. An alert waiting for acknowledgement is drawn over the
middle of the screen in its own box, its text wrapped and centred, with how many more alerts wait
behind it.
-/

/-!
## Layouts

A layout splits a rectangle along one axis into bands. Each band states what it wants (a fixed
length, a minimum, a percentage of the whole) and the bands share the space by minimising the
weighted sum of how far each misses, where the weights rank the wishes: a minimum outweighs a fixed
length, which outweighs a percentage, which outweighs the wish of a minimum band to take
everything, which outweighs the slight preference of neighbouring bands for equal sizes. The
optimum may fall between cells; band edges are rounded to the nearest cell, halves away from
zero.

The console uses three fixed layouts, solved here once and for all.
-/

namespace StompConsole.Terminal

/-- `n / d` rounded to the nearest whole number, halves up. -/
def divRound (n d : Nat) : Nat := (2 * n + d) / (2 * d)

/-- **The console's bands**, top to bottom: status bar (wants 1 row), buttons (3), log (at least
3) and key hints (1), as their heights.

With room for all, the log takes what the others leave. Short of room, the log keeps its 3 rows
first and the fixed bands give way; the preference for equal neighbours then decides which, and
takes rows from the buttons before the bars. With 5 rows the optimum puts half a row each in the
status bar and the buttons, which rounding gives to the status bar. Below 3 rows the log takes
all. -/
def consoleBands (height : Nat) : List Nat :=
  match height with
  | 0 | 1 | 2 => [0, 0, height, 0]
  | 3 => [0, 0, 3, 0]
  | 4 => [0, 0, 3, 1]
  | 5 => [1, 0, 3, 1]
  | 6 => [1, 1, 3, 1]
  | 7 => [1, 2, 3, 1]
  | h => [1, 3, h - 5, 1]

/-- The rectangles of bands of the given heights stacked from the top of `area`. -/
def stackRows (area : Rect) (heights : List Nat) : List Rect :=
  (heights.foldl (fun (acc : List Rect × Nat) h => (acc.1 ++ [⟨area.x, acc.2, area.width, h⟩], acc.2 + h))
    ([], area.y)).1

/-- **The two buttons' columns**, as their widths: 18 each when there is room, otherwise an even
split, the odd column going to the first. -/
def buttonColumns (width : Nat) : Nat × Nat :=
  if width ≥ 36 then (18, 18) else ((width + 1) / 2, width / 2)

/-- **The alert's rectangle**: the middle 60% of the width and 30% of the height, its edges rounded
to the nearest cell. -/
def centeredAlert (area : Rect) : Rect :=
  let left := divRound (area.width * 20) 100
  let right := divRound (area.width * 80) 100
  let top := divRound (area.height * 35) 100
  let bottom := divRound (area.height * 65) 100
  ⟨area.x + left, area.y + top, right - left, bottom - top⟩

end StompConsole.Terminal

/-! ## Drawing -/

namespace StompConsole.Console

open Terminal

/-- A number written with at least two digits. -/
def twoDigits (n : Nat) : String := if n < 10 then "0" ++ toString n else toString n

/-- The uptime shown after the server, `" | up HH:MM:SS"`, for a session connected `secs` seconds
ago. -/
def uptimeText (secs : Nat) : String :=
  " | up " ++ twoDigits (secs / 3600) ++ ":" ++ twoDigits (secs / 60 % 60) ++ ":" ++
    twoDigits (secs % 60)

/-- The spans of the status bar. -/
def statusSpans (a : App) (secs : Nat) : List String :=
  [" [" ++ a.state.label ++ "]", " " ++ a.serverUrl ++ (if a.connectedAt then uptimeText secs else "")]

/-- The marker of a log line's kind. -/
def LineKind.marker : LineKind → String
  | .info => "***"
  | .notice => "<<<"
  | .alert => "!!!"
  | .error => "xxx"

/-- The spans of a log line. -/
def logSpans (l : LogLine) : List String := [l.timestamp ++ " ", l.kind.marker ++ " " ++ l.text]

/-- The key hints. -/
def hintText : String := " c connect  d disconnect  Tab focus  Enter press  q quit"

/-- **The lines of a text**: split at line feeds, each line without a final carriage return, and
no empty line after a final line feed. -/
def textLines (s : String) : List String :=
  let pieces := Text.splitOn '\n' s.toList
  let pieces := if pieces.getLast? = some [] then pieces.dropLast else pieces
  pieces.map fun p => String.ofList (if p.getLast? = some '\r' then p.dropLast else p)

/-- The footer of the alert box. -/
def alertFooter (pending : Nat) : String :=
  if pending > 1 then "[Enter/Esc] OK (" ++ toString (pending - 1) ++ " more)" else "[Enter/Esc] OK"

/-- Draw one button. -/
def drawButton (b : Buffer) (area : Rect) (control : Client.Control) (label : String) : Buffer :=
  let b := drawBlock b area control.id
  drawCutParagraph b area.inner .center [[label]]

/-- Draw the log box with its newest lines. -/
def drawLog (b : Buffer) (area : Rect) (log : List LogLine) : Buffer :=
  let b := drawBlock b area " log "
  let inner := area.inner
  let shown := log.drop (log.length - inner.height)
  drawCutParagraph b inner .left (shown.map logSpans)

/-- Draw the alert box over the middle of the screen. -/
def drawAlert (b : Buffer) (detail : String) (pending : Nat) : Buffer :=
  let area := centeredAlert b.area
  let b := b.clear area
  let b := drawBlock b area " Alert "
  let lines := (textLines detail).map sanitize ++ ["", alertFooter pending]
  drawWrappedParagraph b area.inner .center lines

/-- **Draw the console** on a `width × height` screen; a connected session has been up `secs`
seconds. -/
def draw (a : App) (width height secs : Nat) : Buffer :=
  let b := Buffer.blank width height
  let bands := stackRows b.area (consoleBands height)
  let band (i : Nat) : Rect := bands.getD i ⟨0, 0, 0, 0⟩
  let b := drawCutParagraph b (band 0) .left [statusSpans a secs]
  let controls := band 1
  let (w1, w2) := buttonColumns width
  let b := drawButton b ⟨0, controls.y, w1, controls.height⟩ a.controller.controls.connect "Connect"
  let b := drawButton b ⟨w1, controls.y, w2, controls.height⟩ a.controller.controls.disconnect
    "Disconnect"
  let b := drawLog b (band 2) a.screen.log
  let b := drawCutParagraph b (band 3) .left [[hintText]]
  match a.screen.currentAlert with
  | some detail => drawAlert b detail a.screen.alerts.length
  | none => b

end StompConsole.Console
