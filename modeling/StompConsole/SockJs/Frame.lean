import StompConsole.Json.Read

/-!
# SockJS framing

Over its WebSocket transport, a SockJS server wraps everything it sends in a frame whose first
character is its type:

| frame | meaning |
|---|---|
| `o` | the session is open |
| `h` | heart-beat |
| `a["m1","m2"]` | messages |
| `m"m"` | one message |
| `c[code,"reason"]` | the session is closing |

Only the first character selects the type; whatever follows `o` or `h` is ignored, and the JSON
after `a`, `m` and `c` must be exactly of the frame's shape. The client sends each payload as a
one-element JSON array of strings.
-/

namespace StompConsole.SockJs

open Json

/-- A frame received from a SockJS server. -/
inductive Frame where
  | opened
  | heartbeat
  | messages (payloads : List String)
  | close (code : Nat) (reason : String)
  deriving DecidableEq, Repr

/-- Why a text is not a SockJS frame. -/
inductive FrameError where
  /-- The text is empty. -/
  | empty
  /-- The first character is no frame type. -/
  | unknownType (c : Char)
  /-- The JSON after the type is not of the frame's shape. -/
  | payload (message : String)
  deriving DecidableEq, Repr

/-- The text of a framing error. -/
def FrameError.message : FrameError → String
  | .empty => "empty SockJS frame"
  | .unknownType c => "unknown SockJS frame type " ++ Text.quoteChar c
  | .payload m => "malformed SockJS payload: " ++ m

/-- Read the JSON after a frame's type with `reader`. -/
def readPayload {α : Type} (reader : Cursor → Except Json.Error (α × Cursor)) (rest : List Char) :
    Except FrameError α :=
  match readAll reader (String.ofList rest) with
  | .ok v => .ok v
  | .error e => .error (.payload e.message)

/-- **Decoding a frame.** -/
def decode (text : String) : Except FrameError Frame :=
  match text.toList with
  | [] => .error .empty
  | 'o' :: _ => .ok .opened
  | 'h' :: _ => .ok .heartbeat
  | 'a' :: rest => (readPayload readStringArray rest).map .messages
  | 'm' :: rest => (readPayload readString rest).map fun s => .messages [s]
  | 'c' :: rest => (readPayload readCodeReason rest).map fun (code, reason) => .close code reason
  | c :: _ => .error (.unknownType c)

/-- **Encoding a payload** as the one-element JSON array the client sends. -/
def encode (payload : String) : String := stringArrayText [payload]

end StompConsole.SockJs
