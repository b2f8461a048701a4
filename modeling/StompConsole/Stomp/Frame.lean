import StompConsole.Text.Basic
import StompConsole.Stomp.Command

/-!
# Frames, their headers and heart-beats

A STOMP frame is a command, headers in wire order, and a body. This file gives the escaping of
header fields, the heart-beat header and its negotiation, and the frame with its wire form.
-/

/-!
## Header escaping

In a STOMP 1.2 frame other than the connection-opening ones, a header name or value is written
with four escapes, so that the line and colon structure of the header block stays unambiguous:

| character | written |
|---|---|
| backslash | `\\` |
| LF | `\n` |
| CR | `\r` |
| colon | `\c` |

Reading undoes them. Any other character after a backslash, or a backslash at the very end, is
not an escape, and the whole field is refused.
-/

namespace StompConsole.Stomp

open Text

/-- **Escaping** a header field, character by character. -/
def escapeChars : List Char → List Char
  | [] => []
  | c :: cs =>
    (if c = '\\' then ['\\', '\\']
     else if c = '\n' then ['\\', 'n']
     else if c = '\r' then ['\\', 'r']
     else if c = ':' then ['\\', 'c']
     else [c]) ++ escapeChars cs

/-- The character that the escape `\e` stands for, if `\e` is an escape. -/
def escapeMeaning (e : Char) : Option Char :=
  if e = '\\' then some '\\'
  else if e = 'n' then some '\n'
  else if e = 'r' then some '\r'
  else if e = 'c' then some ':'
  else none

/-- **Unescaping** a header field, or `none` when it holds a backslash that starts no escape. -/
def unescapeChars : List Char → Option (List Char)
  | [] => some []
  | '\\' :: e :: cs =>
    match escapeMeaning e, unescapeChars cs with
    | some c, some rest => some (c :: rest)
    | _, _ => none
  | '\\' :: [] => none
  | c :: cs => (c :: ·) <$> unescapeChars cs

/-- The escaped form of a header field. -/
def escapeHeader (s : String) : String := String.ofList (escapeChars s.toList)

/-- The unescaped form of a header field, or `none` when it holds an invalid escape. -/
def unescapeHeader (s : String) : Option String := String.ofList <$> unescapeChars s.toList

/-!
## Heart-beats

A `heart-beat:sx,sy` header offers two intervals in milliseconds: how often the sender will send
something (`sx`, outgoing) and how often it wants to hear from its peer (`sy`, incoming). Zero
means "never". Each side reads the other's offer and keeps, for each direction, the larger of
the two intervals, unless either side said zero, which turns that direction off.
-/

/-- Heart-beat intervals in milliseconds; zero means none. -/
structure Heartbeat where
  /-- How often we send something. -/
  outgoing : Nat
  /-- How often we expect to hear from the peer. -/
  incoming : Nat
  deriving DecidableEq, Repr, Inhabited

namespace Heartbeat

/-- No heart-beats in either direction. -/
def disabled : Heartbeat := ⟨0, 0⟩

/-- The `sx,sy` header value. -/
def toHeader (h : Heartbeat) : String := toString h.outgoing ++ "," ++ toString h.incoming

/-- One field of the header: trimmed, then an unsigned 64-bit number. -/
def parseField (cs : List Char) : Option Nat := parseUnsigned 64 (trimWhite cs)

/-- **Reading a heart-beat header**: the text is split at its first comma, and both sides must be
unsigned 64-bit numbers once trimmed. -/
def parse (value : String) : Option Heartbeat :=
  match value.toList.span (· != ',') with
  | (a, _ :: b) =>
    match parseField a, parseField b with
    | some x, some y => some ⟨x, y⟩
    | _, _ => none
  | (_, []) => none

/-- One direction of the negotiation: off if either side is off, else the larger interval. -/
def pick (ours theirs : Nat) : Nat :=
  if ours = 0 ∨ theirs = 0 then 0 else max ours theirs

/-- **Negotiation**: we send every `pick ours.outgoing server.incoming` and expect data every
`pick ours.incoming server.outgoing`. -/
def negotiate (ours server : Heartbeat) : Heartbeat :=
  ⟨pick ours.outgoing server.incoming, pick ours.incoming server.outgoing⟩

end Heartbeat

/-!
## Frames and their wire form

A frame is a command, headers in wire order, and a body. Its wire form is

    COMMAND LF (name ":" value LF)* LF body NUL

with names and values escaped for every command but the connection-opening ones. A header may
repeat; lookups return its first occurrence. A text message on the wire may also carry bare
end-of-line characters between frames, which are heart-beats.
-/

/-- The protocol versions offered when connecting. -/
def acceptVersion : String := "1.1,1.2"

/-- A STOMP frame. -/
structure Frame where
  command : Command
  /-- Headers in wire order. -/
  headers : List (String × String)
  body : String
  deriving DecidableEq, Repr, Inhabited

/-- One item of a text message: a heart-beat end-of-line or a frame. -/
inductive Incoming where
  | heartbeat
  | frame (f : Frame)
  deriving DecidableEq, Repr

namespace Frame

/-- **Header lookup**: the value of the first header called `name`. -/
def get (f : Frame) (name : String) : Option String :=
  (f.headers.find? (·.1 == name)).map (·.2)

/-- The wire form of one header line, without its LF. -/
def headerLine (escape : Bool) (h : String × String) : List Char :=
  if escape then escapeChars h.1.toList ++ ':' :: escapeChars h.2.toList
  else h.1.toList ++ ':' :: h.2.toList

/-- The wire form of the frame, as characters. -/
def render (f : Frame) : List Char :=
  f.command.name.toList ++ '\n' ::
    (f.headers.flatMap (fun h => headerLine f.command.escapesHeaders h ++ ['\n'])) ++
    '\n' :: f.body.toList ++ ['\x00']

/-- **Encoding**: the wire form of the frame, with its trailing NUL. -/
def encode (f : Frame) : String := String.ofList f.render

/-- The `CONNECT` frame that opens every session. -/
def connectFrame (host : String) (heartbeat : Heartbeat) : Frame :=
  ⟨.connect, [("accept-version", acceptVersion), ("heart-beat", heartbeat.toHeader),
    ("host", host)], ""⟩

/-- A `SUBSCRIBE` frame for one destination. -/
def subscribeFrame (id destination : String) : Frame :=
  ⟨.subscribe, [("id", id), ("destination", destination)], ""⟩

/-- A `DISCONNECT` frame asking for a receipt. -/
def disconnectFrame (receipt : String) : Frame :=
  ⟨.disconnect, [("receipt", receipt)], ""⟩

end Frame

/-- The wire form of a sequence of items: each frame encoded, each heart-beat as one LF. -/
def renderItems (items : List Incoming) : List Char :=
  items.flatMap fun
    | .heartbeat => ['\n']
    | .frame f => f.render

end StompConsole.Stomp
