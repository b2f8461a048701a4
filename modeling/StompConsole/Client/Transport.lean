import StompConsole.Client.Config

/-!
# The transport

A session talks to the broker over a WebSocket, either directly (each text message is one STOMP
payload) or through SockJS framing (each text message is a SockJS frame, whose `a` and `m` frames
carry the payloads). This module says what one read from the WebSocket gives a session, and what
text a payload is written as.

A read is taken apart in two layers. The WebSocket layer (`WsRead.rawText`) keeps text and the
end of the connection: binary data counts as text when it is UTF-8 and is skipped otherwise, the
library answers pings and pongs itself, and a connection that ends without a close frame is
closed with code 1006. The framing layer (`TransportKind.receive`) turns the text into payloads,
a heart-beat or a close.
-/

namespace StompConsole.SockJs

/-- How a SockJS frame is named in a diagnostic, with its contents quoted. -/
def Frame.describe : Frame → String
  | .opened => "Open"
  | .heartbeat => "Heartbeat"
  | .messages ps => "Messages([" ++ ", ".intercalate (ps.map Text.quoteString) ++ "])"
  | .close code reason =>
    "Close \x7b code: " ++ toString code ++ ", reason: " ++ Text.quoteString reason ++ " \x7d"

end StompConsole.SockJs

namespace StompConsole.Client

/-- A message read from the WebSocket. -/
inductive WsMessage where
  | text (payload : String)
  | binary (bytes : ByteArray)
  /-- A close frame, with its code and reason when it has them. -/
  | close (frame : Option (Nat × String))
  /-- A ping, a pong or a raw frame, which the WebSocket library answers itself. -/
  | control

/-- What one read from the WebSocket returned. -/
inductive WsRead where
  | message (m : WsMessage)
  /-- The connection ended without a close frame. -/
  | ended
  /-- The read failed, with the WebSocket library's error text. -/
  | failed (text : String)

/-- A read as the WebSocket layer passes it on: text, or the end of the connection. -/
inductive RawText where
  | text (payload : String)
  | closed (code : Nat) (reason : String)

/-- **The WebSocket layer of a read.** `none` when the read goes on: a control message, or binary
data that is not UTF-8. A close frame without a code has code 1005. -/
def WsRead.rawText : WsRead → Option (Except ConnectError RawText)
  | .message (.text s) => some (.ok (.text s))
  | .message (.binary b) => (String.fromUTF8? b).map fun s => .ok (.text s)
  | .message (.close (some (code, reason))) => some (.ok (.closed code reason))
  | .message (.close none) => some (.ok (.closed 1005 ""))
  | .message .control => none
  | .ended => some (.ok (.closed 1006 "stream ended"))
  | .failed t => some (.error (.transport t))

/-- What one read gives a session. -/
inductive Received where
  /-- STOMP payloads, in order; none for a repeated SockJS open frame. -/
  | payloads (ps : List String)
  /-- A SockJS heart-beat. -/
  | heartbeat
  | closed (code : Nat) (reason : String)

/-- **The framing layer of a read**: over a plain WebSocket a text is one STOMP payload; over
SockJS it is a SockJS frame. -/
def TransportKind.receive : TransportKind → RawText → Except ConnectError Received
  | _, .closed code reason => .ok (.closed code reason)
  | .webSocket, .text t => .ok (.payloads [t])
  | .sockJs, .text t =>
    match SockJs.decode t with
    | .ok (.messages ps) => .ok (.payloads ps)
    | .ok .heartbeat => .ok .heartbeat
    | .ok .opened => .ok (.payloads [])
    | .ok (.close code reason) => .ok (.closed code reason)
    | .error e => .error (.sockJs e)

/-- **The text a payload is written as**: a one-element SockJS array, or the payload itself. -/
def TransportKind.frameText : TransportKind → String → String
  | .sockJs, p => SockJs.encode p
  | .webSocket, p => p

/-- **Waiting for the SockJS open frame**, one raw read: the transport is open, or the attempt
fails. Any frame but the open frame fails it, a close frame as a close. -/
def openReply : RawText → Except ConnectError Unit
  | .closed code reason => .error (.closedDuringHandshake code reason)
  | .text t =>
    match SockJs.decode t with
    | .ok .opened => .ok ()
    | .ok (.close code reason) => .error (.closedDuringHandshake code reason)
    | .ok other => .error (.transport ("expected SockJS open frame, got " ++ other.describe))
    | .error e => .error (.sockJs e)

end StompConsole.Client
