/-!
# STOMP commands

The fifteen commands of STOMP 1.2, their wire names, and which of them carry their headers
escaped. The connection-opening frames (`CONNECT`, `STOMP`, `CONNECTED`) are written and read
raw, so that a 1.0 peer can still read them; every other frame escapes backslash, LF, CR and
colon in header names and values.
-/

namespace StompConsole.Stomp

/-- A STOMP frame command. -/
inductive Command where
  | connect
  | stomp
  | connected
  | send
  | subscribe
  | unsubscribe
  | ack
  | nack
  | begin
  | commit
  | abort
  | disconnect
  | message
  | receipt
  | error
  deriving DecidableEq, Repr, Inhabited

namespace Command

/-- Every command, in the order of the protocol's frame list. -/
def all : List Command :=
  [connect, stomp, connected, send, subscribe, unsubscribe, ack, nack, begin, commit, abort,
    disconnect, message, receipt, error]

/-- The command's name on the wire. -/
def name : Command → String
  | connect => "CONNECT"
  | stomp => "STOMP"
  | connected => "CONNECTED"
  | send => "SEND"
  | subscribe => "SUBSCRIBE"
  | unsubscribe => "UNSUBSCRIBE"
  | ack => "ACK"
  | nack => "NACK"
  | begin => "BEGIN"
  | commit => "COMMIT"
  | abort => "ABORT"
  | disconnect => "DISCONNECT"
  | message => "MESSAGE"
  | receipt => "RECEIPT"
  | error => "ERROR"

/-- **Command lookup**: the command whose wire name is exactly `s` (case matters). -/
def parse (s : String) : Option Command :=
  all.find? (·.name == s)

/-- Whether the command's headers are escaped on the wire. -/
def escapesHeaders : Command → Bool
  | connect | stomp | connected => false
  | _ => true

end Command

end StompConsole.Stomp
