import StompConsole.Toml.Read
import StompConsole.Toml.Write
import StompConsole.Client.Config
import StompConsole.Text.Basic

/-!
# Console settings

The console's settings come from three places, each overriding the next: the command line, a
settings file, and the client's defaults. The settings file is TOML; every key is optional, keys
it does not know are ignored, and a file that is not valid TOML or gives a key a value of the
wrong type counts as no file at all.

Merging checks the result once, so that a bad transport name or base URL is reported at start
rather than on the first connect.
-/

namespace StompConsole.Console

open Client Toml

/-- **What a settings file holds.** Every field is optional. -/
structure Settings where
  url : Option String := none
  endpoint : Option String := none
  /-- `sockjs` or `websocket`. -/
  transport : Option String := none
  heartbeatOutgoing : Option Nat := none
  heartbeatIncoming : Option Nat := none
  reconnectDelay : Option Nat := none
  handshakeTimeout : Option Nat := none
  errorTopic : Option String := none
  notificationTopic : Option String := none
  logFile : Option String := none
  deriving DecidableEq, Repr

namespace Settings

/-- A text key of the root table. -/
def textKey (d : Document) (k : String) : Except String (Option String) :=
  match d.rootEntry k with
  | none => .ok none
  | some (.value (.string s)) => .ok (some s)
  | some _ => .error ("invalid type: " ++ k ++ " should be a string")

/-- A count key of the root table: an integer that is not negative. -/
def countKey (d : Document) (k : String) : Except String (Option Nat) :=
  match d.rootEntry k with
  | none => .ok none
  | some (.value (.integer n)) =>
    if 0 ≤ n then .ok (some n.toNat) else .error ("invalid value: " ++ k ++ " is negative")
  | some _ => .error ("invalid type: " ++ k ++ " should be an integer")

/-- **The settings a document gives**, or why its keys do not fit. -/
def ofDocument (d : Document) : Except String Settings := do
  return {
    url := ← textKey d "url"
    endpoint := ← textKey d "endpoint"
    transport := ← textKey d "transport"
    heartbeatOutgoing := ← countKey d "heartbeat_outgoing_ms"
    heartbeatIncoming := ← countKey d "heartbeat_incoming_ms"
    reconnectDelay := ← countKey d "reconnect_delay_ms"
    handshakeTimeout := ← countKey d "handshake_timeout_ms"
    errorTopic := ← textKey d "error_topic"
    notificationTopic := ← textKey d "notification_topic"
    logFile := ← textKey d "log_file" }

/-- **The settings of a file's text**, or why the text is not valid or does not fit. -/
def parse (text : String) : Except String Settings := read text >>= ofDocument

/-- **Load settings from the text of a file**: no settings at all when it is not valid or does
not fit. -/
def load (text : String) : Settings :=
  match parse text with
  | .ok s => s
  | .error _ => {}

/-- The largest count a settings file can hold. -/
def maxCount : Nat := Nat.pow 2 63 - 1

/-- **The settings written as a file**: a line for each field that is set, in field order. A count
past what TOML integers hold cannot be written. -/
def toText (s : Settings) : Except String String := do
  let text (k : String) : Option String → List (String × String)
    | some v => [(k, stringText v)]
    | none => []
  let count (k : String) : Option Nat → Except String (List (String × String))
    | some n => if n ≤ maxCount then .ok [(k, toString n)] else .error "out-of-range value for u64 type"
    | none => .ok []
  let entries := text "url" s.url ++ text "endpoint" s.endpoint ++ text "transport" s.transport ++
    (← count "heartbeat_outgoing_ms" s.heartbeatOutgoing) ++
    (← count "heartbeat_incoming_ms" s.heartbeatIncoming) ++
    (← count "reconnect_delay_ms" s.reconnectDelay) ++
    (← count "handshake_timeout_ms" s.handshakeTimeout) ++
    text "error_topic" s.errorTopic ++ text "notification_topic" s.notificationTopic ++
    text "log_file" s.logFile
  return writeEntries entries

end Settings

/-- **What the command line says.** -/
structure CommandLine where
  url : Option String := none
  endpoint : Option String := none
  transport : Option String := none
  reconnectDelay : Option Nat := none
  /-- The outgoing heart-beat. -/
  heartbeat : Option Nat := none
  logFile : Option String := none
  /-- Connect as soon as the console starts. -/
  connect : Bool := false
  deriving Repr

/-- **The settings in effect.** -/
structure Resolved where
  connect : ConnectConfig
  /-- Where the log goes; `none` stands for the machine's default place. -/
  logFile : Option String
  autoConnect : Bool
  deriving Repr

/-- The transport a name gives. -/
def transportOf (name : String) : Except String TransportKind :=
  match TransportKind.parse name with
  | some kind => .ok kind
  | none => .error ("unknown transport " ++ Text.quoteString name ++ " (expected sockjs or websocket)")

/-- **Merge the command line, the settings file and the defaults**, the command line first. The
incoming heart-beat and the handshake timeout come from the file only. -/
def Resolved.merge (cli : CommandLine) (file : Settings) : Except String Resolved := do
  let defaults : ConnectConfig := {}
  let transport ← match cli.transport <|> file.transport with
    | some name => transportOf name
    | none => pure defaults.transport
  let connect : ConnectConfig := {
    baseUrl := (cli.url <|> file.url).getD defaults.baseUrl
    endpoint := (cli.endpoint <|> file.endpoint).getD defaults.endpoint
    transport := transport
    heartbeat := ⟨(cli.heartbeat <|> file.heartbeatOutgoing).getD defaults.heartbeat.outgoing,
      file.heartbeatIncoming.getD defaults.heartbeat.incoming⟩
    reconnectDelay := (cli.reconnectDelay <|> file.reconnectDelay).getD defaults.reconnectDelay
    handshakeTimeout := file.handshakeTimeout.getD defaults.handshakeTimeout
    errorTopic := file.errorTopic.getD defaults.errorTopic
    notificationTopic := file.notificationTopic.getD defaults.notificationTopic }
  match connect.endpointUrl with
  | .error e => throw e.message
  | .ok _ => return { connect, logFile := cli.logFile <|> file.logFile, autoConnect := cli.connect }

/-- **The settings file that gives these settings**, every field set. -/
def Resolved.toSettings (r : Resolved) (logFile : String) : Settings where
  url := some r.connect.baseUrl
  endpoint := some r.connect.endpoint
  transport := some r.connect.transport.label
  heartbeatOutgoing := some r.connect.heartbeat.outgoing
  heartbeatIncoming := some r.connect.heartbeat.incoming
  reconnectDelay := some r.connect.reconnectDelay
  handshakeTimeout := some r.connect.handshakeTimeout
  errorTopic := some r.connect.errorTopic
  notificationTopic := some r.connect.notificationTopic
  logFile := some logFile

end StompConsole.Console
