import StompConsole.Client.State
import StompConsole.Stomp.Decode
import StompConsole.SockJs.Frame
import StompConsole.Stomp.Frame
import StompConsole.Url.Parse

/-!
# Connection configuration

Where the broker is and how to talk to it. The broker's WebSocket endpoint is the configured
base URL with `http` turned into `ws` (and `https` into `wss`) and the endpoint path appended
under the base path; the STOMP `host` header names the base URL's host.

A SockJS session talks to `<endpoint>/<server>/<session>/websocket`, where the server id is
three digits and the session id eight letters or digits, both drawn at random.
-/

/-!
## Connection errors

Everything that can stop `connect` or end a session before the broker accepted it. Frame errors
of the two wire layers are carried as they are and keep their own text.
-/

namespace StompConsole.Client

open Stomp Url

/-- Why a session could not be established. -/
inductive ConnectError where
  | alreadyActive (state : ConnectionState)
  | invalidUrl (text : String)
  | transport (text : String)
  | handshakeTimeout
  | rejected (message : String)
  | closedDuringHandshake (code : Nat) (reason : String)
  | stomp (e : StompError)
  | sockJs (e : SockJs.FrameError)

/-- The text of a connection error. -/
def ConnectError.message : ConnectError → String
  | .alreadyActive s => "a session is already " ++ s.label
  | .invalidUrl t => "invalid broker URL: " ++ t
  | .transport t => "transport error: " ++ t
  | .handshakeTimeout => "handshake timed out"
  | .rejected m => "broker rejected the connection: " ++ m
  | .closedDuringHandshake code reason =>
    "transport closed during handshake (" ++ toString code ++ ": " ++ reason ++ ")"
  | .stomp e => e.message
  | .sockJs e => e.message

/-- The name of the error's kind. -/
def ConnectError.kind : ConnectError → String
  | .alreadyActive _ => "AlreadyActive"
  | .invalidUrl _ => "InvalidUrl"
  | .transport _ => "Transport"
  | .handshakeTimeout => "HandshakeTimeout"
  | .rejected _ => "Rejected"
  | .closedDuringHandshake _ _ => "ClosedDuringHandshake"
  | .stomp _ => "Stomp"
  | .sockJs _ => "SockJs"

/-! ## The configuration -/

/-- Which transport carries the STOMP frames. -/
inductive TransportKind where
  /-- SockJS framing over a WebSocket at `<endpoint>/<server>/<session>/websocket`. -/
  | sockJs
  /-- STOMP text frames directly over a WebSocket at the endpoint. -/
  | webSocket
  deriving DecidableEq, Repr

/-- The transport's name. -/
def TransportKind.label : TransportKind → String
  | .sockJs => "sockjs"
  | .webSocket => "websocket"

/-- A transport from its name, in any letter case; `ws` is short for `websocket`. -/
def TransportKind.parse (name : String) : Option TransportKind :=
  match String.ofList (name.toList.map Char.toLower) with
  | "sockjs" => some .sockJs
  | "websocket" | "ws" => some .webSocket
  | _ => none

/-- How to reach the broker. Durations are in milliseconds. -/
structure ConnectConfig where
  baseUrl : String := "http://localhost:8181"
  endpoint : String := "/mimp-ws"
  transport : TransportKind := .sockJs
  heartbeat : Heartbeat := ⟨30000, 0⟩
  /-- Delay before a retry after a failed handshake or a dropped session; zero disables retry. -/
  reconnectDelay : Nat := 5000
  /-- Upper bound on opening the transport and receiving `CONNECTED`. -/
  handshakeTimeout : Nat := 10000
  errorTopic : String := "/topic/error"
  notificationTopic : String := "/topic/mimp"
  deriving Repr

/-- Remove every trailing `/`. -/
def trimTrailingSlashes (s : String) : String :=
  String.ofList (s.toList.reverse.dropWhile (· = '/')).reverse

/-- Remove every leading `/`. -/
def trimLeadingSlashes (s : String) : String :=
  String.ofList (s.toList.dropWhile (· = '/'))

/-- The WebSocket scheme for a base URL's scheme. -/
def webSocketScheme : String → Option String
  | "http" | "ws" => some "ws"
  | "https" | "wss" => some "wss"
  | _ => none

/-- **The endpoint URL**: the base URL with a WebSocket scheme and the endpoint under its path. -/
def ConnectConfig.endpointUrl (c : ConnectConfig) : Except ConnectError Url.Record := do
  let url ← match parse c.baseUrl with
    | .ok u => pure u
    | .error e => throw (.invalidUrl (c.baseUrl ++ ": " ++ e.message))
  let some scheme := webSocketScheme url.scheme
    | throw (.invalidUrl ("unsupported scheme " ++ Text.quoteString url.scheme ++ " in " ++ c.baseUrl))
  let some url := url.setScheme scheme
    | throw (.invalidUrl c.baseUrl)
  return url.setPath (trimTrailingSlashes url.path ++ "/" ++ trimLeadingSlashes c.endpoint)

/-- **The STOMP host**: the base URL's host, or `localhost` when it has none. -/
def ConnectConfig.stompHost (c : ConnectConfig) : String :=
  match parse c.baseUrl with
  | .ok u => u.hostText.getD "localhost"
  | .error _ => "localhost"

/-- Whether a failed or dropped session is retried. -/
def ConnectConfig.reconnects (c : ConnectConfig) : Bool := c.reconnectDelay != 0

/-- The characters a session id is drawn from, in drawing order. -/
def alphanumeric : List Char :=
  (List.range 26).map (fun i => Char.ofNat (65 + i)) ++
    (List.range 26).map (fun i => Char.ofNat (97 + i)) ++
    (List.range 10).map (fun i => Char.ofNat (48 + i))

/-- The server and session ids of one SockJS session. -/
structure SessionIds where
  /-- Below 1000; written with three digits. -/
  server : Nat
  session : String
  deriving Repr

/-- The ids drawn by a random source whose every draw is the first of its range: server `000` and
session `AAAAAAAA`. -/
def SessionIds.first : SessionIds := ⟨0, String.ofList (List.replicate 8 (alphanumeric.headD 'A'))⟩

/-- A number with at least three digits. -/
def threeDigits (n : Nat) : String :=
  let s := toString n
  String.ofList (List.replicate (3 - s.length) '0') ++ s

/-- **The SockJS session URL** under an endpoint. -/
def sessionUrl (endpoint : Url.Record) (ids : SessionIds) : Url.Record :=
  endpoint.setPath (trimTrailingSlashes endpoint.path ++ "/" ++ threeDigits ids.server ++ "/" ++
    ids.session ++ "/websocket")

end StompConsole.Client
