import StompConsole.Client.Session
import StompConsole.Client.Transport

/-!
# A session task

`connect` starts one task per session. The task makes attempts one after another. An attempt
opens the transport, writes `CONNECT` and waits for the broker's reply, all under the handshake
timeout; once the broker accepts, the task subscribes to the error and notification topics and
routes what the broker sends until the session drops. A failed or dropped attempt is retried after
the reconnect delay, or, with retrying off, ends the task in the failed or closed state. A request
to stop ends the task quietly; a connected session first writes `DISCONNECT` and waits a while
for its receipt.

The task is written as the state machine its waits make of it. `SessionPhase` names every place
the task waits, with what it holds there; `SessionInput` is whatever the network, the clock or the
manager does next: the WebSocket opened or not, a read returned, a write finished, a timer fired,
a stop was requested. `react` says what the task makes of an input (a `Move`) and `perform` does
it: writes to the WebSocket, state reports and events through the manager, and the next phase. An
input that does not concern the phase (a read while a write is under way, a heart-beat timer that
is off) cannot reach the task there, and leaves it as it is. Time is not modelled: a timer may
fire at any point where the task listens for it. Nor is the URL of the upgrade request, whose
SockJS segments are drawn at random: whatever the network does next is an input anyway.
-/

namespace StompConsole.Client

open Stomp Payload

/-- The subscription id of the error topic. -/
def errorSubscription : String := "sub-0"

/-- The subscription id of the notification topic. -/
def notificationSubscription : String := "sub-1"

/-- The topics a session subscribes to, as subscription id and destination, in order. -/
def ConnectConfig.subscriptions (c : ConnectConfig) : List (String × String) :=
  [(errorSubscription, c.errorTopic), (notificationSubscription, c.notificationTopic)]

/-- The `CONNECT` frame's text. -/
def ConnectConfig.connectText (c : ConnectConfig) : String :=
  (Frame.connectFrame c.stompHost c.heartbeat).encode

/-- A heart-beat as the client writes it: one end of line. -/
def heartbeatText : String := "\n"

/-- The receipt a stopping session asks for. -/
def receiptId (generation : UInt64) : String := "close-" ++ toString generation

/-- The text of a broker's `ERROR` frame: its `message` header, or else its body trimmed. -/
def errorMessage (f : Frame) : String := (f.get "message").getD (Text.trimString f.body)

/-! ## The handshake -/

/-- What the broker's `CONNECTED` frame settles. -/
structure Established where
  heartbeat : Heartbeat
  version : Option String
  server : Option String

/-- **Accepting `CONNECTED`**: the heart-beats negotiated against the broker's offer (no
heart-beats if it made no readable offer), and its `version` and `server` headers. -/
def Established.ofFrame (ours : Heartbeat) (f : Frame) : Established where
  heartbeat := ours.negotiate (((f.get "heart-beat").bind Heartbeat.parse).getD .disabled)
  version := f.get "version"
  server := f.get "server"

/-- What a task waiting for `CONNECTED` finds in one read's payloads, in order: each frame, and a
failure where a payload is not STOMP. -/
def handshakeItems (payloads : List String) : List (Except StompError Frame) :=
  payloads.flatMap fun p =>
    match Stomp.decode p with
    | .ok items => items.filterMap fun
      | .frame f => some (.ok f)
      | .heartbeat => none
    | .error e => [.error e]

/-- **The handshake's verdict on one read**: the first `CONNECTED` accepts, the first `ERROR`
refuses, and a payload that is not STOMP fails the attempt; frames of other commands are passed
over, and `none` means the wait goes on. -/
def handshakeReply (ours : Heartbeat) (items : List (Except StompError Frame)) :
    Option (Except ConnectError Established) :=
  items.findSome? fun
    | .error e => some (.error (.stomp e))
    | .ok f =>
      match f.command with
      | .connected => some (.ok (.ofFrame ours f))
      | .error => some (.error (.rejected (errorMessage f)))
      | _ => none

/-! ## Routing a connected session's frames -/

/-- **Routing one frame**: the event it reports, if any, and the reason the session ends, if it
does. A message belongs to the error topic or the notification topic by its subscription, or by
its destination when it names no subscription, the error topic first; a message of neither is
passed over. An `ERROR` frame is reported and ends the session. -/
def dispatch (config : ConnectConfig) (f : Frame) : Option Event × Option String :=
  match f.command with
  | .message =>
    let destination := (f.get "destination").getD ""
    let subscription := f.get "subscription"
    if subscription = some errorSubscription ∨
        (subscription = none ∧ destination = config.errorTopic) then
      (some (match decodeErrorNotice f.body with
        | .ok d => .alert d
        | .error e => .payloadRejected destination e), none)
    else if subscription = some notificationSubscription ∨
        (subscription = none ∧ destination = config.notificationTopic) then
      (some (match decodeNotification f.body with
        | .ok v => .notification v
        | .error e => .payloadRejected destination e), none)
    else (none, none)
  | .error => (some (.serverError (errorMessage f)), some ("broker error: " ++ errorMessage f))
  | _ => (none, none)

/-- The frames of one read that a connected task routes: those of every payload that is STOMP, in
order. A payload that is not is passed over. -/
def readableFrames (payloads : List String) : List Frame :=
  payloads.flatMap fun p =>
    match Stomp.decode p with
    | .ok items => items.filterMap fun
      | .frame f => some f
      | .heartbeat => none
    | .error _ => []

/-- **Routing a read's frames** until one ends the session: the events reported, in order, and the
reason the session ends, if it does. The frames after that one are not looked at. -/
def dispatchAll (config : ConnectConfig) : List Frame → List Event × Option String
  | [] => ([], none)
  | f :: fs =>
    match dispatch config f with
    | (e, some reason) => (e.toList, some reason)
    | (e, none) =>
      let (more, ending) := dispatchAll config fs
      (e.toList ++ more, ending)

/-- Whether a read acknowledges a `DISCONNECT`: one of its STOMP payloads holds a `RECEIPT`
naming the receipt. -/
def acknowledges (receipt : String) (payloads : List String) : Bool :=
  payloads.any fun p =>
    match Stomp.decode p with
    | .ok items => items.any fun
      | .frame f => f.command == .receipt && f.get "receipt-id" == some receipt
      | .heartbeat => false
    | .error _ => false

/-! ## Phases, inputs and moves -/

/-- Where a session task waits, with what it holds there. -/
inductive SessionPhase where
  /-- The WebSocket upgrade request is out. -/
  | opening
  /-- Waiting for the SockJS open frame. -/
  | awaitingOpen
  /-- Writing `CONNECT`. -/
  | sendingConnect
  /-- Waiting for the broker's reply to `CONNECT`. -/
  | handshaking
  /-- Writing the `SUBSCRIBE` frame for `destination`; the subscriptions `rest` come next. -/
  | subscribing (heartbeat : Heartbeat) (destination : String) (rest : List (String × String))
  /-- Connected with the negotiated heart-beats: waiting for a read, a timer or a stop. -/
  | established (heartbeat : Heartbeat)
  /-- Writing a heart-beat. -/
  | sendingHeartbeat (heartbeat : Heartbeat)
  /-- Stopping: writing `DISCONNECT`. -/
  | sendingDisconnect
  /-- Stopping: waiting for the receipt of `DISCONNECT`. -/
  | awaitingReceipt
  /-- Waiting for the reconnect delay to pass. -/
  | retrying
  /-- The task has returned. -/
  | ended
  deriving DecidableEq, Repr

/-- What happens next, as a session task sees it. -/
inductive SessionInput where
  /-- The WebSocket upgrade finished; the library's error text if it failed. -/
  | upgraded (failure : Option String)
  | read (r : WsRead)
  /-- The write under way finished; the library's error text if it failed. -/
  | written (failure : Option String)
  | handshakeTimedOut
  /-- The outgoing heart-beat interval passed. -/
  | heartbeatDue
  /-- Twice the incoming heart-beat interval passed with nothing read. -/
  | brokerSilent
  /-- The wait for the receipt of `DISCONNECT` timed out. -/
  | receiptTimedOut
  /-- The reconnect delay passed. -/
  | retryDue
  /-- The manager asked the task to stop. -/
  | stop

/-- What a task does on one input. -/
inductive Move where
  /-- Nothing: the wait goes on. -/
  | wait
  /-- Write the payloads `out` and wait in phase `next`. -/
  | advance (out : List String) (next : SessionPhase)
  /-- Close the WebSocket and return. -/
  | close
  /-- The attempt failed before the broker accepted it. -/
  | fail (e : ConnectError)
  /-- The broker accepted the session. -/
  | accept (established : Established)
  /-- Report `events`; the session is dropped if `ending` gives a reason. -/
  | report (events : List Event) (ending : Option String)
  /-- Begin the next attempt. -/
  | retry

/-- After a subscription is written: write the next one, or, with all of them written, wait as
connected. -/
def subscribeNext (heartbeat : Heartbeat) : List (String × String) → List String × SessionPhase
  | [] => ([], .established heartbeat)
  | (id, destination) :: rest =>
    ([(Frame.subscribeFrame id destination).encode], .subscribing heartbeat destination rest)

/-- The move of a connected task on a read. -/
def readConnected (config : ConnectConfig) (r : WsRead) : Move :=
  match r.rawText with
  | none => .wait
  | some (.error e) => .report [] (some e.message)
  | some (.ok raw) =>
    match config.transport.receive raw with
    | .error e => .report [] (some e.message)
    | .ok .heartbeat => .wait
    | .ok (.closed code reason) =>
      .report [] (some ("transport closed (" ++ toString code ++ ": " ++ reason ++ ")"))
    | .ok (.payloads ps) =>
      let (events, ending) := dispatchAll config (readableFrames ps)
      .report events ending

/-- The move of a task waiting for the broker's reply to `CONNECT`, on a read. -/
def readReply (config : ConnectConfig) (r : WsRead) : Move :=
  match r.rawText with
  | none => .wait
  | some (.error e) => .fail e
  | some (.ok raw) =>
    match config.transport.receive raw with
    | .error e => .fail e
    | .ok .heartbeat => .wait
    | .ok (.closed code reason) => .fail (.closedDuringHandshake code reason)
    | .ok (.payloads ps) =>
      match handshakeReply config.heartbeat (handshakeItems ps) with
      | none => .wait
      | some (.error e) => .fail e
      | some (.ok established) => .accept established

/-- The move of a stopping task waiting for its receipt, on a read: the receipt, the end of the
connection or a failed read closes the WebSocket. -/
def readReceipt (config : ConnectConfig) (generation : UInt64) (r : WsRead) : Move :=
  match r.rawText with
  | none => .wait
  | some (.error _) => .close
  | some (.ok raw) =>
    match config.transport.receive raw with
    | .ok (.payloads ps) => if acknowledges (receiptId generation) ps then .close else .wait
    | .ok .heartbeat => .wait
    | _ => .close

/-- The handshake's phases: those the handshake timeout and a stop request end. -/
def SessionPhase.inHandshake : SessionPhase → Bool
  | .opening | .awaitingOpen | .sendingConnect | .handshaking => true
  | _ => false

/-- **What a task makes of an input** in its phase. -/
def react (config : ConnectConfig) (generation : UInt64) (phase : SessionPhase)
    (input : SessionInput) : Move :=
  match phase, input with
  -- the handshake
  | .opening, .upgraded (some text) => .fail (.transport text)
  | .opening, .upgraded none =>
    match config.transport with
    | .sockJs => .advance [] .awaitingOpen
    | .webSocket => .advance [config.connectText] .sendingConnect
  | .awaitingOpen, .read r =>
    match r.rawText with
    | none => .wait
    | some (.error e) => .fail e
    | some (.ok raw) =>
      match openReply raw with
      | .ok () => .advance [config.connectText] .sendingConnect
      | .error e => .fail e
  | .sendingConnect, .written (some text) => .fail (.transport text)
  | .sendingConnect, .written none => .advance [] .handshaking
  | .handshaking, .read r => readReply config r
  | p, .handshakeTimedOut => if p.inHandshake then .fail .handshakeTimeout else .wait
  -- subscribing
  | .subscribing heartbeat _ rest, .written none =>
    let (out, next) := subscribeNext heartbeat rest
    .advance out next
  | .subscribing _ destination _, .written (some text) =>
    .report [] (some ("subscribe to " ++ destination ++ " failed: " ++
      (ConnectError.transport text).message))
  -- connected
  | .established _, .read r => readConnected config r
  | .established heartbeat, .heartbeatDue =>
    if heartbeat.outgoing = 0 then .wait else .advance [heartbeatText] (.sendingHeartbeat heartbeat)
  | .established heartbeat, .brokerSilent =>
    if heartbeat.incoming = 0 then .wait else .report [] (some "no heart-beat from broker")
  | .sendingHeartbeat heartbeat, .written none => .advance [] (.established heartbeat)
  | .sendingHeartbeat _, .written (some text) =>
    .report [] (some ("heart-beat send failed: " ++ (ConnectError.transport text).message))
  -- stopping
  | .established _, .stop => .advance [(Frame.disconnectFrame (receiptId generation)).encode]
      .sendingDisconnect
  | .sendingDisconnect, .written (some _) => .close
  | .sendingDisconnect, .written none => .advance [] .awaitingReceipt
  | .awaitingReceipt, .read r => readReceipt config generation r
  | .awaitingReceipt, .receiptTimedOut => .close
  | p, .stop => if p.inHandshake || p == .retrying then .advance [] .ended else .wait
  -- between attempts
  | .retrying, .retryDue => .retry
  | _, _ => .wait

/-- What a task writes to the WebSocket. -/
inductive Outgoing where
  | text (text : String)
  | close

/-- **A session task**: its configuration and generation, the phase it waits in, the manager it
reports to, and what it wrote to the WebSocket, oldest first. -/
structure SessionTask where
  config : ConnectConfig
  generation : UInt64
  manager : Manager
  phase : SessionPhase := .opening
  written : List Outgoing := []

namespace SessionTask

/-- Report a state; a change is announced. -/
def setState (t : SessionTask) (s : ConnectionState) : SessionTask :=
  { t with manager := t.manager.sessionSetState t.generation s }

/-- Report an event. -/
def emit (t : SessionTask) (e : Event) : SessionTask :=
  { t with manager := t.manager.sessionEmit t.generation e }

/-- Write payloads, framed by the transport, and wait in phase `next`. -/
def advance (t : SessionTask) (out : List String) (next : SessionPhase) : SessionTask :=
  { t with written := t.written ++ out.map (.text ∘ t.config.transport.frameText), phase := next }

/-- **After an attempt**: a task that is still current reports pending again, announces the retry
and waits; one that is not returns. -/
def retry (t : SessionTask) : SessionTask :=
  if t.manager.isCurrent t.generation then
    ((t.setState .pending).emit (.reconnecting t.config.reconnectDelay)).advance [] .retrying
  else t.advance [] .ended

/-- **A failed attempt** is announced; with retrying off the session fails and the task returns. -/
def fail (t : SessionTask) (e : ConnectError) : SessionTask :=
  let t := t.emit (.handshakeFailed e.message)
  if t.config.reconnects then t.retry else (t.setState .failed).advance [] .ended

/-- **A dropped session** is announced; with retrying off it closes and the task returns. -/
def drop (t : SessionTask) (reason : String) : SessionTask :=
  let t := t.emit (.disconnected reason)
  if t.config.reconnects then t.retry else (t.setState .closed).advance [] .ended

/-- **An attempt begins**: the state is reported pending, and the upgrade request goes out to the
endpoint. -/
def attempt (t : SessionTask) : SessionTask :=
  let t := t.setState .pending
  match t.config.endpointUrl with
  | .error e => t.fail e
  | .ok _ => t.advance [] .opening

/-- **Performing a move.** An accepted session is reported connected, its version and server
announced, and its first subscription written. -/
def perform (t : SessionTask) : Move → SessionTask
  | .wait => t
  | .advance out next => t.advance out next
  | .close => { t with written := t.written ++ [.close], phase := .ended }
  | .fail e => t.fail e
  | .accept est =>
    let (out, next) := subscribeNext est.heartbeat t.config.subscriptions
    ((t.setState .connected).emit (.connected est.version est.server)).advance out next
  | .report events ending =>
    let t := events.foldl emit t
    match ending with
    | some reason => t.drop reason
    | none => t
  | .retry => t.attempt

/-- **One step**: the task's move on the input, performed. -/
def step (t : SessionTask) (i : SessionInput) : SessionTask :=
  t.perform (react t.config t.generation t.phase i)

/-- **The task `connect` starts**, given the manager it left: the new generation, the manager's
configuration, and its first attempt begun. -/
def start (m : Manager) : SessionTask :=
  ({ config := m.config, generation := m.generation, manager := m } : SessionTask).attempt

/-- Steps, one input after another. -/
def run (t : SessionTask) (inputs : List SessionInput) : SessionTask := inputs.foldl step t

end SessionTask

end StompConsole.Client
