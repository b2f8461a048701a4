import StompConsole.Client.Manager

/-!
# The manager and its session tasks, interleaved

The manager runs on the console's thread; every session it starts runs as a task of its own. They
share three things: the generation counter, the watched connection state and the event channel.
This module puts them side by side as one transition system, `Runtime`, whose steps are the
program's atomic actions on that shared state:

* `connect` and `disconnect`, each whole: they run on the manager's thread, which owns the manager;
* a session's state report, as the guarded update it makes under the watch lock
  (`send_if_modified`): the generation check and the change happen together;
* a session's event report, as two steps: the generation check, then the send into the channel,
  which waits while the channel is full;
* the abort of a leftover task by `connect`, which stops the task from starting a new report; a
  send it is in the middle of still completes. The model lets that send go through at any later
  step that finds room in the channel, which covers every point at which the real one can;
* a session task ending, and the consumer taking the oldest event from the channel.

What a session does between these steps (network reads and writes, timers) touches nothing
shared, so here any task may take any of its steps at any time, in any order: the system holds
every interleaving of every session program, and a fact proved of all its runs holds of the real
sessions. The counter is 64 bits wide and wraps, as the program's does. A run is counted by its
calls of `connect` and `disconnect` (`Steps`), and a fact that needs the counter not to wrap is
stated for runs of fewer than `2 ^ 64` calls.
-/

namespace StompConsole.Client

/-- **The guarded update of a session's state report**: under the watch lock, a session whose
generation is current sets a state different from the watched one. The flag tells whether it
did, and so whether the session goes on to announce the change. -/
def Manager.updateState (m : Manager) (g : UInt64) (s : ConnectionState) : Bool × Manager :=
  if m.isCurrent g && m.state != s then (true, { m with state := s }) else (false, m)

/-- What the shared state sees of one session task. -/
structure Task where
  /-- The generation the task was started with. -/
  generation : UInt64
  /-- An event that passed its generation check and waits to enter the channel. -/
  outgoing : Option Event := none
  /-- Whether the task still runs and so can start a new report. A task that was aborted while it
  held a checked event can still send it. -/
  running : Bool := true

/-- The manager, with every session task it started, oldest first, and what the consumer has
read from the channel. -/
structure Runtime where
  manager : Manager
  tasks : List Task := []
  /-- The events the consumer took from the channel, in order. -/
  received : List Event := []

namespace Runtime

/-- One atomic step. A task is named by its place in the order the tasks were started. -/
inductive Action where
  | connect
  | disconnect
  /-- The task reports a state: the guarded update. -/
  | setState (task : Nat) (state : ConnectionState)
  /-- The task reports an event: the generation check. -/
  | check (task : Nat) (event : Event)
  /-- The task sends the event that passed its check. -/
  | send (task : Nat)
  /-- The task ends, on its own or cancelled. -/
  | finish (task : Nat)
  /-- The consumer takes the oldest event from the channel. -/
  | receive

/-- A manager with no session and an empty channel. -/
def create (config : ConnectConfig) : Runtime := { manager := .create config }

/-- Whether the task at place `i` runs and is not waiting to send, so that it can start a new
report. -/
def idle (r : Runtime) (i : Nat) : Bool :=
  match r.tasks[i]? with
  | some t => t.running && t.outgoing.isNone
  | none => false

/-- **One step.** A step that cannot be taken (a refused `connect`, a report by a task that is
busy or gone, a send into a full channel, a read from an empty one) changes nothing. -/
def step (r : Runtime) : Action → Runtime
  | .connect =>
    match r.manager.connect with
    | .ok m =>
      -- a session still stored here has ended on its own, or is ending: its task is aborted,
      -- then the new one starts with the new generation. An abort takes effect where the task
      -- next waits, so a send it is in the middle of still goes through: the event it checked
      -- stays with it
      let aborted := r.tasks.map fun t =>
        if some t.generation = r.manager.session then { t with running := false } else t
      { r with manager := m, tasks := aborted ++ [{ generation := m.generation }] }
    | .error _ => r
  | .disconnect => { r with manager := r.manager.disconnect.2 }
  | .setState i s =>
    match r.tasks[i]? with
    | some t =>
      if r.idle i then { r with manager := (r.manager.updateState t.generation s).2 } else r
    | none => r
  | .check i e =>
    match r.tasks[i]? with
    | some t =>
      if r.idle i && r.manager.isCurrent t.generation then
        { r with tasks := r.tasks.modify i fun t => { t with outgoing := some e } }
      else r
    | none => r
  | .send i =>
    match r.tasks[i]? with
    | some t =>
      match t.outgoing with
      | some e =>
        if r.manager.events.length < eventCapacity then
          { r with manager := { r.manager with events := r.manager.events ++ [e] },
                   tasks := r.tasks.modify i fun t => { t with outgoing := none } }
        else r
      | none => r
    | none => r
  | .finish i => { r with tasks := r.tasks.modify i fun t => { t with running := false, outgoing := none } }
  | .receive =>
    match r.manager.events with
    | e :: rest => { r with manager := { r.manager with events := rest }, received := r.received ++ [e] }
    | [] => r

/-- How many calls of the manager an action is: one for `connect` and for `disconnect`, whether
or not they start or stop anything, and none for a task's step or the consumer's read. -/
def Action.calls : Action → Nat
  | .connect | .disconnect => 1
  | _ => 0

/-- **Runs**: `Steps r n r'` when a sequence of steps leads from `r` to `r'`, `n` of them calls of
`connect` or `disconnect`. -/
inductive Steps (r : Runtime) : Nat → Runtime → Prop
  | refl : Steps r 0 r
  | tail {n : Nat} {r' : Runtime} (a : Action) : Steps r n r' → Steps r (n + a.calls) (r'.step a)

/-- The runtimes that a run with `n` calls of `connect` and `disconnect` reaches from a fresh
manager. -/
def Reachable (n : Nat) (r : Runtime) : Prop := ∃ config, Steps (create config) n r

/-- Whether `connect` would start a session now. -/
def connects (r : Runtime) : Prop := ∃ m, r.manager.connect = .ok m

/-- **A step that starts no session**: any step but a `connect` that succeeds. -/
def StepWithoutConnect (r r' : Runtime) : Prop :=
  ∃ a, r' = r.step a ∧ ¬ (a = .connect ∧ r.connects)

end Runtime

end StompConsole.Client
