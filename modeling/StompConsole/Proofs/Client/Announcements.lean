import Mathlib
import StompConsole.Proofs.Client.Connect

/-!
# What the manager announces on its own

`connect` and `disconnect` set the watched state through `publish`, which announces a change of
state and nothing else, and drops the announcement when the channel is full rather than wait for
the consumer. This file follows the channel while no session task runs, over any sequence of
calls and any schedule of reads from the channel (`Call`):

* one call adds to the channel exactly the announcement it owes (`Runtime.announcement`): the
  new state when the call changed the watched state and the channel had room, nothing otherwise
  (`channel_step`);
* so over a whole run, what the consumer read followed by what still waits is what it started
  with followed by the owed announcements, in call order (`channel_run`): an announcement that
  was dropped is never delivered later, and a call that kept the state (a refused `connect`, a
  `disconnect` while closed) announces nothing.
-/

namespace StompConsole.Client

namespace Manager

/-- **What `publish` queues**: the new state, when it differs from the old one and the channel has
room. -/
theorem publish_events (m : Manager) (s : ConnectionState) :
    (m.publish s).events = if m.state ≠ s ∧ m.events.length < eventCapacity
      then m.events ++ [.stateChanged s] else m.events := by
  by_cases h : m.state = s
  · simp [publish, h]
  · simp [publish, h]

theorem disconnect_events (m : Manager) :
    m.disconnect.2.events = if m.state ≠ .closed ∧ m.events.length < eventCapacity
      then m.events ++ [.stateChanged .closed] else m.events :=
  publish_events _ _

end Manager

namespace Runtime

/-- **The calls made while no session task runs**: the console's `connect` and `disconnect`, and
the consumer taking the oldest event from the channel. -/
inductive Call where
  | connect
  | disconnect
  | receive
  deriving DecidableEq, Repr

/-- The step a call takes. -/
def Call.action : Call → Action
  | .connect => .connect
  | .disconnect => .disconnect
  | .receive => .receive

/-- **The announcement a step owes**: its new state, when it changed the watched state and the
channel had room; nothing otherwise. -/
def announcement (r : Runtime) (a : Action) : List Event :=
  if r.manager.state ≠ (r.step a).manager.state ∧ r.manager.events.length < eventCapacity then
    [.stateChanged (r.step a).manager.state]
  else []

/-- The announcements a sequence of calls owes, in call order. -/
def announcements (r : Runtime) : List Call → List Event
  | [] => []
  | c :: cs => r.announcement c.action ++ (r.step c.action).announcements cs

/-- The runtime after a sequence of calls. -/
def run (r : Runtime) (cs : List Call) : Runtime := cs.foldl (fun r c => r.step c.action) r

@[simp] theorem run_nil (r : Runtime) : r.run [] = r := rfl

@[simp] theorem run_cons (r : Runtime) (c : Call) (cs : List Call) :
    r.run (c :: cs) = (r.step c.action).run cs := rfl

/-- A step that keeps the watched state owes nothing. -/
theorem announcement_of_state_eq {r : Runtime} {a : Action}
    (h : (r.step a).manager.state = r.manager.state) : r.announcement a = [] := by
  simp [announcement, h]

/-! ## One call -/

theorem channel_step_connect (r : Runtime) :
    (r.step .connect).received ++ (r.step .connect).manager.events =
      r.received ++ r.manager.events ++ r.announcement .connect := by
  cases hc : r.manager.connect with
  | error e =>
    -- refused or failed: nothing moved, so nothing is owed
    have hr := step_connect_of_error hc
    rw [announcement_of_state_eq (by rw [hr]), hr, List.append_nil]
  | ok m =>
    obtain ⟨hna, -, -, -, hs, hev, -⟩ := Manager.connect_eq_ok_iff.1 hc
    have hstep : (r.step .connect).manager = m ∧ (r.step .connect).received = r.received := by
      simp [step, hc]
    -- an inactive state is closed or failed, so going pending is a change
    have hne : r.manager.state ≠ .pending := by
      rcases ConnectionState.isActive_eq_false_iff.1 hna with h | h <;> simp [h]
    rw [hstep.2, hstep.1, hev, announcement, hstep.1, hs]
    by_cases hroom : r.manager.events.length < eventCapacity
    · simp [hroom, hne]
    · simp [hroom]

theorem channel_step_disconnect (r : Runtime) :
    (r.step .disconnect).received ++ (r.step .disconnect).manager.events =
      r.received ++ r.manager.events ++ r.announcement .disconnect := by
  have hstep : (r.step .disconnect).manager = r.manager.disconnect.2 ∧
      (r.step .disconnect).received = r.received := ⟨rfl, rfl⟩
  rw [hstep.2, hstep.1, Manager.disconnect_events, announcement, hstep.1,
    Manager.disconnect_state]
  by_cases hc : r.manager.state = .closed
  · simp [hc]
  · by_cases hroom : r.manager.events.length < eventCapacity
    · simp [hc, hroom]
    · simp [hroom]

theorem channel_step_receive (r : Runtime) :
    (r.step .receive).received ++ (r.step .receive).manager.events =
      r.received ++ r.manager.events ++ r.announcement .receive := by
  -- a read moves the oldest event from the channel to the consumer and keeps the state
  have hs : (r.step .receive).manager.state = r.manager.state := by
    simp only [step]
    split <;> rfl
  rw [announcement_of_state_eq hs, List.append_nil]
  simp only [step]
  split
  · next e rest he => simp [he]
  · next he => simp [he]

/-- **One call and the channel**: what the consumer read, followed by what still waits, grows by
exactly the announcement the call owes. -/
theorem channel_step (r : Runtime) (c : Call) :
    (r.step c.action).received ++ (r.step c.action).manager.events =
      r.received ++ r.manager.events ++ r.announcement c.action := by
  cases c with
  | connect => exact channel_step_connect r
  | disconnect => exact channel_step_disconnect r
  | receive => exact channel_step_receive r

/-- **A run and the channel**, by induction on the calls with `channel_step` as the step. -/
theorem channel_run (r : Runtime) (cs : List Call) :
    (r.run cs).received ++ (r.run cs).manager.events =
      r.received ++ r.manager.events ++ r.announcements cs := by
  induction cs generalizing r with
  | nil => simp [announcements]
  | cons c cs ih =>
    rw [run_cons, ih, channel_step, announcements, List.append_assoc]

/-- **The manager announces each change of state, once, in order.** Over any sequence of
`connect`, `disconnect` and reads from the channel, with no session task running, the events the
consumer has read followed by those still waiting are the ones it started with followed by
`stateChanged` of the new state for each call that changed the watched state while the channel
had room, in call order. A change made while the channel was full is never delivered, and a
refused or failed `connect`, or a `disconnect` while closed, queues nothing. -/
theorem manager_announces_each_change :
    (∀ (r : Runtime) (cs : List Call),
      (r.run cs).received ++ (r.run cs).manager.events =
        r.received ++ r.manager.events ++ r.announcements cs) ∧
    (∀ (r : Runtime) (e : ConnectError), r.manager.connect = .error e →
      r.announcement .connect = [] ∧ (r.step .connect).manager.events = r.manager.events) ∧
    (∀ r : Runtime, r.manager.state = .closed →
      r.announcement .disconnect = [] ∧
        (r.step .disconnect).manager.events = r.manager.events) := by
  refine ⟨channel_run, fun r e hc => ?_, fun r hc => ?_⟩
  · have hr := step_connect_of_error hc
    exact ⟨announcement_of_state_eq (by rw [hr]), by rw [hr]⟩
  · have hs : (r.step .disconnect).manager.state = r.manager.state := by
      rw [hc]
      exact Manager.disconnect_state _
    refine ⟨announcement_of_state_eq hs, ?_⟩
    show r.manager.disconnect.2.events = _
    simp [Manager.disconnect_events, hc]

end Runtime

end StompConsole.Client
