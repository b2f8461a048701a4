import Mathlib
import StompConsole.Client.Controller
import StompConsole.Proofs.Client.Generations

/-!
# The controller keeps its buttons in step

The connect and disconnect buttons are written in three places: `connect` brings them in step
with the manager after it succeeds and after it is refused, `disconnect` shows no session
whatever happened, and a state-change event brings them in step again, reading the manager's
live state and not the event's, which may be stale. Between them, the buttons never disagree
with the manager (`ControlsInStep`): one of them is enabled, and the disconnect button exactly
while a session is active.

When no session task runs, the manager's state moves only through the controller's own calls:
it is `closed`, or `pending` with a session started (`Manager.LeftByCalls`). A `disconnect` then
reports a live session exactly when the state was `pending`.

Both invariants hold of a new controller and are kept by every call, so they hold after every
sequence of calls (`controls_follow_calls`).
-/

namespace StompConsole.Client

/-! ## The buttons -/

namespace ControlPair

@[simp] theorem setConnected_setConnected (p : ControlPair) (a b : Bool) :
    (p.setConnected a).setConnected b = p.setConnected b := rfl

@[simp] theorem connect_isEnabled_setConnected (p : ControlPair) (b : Bool) :
    (p.setConnected b).connect.isEnabled = !b := rfl

@[simp] theorem disconnect_isEnabled_setConnected (p : ControlPair) (b : Bool) :
    (p.setConnected b).disconnect.isEnabled = b := by
  cases b <;> rfl

@[simp] theorem showsConnected_setConnected (p : ControlPair) (b : Bool) :
    (p.setConnected b).showsConnected = b :=
  disconnect_isEnabled_setConnected p b

/-- **Exactly one button is enabled** once `setConnected` has set them. -/
@[simp] theorem enabledCount_setConnected (p : ControlPair) (b : Bool) :
    (p.setConnected b).enabledCount = 1 := by
  cases b <;> simp [enabledCount]

end ControlPair

theorem ConnectionState.isActive_eq_false_iff {s : ConnectionState} :
    s.isActive = false ↔ s = .closed ∨ s = .failed := by
  cases s <;> simp [ConnectionState.isActive]

theorem ConnectionState.isActive_eq_true_iff {s : ConnectionState} :
    s.isActive = true ↔ s = .pending ∨ s = .connected := by
  cases s <;> simp [ConnectionState.isActive]

/-! ## What `connect` and `disconnect` do to the manager -/

namespace Manager

variable {m m' : Manager}

/-- The endpoint URL is refused only as an invalid URL. -/
theorem endpointUrl_eq_error {c : ConnectConfig} {e : ConnectError} (h : c.endpointUrl = .error e) :
    ∃ text, e = .invalidUrl text := by
  unfold ConnectConfig.endpointUrl at h
  cases hp : Url.parse c.baseUrl with
  | error err =>
    rw [hp] at h
    exact ⟨_, (Except.error.inj h).symm⟩
  | ok u =>
    cases hs : webSocketScheme u.scheme with
    | none =>
      simp [hp, hs] at h
      exact ⟨_, (Except.error.inj h).symm⟩
    | some scheme =>
      simp only [hp, hs, pure_bind] at h
      cases hset : u.setScheme scheme with
      | none =>
        simp only [hset] at h
        exact ⟨_, (Except.error.inj h).symm⟩
      | some url =>
        simp only [hset] at h
        cases h

/-- **What a successful `connect` did**: no session was active, and the manager now waits for the
session it started. -/
theorem connect_eq_ok (h : m.connect = .ok m') :
    m.state.isActive = false ∧ m'.state = .pending ∧ m'.session.isSome := by
  obtain ⟨hna, rfl⟩ := eq_of_connect h
  exact ⟨hna, publish_state _ _, rfl⟩

/-- **A refused `connect`** was refused as already active exactly when a session was active;
otherwise the URL was invalid. -/
theorem connect_eq_error {e : ConnectError} (h : m.connect = .error e) :
    (m.state.isActive = true ∧ e = .alreadyActive m.state) ∨
      (m.state.isActive = false ∧ ∃ text, e = .invalidUrl text) := by
  unfold connect at h
  split at h
  · next ha => exact Or.inl ⟨ha, (Except.error.inj h).symm⟩
  · next hna =>
    refine Or.inr ⟨by simpa using hna, ?_⟩
    cases hu : m.config.endpointUrl with
    | error e' =>
      simp only [hu] at h
      obtain rfl := Except.error.inj h
      exact endpointUrl_eq_error hu
    | ok u => simp [hu] at h

/-- **The states that the controller's calls leave** when no session task runs: closed, or
pending with the started session still held. -/
def LeftByCalls (m : Manager) : Prop :=
  m.state = .closed ∨ (m.state = .pending ∧ m.session.isSome)

theorem leftByCalls_create (config : ConnectConfig) : (create config).LeftByCalls := Or.inl rfl

theorem LeftByCalls.connect (h : m.connect = .ok m') : m'.LeftByCalls :=
  Or.inr (connect_eq_ok h).2

theorem leftByCalls_disconnect (m : Manager) : m.disconnect.2.LeftByCalls :=
  Or.inl (disconnect_state m)

/-- In such a state, `disconnect` finds a live session exactly when the state is `pending`. -/
theorem LeftByCalls.disconnect_fst (h : m.LeftByCalls) :
    m.disconnect.1 = true ↔ m.state = .pending := by
  rcases h with hc | ⟨hp, hs⟩
  · simp [disconnect, hc, ConnectionState.isActive]
  · simp [disconnect, hp, hs, ConnectionState.isActive]

end Manager

/-! ## The controller's calls -/

/-- One call a front end makes on the controller. -/
inductive Call where
  | connect
  | disconnect
  | handle (event : Event)

namespace Controller

variable {P : Type} {c : Controller P}

/-- The controller after a call. -/
def call [Presenter P] (c : Controller P) : Call → Controller P
  | .connect => c.connect.2
  | .disconnect => c.disconnect.2
  | .handle e => c.handleEvent e

/-- The controllers that some sequence of calls leads to from a new one. -/
inductive Reachable [Presenter P] : Controller P → Prop
  | create (config : ConnectConfig) (presenter : P) : Reachable (create config presenter)
  | call {c : Controller P} (k : Call) : Reachable c → Reachable (c.call k)

/-! ## The buttons agree with the manager -/

/-- **The buttons agree with the manager**: they show a session exactly while one is active. -/
def ControlsInStep (c : Controller P) : Prop :=
  c.controls = ControlPair.initial.setConnected c.manager.state.isActive

theorem controlsInStep_create (config : ConnectConfig) (presenter : P) :
    (create config presenter).ControlsInStep := rfl

/-- Bringing the buttons in step keeps their ids, so it needs buttons set from the initial
pair. -/
theorem controlsInStep_syncControls {b : Bool}
    (h : c.controls = ControlPair.initial.setConnected b) : c.syncControls.ControlsInStep := by
  show c.controls.setConnected _ = _
  rw [h, ControlPair.setConnected_setConnected]
  rfl

/-- `connect` brings the buttons in step whether or not the session started. -/
theorem ControlsInStep.connect (h : c.ControlsInStep) : c.connect.2.ControlsInStep := by
  unfold Controller.connect
  split
  · exact controlsInStep_syncControls (c := { c with manager := _ }) h
  · exact controlsInStep_syncControls h

theorem ControlsInStep.disconnect (h : c.ControlsInStep) : c.disconnect.2.ControlsInStep := by
  show c.controls.setConnected false = ControlPair.initial.setConnected
    c.manager.disconnect.2.state.isActive
  rw [Manager.disconnect_state, h, ControlPair.setConnected_setConnected]
  rfl

section Presented

variable [Presenter P]

/-- Only a state change touches the buttons, and it brings them in step. -/
theorem ControlsInStep.handleEvent (h : c.ControlsInStep) (e : Event) :
    (c.handleEvent e).ControlsInStep := by
  cases e with
  | stateChanged s => exact controlsInStep_syncControls h
  | _ => exact h

theorem ControlsInStep.call (h : c.ControlsInStep) : ∀ k : Call, (c.call k).ControlsInStep
  | .connect => h.connect
  | .disconnect => h.disconnect
  | .handle e => h.handleEvent e

theorem Reachable.controlsInStep (h : c.Reachable) : c.ControlsInStep := by
  induction h with
  | create config presenter => exact controlsInStep_create config presenter
  | call k _ ih => exact ih.call k

end Presented

/-! ## The manager's state -/

/-- Handling an event leaves the manager alone. -/
@[simp] theorem handleEvent_manager [Presenter P] (c : Controller P) (e : Event) :
    (c.handleEvent e).manager = c.manager := by
  cases e <;> rfl

/-- `connect` either started a session or left the manager as it was. -/
theorem connect_manager (c : Controller P) :
    c.connect.2.manager = c.manager ∨ c.manager.connect = .ok c.connect.2.manager := by
  unfold Controller.connect
  split
  · next m hm => exact Or.inr hm
  · exact Or.inl rfl

/-- The controller's `connect` is refused exactly as the manager's. -/
theorem connect_fst_eq_error {e : ConnectError} (h : c.connect.1 = .error e) :
    c.manager.connect = .error e := by
  unfold Controller.connect at h
  split at h
  · cases h
  · next e' he =>
    obtain rfl := Except.error.inj h
    exact he

theorem Reachable.leftByCalls [Presenter P] (h : c.Reachable) : c.manager.LeftByCalls := by
  induction h with
  | create config presenter => exact Manager.leftByCalls_create config
  | @call c k _ ih =>
    cases k with
    | connect =>
      rcases connect_manager c with he | hc
      · exact he ▸ ih
      · exact Manager.LeftByCalls.connect hc
    | disconnect => exact Manager.leftByCalls_disconnect _
    | handle e => exact (handleEvent_manager c e).symm ▸ ih

/-- **The controller without running sessions.** After every sequence of `connect`,
`disconnect` and event handling, whatever the events say, exactly one button is enabled, the
buttons show a session exactly while the manager's state is active, that state is `closed` or
`pending`, and the next `disconnect` reports a live session exactly when it is `pending`. -/
theorem controls_follow_calls [Presenter P] (c : Controller P) (h : c.Reachable) :
    c.controls.enabledCount = 1 ∧ c.controls.showsConnected = c.manager.state.isActive ∧
      (c.manager.state = .closed ∨ c.manager.state = .pending) ∧
      (c.disconnect.1 = true ↔ c.manager.state = .pending) := by
  have hc := h.controlsInStep
  have hm := h.leftByCalls
  refine ⟨by rw [hc]; simp, by rw [hc]; simp, hm.imp_right And.left, ?_⟩
  exact hm.disconnect_fst

/-- Connect, then a stale report that the session connected. -/
theorem controls_after_stale_report :
    (((create ({} : ConnectConfig) ({} : Recorder)).call .connect).call
        (.handle (.stateChanged .connected))).Reachable ∧
      let c := ((create ({} : ConnectConfig) ({} : Recorder)).call .connect).call
        (.handle (.stateChanged .connected))
      c.controls.enabledCount = 1 ∧ c.controls.showsConnected = c.manager.state.isActive ∧
        (c.manager.state = .closed ∨ c.manager.state = .pending) ∧
        (c.disconnect.1 = true ↔ c.manager.state = .pending) :=
  have h : (((create ({} : ConnectConfig) ({} : Recorder)).call .connect).call
      (.handle (.stateChanged .connected))).Reachable := .call _ (.call _ (.create _ _))
  ⟨h, controls_follow_calls _ h⟩

end Controller

end StompConsole.Client
