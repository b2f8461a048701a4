import Mathlib
import StompConsole.Proofs.Client.Controls

/-!
# What `connect` does, in every state

`connect` makes its two checks before it touches anything: no session may be active, and the
endpoint URL must be valid. Only then does it abort a leftover session, advance the generation,
publish the pending state and store the new session. This file proves that order matters as the
code intends:

* `connect_eq` gives the whole call as one equation: refused in an active state, else the
  endpoint URL's own error, else the manager with the counter advanced by one, the state pending,
  one `stateChanged pending` queued if the channel has room, and the new session stored;
* a refused or failed `connect` leaves the runtime as it found it, the leftover session's task
  included (`Runtime.step_connect_of_error`).
-/

namespace StompConsole.Client

/-! A result evaluated by `decide` only as a `Bool`, such as a URL parsed at a fixed input, gives
back the value or the error it holds. -/

theorem exists_eq_ok_of_toBool {ε α : Type} {x : Except ε α} (h : x.toBool = true) :
    ∃ a, x = .ok a := by
  cases x with
  | error e => cases h
  | ok a => exact ⟨a, rfl⟩

theorem exists_eq_error_of_toBool {ε α : Type} {x : Except ε α} (h : x.toBool = false) :
    ∃ e, x = .error e := by
  cases x with
  | error e => exact ⟨e, rfl⟩
  | ok a => cases h

namespace Manager

variable {m m' : Manager}

/-- Publishing a state other than the current one sets it and queues its announcement, if the
channel has room. -/
theorem publish_of_ne {s : ConnectionState} (h : m.state ≠ s) :
    m.publish s = { m with state := s, events := if m.events.length < eventCapacity
      then m.events ++ [.stateChanged s] else m.events } := by
  simp [publish, h]

/-- **`connect` in one equation.** In an active state it is refused without looking at the URL;
otherwise the endpoint URL decides, and a valid one starts the next generation. -/
theorem connect_eq (m : Manager) :
    m.connect = if m.state.isActive then .error (.alreadyActive m.state) else
      m.config.endpointUrl.map fun _ =>
        { m with generation := m.generation + 1, state := .pending,
                 events := if m.events.length < eventCapacity
                   then m.events ++ [.stateChanged .pending] else m.events,
                 session := some (m.generation + 1) } := by
  unfold connect
  split
  · rfl
  · next ha =>
    -- an inactive state is closed or failed, so publishing `pending` changes it
    have hp : m.state ≠ .pending := by
      rcases ConnectionState.isActive_eq_false_iff.1 (by simpa using ha) with h | h <;> simp [h]
    cases m.config.endpointUrl with
    | error e => rfl
    | ok u =>
      have hp' : ({ m with generation := m.generation + 1 } : Manager).state ≠ .pending := hp
      show Except.ok _ = Except.ok _
      rw [publish_of_ne hp']

theorem connect_of_active (h : m.state.isActive = true) :
    m.connect = .error (.alreadyActive m.state) := by
  rw [connect_eq, if_pos h]

theorem connect_of_inactive (h : m.state.isActive = false) :
    m.connect = m.config.endpointUrl.map fun _ =>
      { m with generation := m.generation + 1, state := .pending,
               events := if m.events.length < eventCapacity
                 then m.events ++ [.stateChanged .pending] else m.events,
               session := some (m.generation + 1) } := by
  rw [connect_eq, if_neg (by simp [h])]

/-- Out of an active state and with a valid endpoint URL, `connect` starts the next generation. -/
theorem connect_of_endpointUrl_ok (m : Manager) {u : Url.Record} (h : m.state.isActive = false)
    (hu : m.config.endpointUrl = .ok u) :
    m.connect = .ok
      { m with generation := m.generation + 1, state := .pending,
               events := if m.events.length < eventCapacity
                 then m.events ++ [.stateChanged .pending] else m.events,
               session := some (m.generation + 1) } := by
  rw [connect_of_inactive h, hu]
  rfl

/-- Out of an active state, `connect` fails exactly as the endpoint URL does. -/
theorem connect_eq_error_iff_of_inactive (h : m.state.isActive = false) (e : ConnectError) :
    m.connect = .error e ↔ m.config.endpointUrl = .error e := by
  rw [connect_of_inactive h]
  cases m.config.endpointUrl <;> simp [Except.map]

/-- **A successful `connect`**, field by field. -/
theorem connect_eq_ok_iff :
    m.connect = .ok m' ↔ m.state.isActive = false ∧ (∃ u, m.config.endpointUrl = .ok u) ∧
      m'.config = m.config ∧ m'.generation = m.generation + 1 ∧ m'.state = .pending ∧
      m'.events = (if m.events.length < eventCapacity
        then m.events ++ [.stateChanged .pending] else m.events) ∧
      m'.session = some m'.generation := by
  cases ha : m.state.isActive
  · rw [connect_of_inactive ha]
    cases hu : m.config.endpointUrl with
    | error e => simp [Except.map]
    | ok u =>
      simp only [Except.map, Except.ok.injEq, true_and, exists_eq']
      constructor
      · rintro rfl
        simp
      · rcases m' with ⟨config, state, generation, session, events⟩
        rintro ⟨rfl, rfl, rfl, rfl, hs⟩
        simp only at hs
        rw [hs]
  · simp [connect_of_active ha]

end Manager

namespace Runtime

/-- **A refused or failed `connect` changes nothing**: the checks come before the leftover task
is aborted, so the tasks, the manager and what the consumer read all stay as they were. -/
theorem step_connect_of_error {r : Runtime} {e : ConnectError} (h : r.manager.connect = .error e) :
    r.step .connect = r := by
  simp [step, h]

end Runtime

/-- **What `connect` does, in every state.** It is refused as already active exactly when the
state is pending or connected. Otherwise it fails exactly when the endpoint URL is invalid, with
the URL's error, which is always an invalid-URL error. A refused or failed `connect` leaves the
runtime as it was: watched state, counter, stored session, queued events and the tasks. A
successful one advances the counter by one, sets the state pending, queues one
`stateChanged pending` if the channel has room, and stores the new session. -/
theorem connect_outcome :
    (∀ m : Manager, m.connect = .error (.alreadyActive m.state) ↔
      m.state = .pending ∨ m.state = .connected) ∧
    (∀ m : Manager, m.state = .closed ∨ m.state = .failed → ∀ e : ConnectError,
      m.connect = .error e ↔ m.config.endpointUrl = .error e) ∧
    (∀ (c : ConnectConfig) (e : ConnectError), c.endpointUrl = .error e →
      ∃ text, e = .invalidUrl text) ∧
    (∀ (r : Runtime) (e : ConnectError), r.manager.connect = .error e → r.step .connect = r) ∧
    (∀ m m' : Manager, m.connect = .ok m' ↔
      m.state.isActive = false ∧ (∃ u, m.config.endpointUrl = .ok u) ∧
      m'.config = m.config ∧ m'.generation = m.generation + 1 ∧ m'.state = .pending ∧
      m'.events = (if m.events.length < eventCapacity
        then m.events ++ [.stateChanged .pending] else m.events) ∧
      m'.session = some m'.generation) := by
  refine ⟨fun m => ?_, fun m hm e => ?_, fun c e h => Manager.endpointUrl_eq_error h,
    fun r e h => Runtime.step_connect_of_error h, fun m m' => Manager.connect_eq_ok_iff⟩
  · cases ha : m.state.isActive
    · -- inactive: a refusal as already active is impossible, whatever the URL
      have hn : ¬ (m.state = .pending ∨ m.state = .connected) := by
        rw [← ConnectionState.isActive_eq_true_iff, ha]
        simp
      rw [Manager.connect_eq_error_iff_of_inactive ha, iff_false_intro hn, iff_false]
      intro hu
      obtain ⟨text, ht⟩ := Manager.endpointUrl_eq_error hu
      cases ht
    · simpa [Manager.connect_of_active ha] using ConnectionState.isActive_eq_true_iff.1 ha
  · exact Manager.connect_eq_error_iff_of_inactive (ConnectionState.isActive_eq_false_iff.2 hm) e

/-- A pending manager refuses a second `connect` and its runtime stays as it was; a failed one
fails exactly as its endpoint URL; and the base URL `::nope::` is an invalid-URL error. -/
theorem connect_refused_while_pending :
    let pending : Manager := { config := {}, state := .pending, generation := 1, session := some 1 }
    let failed : Manager := { config := {}, state := .failed, generation := 1, session := some 1 }
    (pending.connect = .error (.alreadyActive .pending) ∧
      (⟨pending, [{ generation := 1 }], []⟩ : Runtime).step .connect =
        ⟨pending, [{ generation := 1 }], []⟩) ∧
    (failed.state = .closed ∨ failed.state = .failed) ∧
      (∀ e, failed.connect = .error e ↔ ({} : ConnectConfig).endpointUrl = .error e) ∧
    ∃ e, ({ baseUrl := "::nope::" } : ConnectConfig).endpointUrl = .error e ∧
      ∃ text, e = .invalidUrl text := by
  intro pending failed
  have hp : pending.connect = .error (.alreadyActive .pending) :=
    (connect_outcome.1 pending).2 (Or.inl rfl)
  obtain ⟨e, he⟩ := exists_eq_error_of_toBool
    (x := ({ baseUrl := "::nope::" } : ConnectConfig).endpointUrl) (by decide +kernel)
  exact ⟨⟨hp, connect_outcome.2.2.2.1 _ _ hp⟩, Or.inr rfl, connect_outcome.2.1 failed (Or.inr rfl),
    e, he, connect_outcome.2.2.1 _ _ he⟩

end StompConsole.Client
