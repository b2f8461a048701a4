import Mathlib
import StompConsole.Client.SessionTask
import StompConsole.Proofs.Client.Generations
import StompConsole.Proofs.Client.SessionWords

/-!
# What a session task's moves do

A session task's step is a move chosen by `react` and carried out by `perform`. This file takes
both apart once, so that the invariants of the next file never unfold either:

* each move, for a current task, as the exact change it makes to the manager: a failed attempt
  (`fail_of_reconnects`, `fail_of_not_reconnects`), a dropped session (`drop_of_reconnects`,
  `drop_of_not_reconnects`), an accepted one (`accept_manager`), reports (`emitAll_manager`);
* for each kind of phase, the moves it can make: the handshake (`react_fitsHandshake`), a
  connected session (`react_fitsConnected`), between attempts (`react_retrying`), after the
  task returned (`react_ended`); a connected session's reports are reports, perhaps followed by
  the broker's error (`Reported`, `dispatchAll_reported`);
* no move changes the configuration (`perform_config`);
* and a task reports itself connected only in a step that reads the broker's `CONNECTED` during
  the handshake (`handshaking_of_reports_connected`): every other step reports only events that
  say something else (`ReportsOnly`).
-/

namespace StompConsole.Client

open Stomp

/-! ## The manager's side of a report -/

namespace Manager

variable {m m₀ : Manager} {g : UInt64} {s : ConnectionState} {e : Event}

/-- **`connect` leaves the state pending.** -/
theorem state_of_connect (h : m₀.connect = .ok m) : m.state = .pending := by
  obtain ⟨-, rfl⟩ := eq_of_connect h
  exact publish_state _ _

theorem sessionSetState_generation (m : Manager) (g : UInt64) (s : ConnectionState) :
    (m.sessionSetState g s).generation = m.generation := by
  unfold sessionSetState
  split <;> rfl

theorem sessionEmit_generation (m : Manager) (g : UInt64) (e : Event) :
    (m.sessionEmit g e).generation = m.generation := by
  unfold sessionEmit
  split <;> rfl

/-- Reporting the state the manager already shows changes nothing. -/
theorem sessionSetState_of_eq (h : m.state = s) : m.sessionSetState g s = m := by
  simp [sessionSetState, h]

theorem sessionEmit_of_current (hg : m.generation = g) :
    m.sessionEmit g e = { m with events := m.events ++ [e] } := by
  simp [sessionEmit, isCurrent, hg]

/-- A report adds at most the state it announces. -/
theorem sessionSetState_events (m : Manager) (g : UInt64) (s : ConnectionState) :
    ∃ new, (m.sessionSetState g s).events = m.events ++ new ∧ ∀ x ∈ new, x = .stateChanged s := by
  unfold sessionSetState
  split
  · exact ⟨[_], rfl, by simp⟩
  · exact ⟨[], by simp, by simp⟩

/-- An event report adds at most that event. -/
theorem sessionEmit_events (m : Manager) (g : UInt64) (e : Event) :
    ∃ new, (m.sessionEmit g e).events = m.events ++ new ∧ ∀ x ∈ new, x = e := by
  unfold sessionEmit
  split
  · exact ⟨[_], rfl, by simp⟩
  · exact ⟨[], by simp, by simp⟩

end Manager

/-! ## What each move does -/

namespace SessionTask

variable {t : SessionTask}

@[simp] theorem setState_config (s : ConnectionState) : (t.setState s).config = t.config := rfl
@[simp] theorem setState_generation (s : ConnectionState) :
    (t.setState s).generation = t.generation := rfl
@[simp] theorem setState_phase (s : ConnectionState) : (t.setState s).phase = t.phase := rfl
@[simp] theorem emit_config (e : Event) : (t.emit e).config = t.config := rfl
@[simp] theorem emit_generation (e : Event) : (t.emit e).generation = t.generation := rfl
@[simp] theorem emit_phase (e : Event) : (t.emit e).phase = t.phase := rfl
@[simp] theorem advance_config (out : List String) (next : SessionPhase) :
    (t.advance out next).config = t.config := rfl
@[simp] theorem advance_generation (out : List String) (next : SessionPhase) :
    (t.advance out next).generation = t.generation := rfl
@[simp] theorem advance_manager (out : List String) (next : SessionPhase) :
    (t.advance out next).manager = t.manager := rfl
@[simp] theorem advance_phase (out : List String) (next : SessionPhase) :
    (t.advance out next).phase = next := rfl

theorem emit_manager_generation (e : Event) :
    (t.emit e).manager.generation = t.manager.generation :=
  Manager.sessionEmit_generation _ _ _

section Current

variable (hcur : t.manager.generation = t.generation)
include hcur

theorem emit_manager (e : Event) :
    (t.emit e).manager = { t.manager with events := t.manager.events ++ [e] } :=
  Manager.sessionEmit_of_current hcur

theorem emitAll_manager (events : List Event) :
    (events.foldl emit t).manager = { t.manager with events := t.manager.events ++ events } := by
  induction events generalizing t with
  | nil => simp
  | cons e events ih =>
    rw [List.foldl_cons, ih (by rw [emit_manager_generation]; exact hcur), emit_manager hcur]
    simp

/-- **A failed attempt, retried**: `HandshakeFailed` and `Reconnecting`, the state still pending. -/
theorem fail_of_reconnects (hst : t.manager.state = .pending) (hr : t.config.reconnects = true)
    (e : ConnectError) :
    t.fail e = { t with
      manager := { t.manager with events := t.manager.events ++
        [.handshakeFailed e.message, .reconnecting t.config.reconnectDelay] },
      phase := .retrying } := by
  simp [fail, retry, emit, setState, advance, Manager.sessionEmit, Manager.sessionSetState,
    Manager.isCurrent, hcur, hst, hr]

/-- **A failed attempt, not retried**: `HandshakeFailed`, then failed. -/
theorem fail_of_not_reconnects (hst : t.manager.state = .pending) (hr : t.config.reconnects = false)
    (e : ConnectError) :
    t.fail e = { t with
      manager := { t.manager with state := .failed, events := t.manager.events ++
        [.handshakeFailed e.message, .stateChanged .failed] },
      phase := .ended } := by
  simp [fail, emit, setState, advance, Manager.sessionEmit, Manager.sessionSetState,
    Manager.isCurrent, hcur, hst, hr]

/-- **A dropped session, retried**: `Disconnected`, then pending again and `Reconnecting`. -/
theorem drop_of_reconnects (hst : t.manager.state = .connected) (hr : t.config.reconnects = true)
    (reason : String) :
    t.drop reason = { t with
      manager := { t.manager with state := .pending, events := t.manager.events ++
        [.disconnected reason, .stateChanged .pending, .reconnecting t.config.reconnectDelay] },
      phase := .retrying } := by
  simp [drop, retry, emit, setState, advance, Manager.sessionEmit, Manager.sessionSetState,
    Manager.isCurrent, hcur, hst, hr]

/-- **A dropped session, not retried**: `Disconnected`, then closed. -/
theorem drop_of_not_reconnects (hst : t.manager.state = .connected)
    (hr : t.config.reconnects = false) (reason : String) :
    t.drop reason = { t with
      manager := { t.manager with state := .closed, events := t.manager.events ++
        [.disconnected reason, .stateChanged .closed] },
      phase := .ended } := by
  simp [drop, emit, setState, advance, Manager.sessionEmit, Manager.sessionSetState,
    Manager.isCurrent, hcur, hst, hr]

/-- **An accepted session**: connected, then `Connected` with the broker's version and server. -/
theorem accept_manager (hst : t.manager.state = .pending) (est : Established) :
    (t.perform (.accept est)).manager = { t.manager with
      state := .connected,
      events := t.manager.events ++
        [.stateChanged .connected, Event.connected est.version est.server] } := by
  simp [perform, subscribeNext, ConnectConfig.subscriptions, emit, setState,
    Manager.sessionEmit, Manager.sessionSetState, Manager.isCurrent, hcur, hst]

end Current

theorem accept_phase (est : Established) :
    (t.perform (.accept est)).phase =
      .subscribing est.heartbeat t.config.errorTopic
        [(notificationSubscription, t.config.notificationTopic)] := by
  simp [perform, subscribeNext, ConnectConfig.subscriptions]

end SessionTask

/-- Whether a phase belongs to a session the broker accepted: subscribing, routing, writing a
heart-beat, or stopping. -/
def SessionPhase.isConnected : SessionPhase → Bool
  | .subscribing .. | .established _ | .sendingHeartbeat _ | .sendingDisconnect | .awaitingReceipt =>
    true
  | _ => false

/-! ## What each phase can do -/

/-- What a connected task reports on one read, and how the session ends: reports only, and the
session goes on; or reports and perhaps the broker's error, and the session drops. -/
def Reported (events : List Event) (ending : Option String) : Prop :=
  (ending = none ∧ ∀ x ∈ events, x.isReport) ∨
    ∃ (reports : List Event) (se : Option String) (reason : String),
      events = reports ++ (se.map Event.serverError).toList ∧
      (∀ x ∈ reports, x.isReport) ∧ ending = some reason

/-- **Routing one frame** reports at most one report and goes on, or reports the broker's error
and ends. -/
theorem dispatch_cases (config : ConnectConfig) (f : Frame) :
    (∃ e, dispatch config f = (e, none) ∧ ∀ x ∈ e, x.isReport) ∨
      ∃ msg reason, dispatch config f = (some (.serverError msg), some reason) := by
  unfold dispatch
  split
  · left
    dsimp only
    split_ifs
    · refine ⟨_, rfl, fun x hx => ?_⟩
      simp only [Option.mem_def, Option.some.injEq] at hx
      subst hx
      split <;> rfl
    · refine ⟨_, rfl, fun x hx => ?_⟩
      simp only [Option.mem_def, Option.some.injEq] at hx
      subst hx
      split <;> rfl
    · exact ⟨none, rfl, by simp⟩
  · exact Or.inr ⟨_, _, rfl⟩
  · exact Or.inl ⟨none, rfl, by simp⟩

theorem dispatchAll_reported (config : ConnectConfig) :
    ∀ frames : List Frame, Reported (dispatchAll config frames).1 (dispatchAll config frames).2
  | [] => Or.inl ⟨rfl, by simp [dispatchAll]⟩
  | f :: fs => by
    rcases dispatch_cases config f with ⟨e, he, hrep⟩ | ⟨msg, reason, he⟩
    · simp only [dispatchAll, he]
      rcases dispatchAll_reported config fs with ⟨hnone, hall⟩ | ⟨xs, se, r, hev, hxs, hend⟩
      · refine Or.inl ⟨hnone, fun x hx => ?_⟩
        rcases List.mem_append.1 hx with hx | hx
        · exact hrep x (Option.mem_toList.1 hx)
        · exact hall x hx
      · refine Or.inr ⟨e.toList ++ xs, se, r, by rw [hev, List.append_assoc], fun x hx => ?_, hend⟩
        rcases List.mem_append.1 hx with hx | hx
        · exact hrep x (Option.mem_toList.1 hx)
        · exact hxs x hx
    · simp only [dispatchAll, he]
      exact Or.inr ⟨[], some msg, reason, rfl, by simp, rfl⟩

/-- A drop without reports first. -/
theorem Reported.drop (reason : String) : Reported [] (some reason) :=
  Or.inr ⟨[], none, reason, rfl, by simp, rfl⟩

/-- **The moves of the handshake**: waiting, going on to a phase before the broker's acceptance or
returning, failing, and accepting. -/
def Move.FitsHandshake : Move → Prop
  | .wait | .fail _ | .accept _ => True
  | .advance _ next => next.isConnected = false
  | .close | .report _ _ | .retry => False

/-- **The moves of a connected session**: waiting, going on to a phase of the connected session,
closing after a stop, and reporting what a read brought, perhaps dropping. -/
def Move.FitsConnected : Move → Prop
  | .wait | .close => True
  | .advance _ next => next.isConnected = true
  | .report events ending => Reported events ending
  | .fail _ | .accept _ | .retry => False

theorem readReply_fitsHandshake (config : ConnectConfig) (r : WsRead) :
    (readReply config r).FitsHandshake := by
  unfold readReply
  repeat' split
  all_goals trivial

theorem readConnected_fitsConnected (config : ConnectConfig) (r : WsRead) :
    (readConnected config r).FitsConnected := by
  unfold readConnected
  split
  · trivial
  · exact Reported.drop _
  · split
    · exact Reported.drop _
    · trivial
    · exact Reported.drop _
    · -- a read of payloads: what routing its frames reports
      exact dispatchAll_reported config _

theorem readReceipt_fitsConnected (config : ConnectConfig) (g : UInt64) (r : WsRead) :
    (readReceipt config g r).FitsConnected := by
  unfold readReceipt
  repeat' split
  all_goals trivial

theorem subscribeNext_isConnected (heartbeat : Heartbeat) :
    ∀ subscriptions, (subscribeNext heartbeat subscriptions).2.isConnected = true
  | [] => rfl
  | _ :: _ => rfl

/-- **Every move of the handshake fits it.** -/
theorem react_fitsHandshake {phase : SessionPhase} (hp : phase.inHandshake = true)
    (config : ConnectConfig) (g : UInt64) (i : SessionInput) :
    (react config g phase i).FitsHandshake := by
  cases phase <;> simp only [SessionPhase.inHandshake, reduceCtorEq] at hp <;>
    rcases i with (_ | _) | r | (_ | _) | _ | _ | _ | _ | _ | _ <;>
    simp only [react, SessionPhase.inHandshake, if_true, Bool.true_or]
  case handshaking.read => exact readReply_fitsHandshake config r
  all_goals (repeat' split) <;> simp [Move.FitsHandshake, SessionPhase.isConnected]

/-- **Every move of a connected session fits it.** -/
theorem react_fitsConnected {phase : SessionPhase} (hp : phase.isConnected = true)
    (config : ConnectConfig) (g : UInt64) (i : SessionInput) :
    (react config g phase i).FitsConnected := by
  cases phase <;> simp only [SessionPhase.isConnected, reduceCtorEq] at hp <;>
    rcases i with (_ | _) | r | (_ | _) | _ | _ | _ | _ | _ | _ <;>
    simp only [react, SessionPhase.inHandshake, Bool.false_or, beq_iff_eq, reduceCtorEq, if_false]
  case established.read => exact readConnected_fitsConnected config r
  case awaitingReceipt.read => exact readReceipt_fitsConnected config g r
  all_goals (repeat' split) <;> simp only [Move.FitsConnected, subscribeNext_isConnected] <;>
    simp [SessionPhase.isConnected, Reported.drop]

/-- Between attempts a task waits, begins the next attempt, or returns. -/
theorem react_retrying (config : ConnectConfig) (g : UInt64) (i : SessionInput) :
    react config g .retrying i = .wait ∨ react config g .retrying i = .retry ∨
      react config g .retrying i = .advance [] .ended := by
  rcases i with (_ | _) | r | (_ | _) | _ | _ | _ | _ | _ | _ <;> simp [react, SessionPhase.inHandshake]

/-- A task that returned does nothing more. -/
theorem react_ended (config : ConnectConfig) (g : UInt64) (i : SessionInput) :
    react config g .ended i = .wait := by
  rcases i with (_ | _) | r | (_ | _) | _ | _ | _ | _ | _ | _ <;> simp [react, SessionPhase.inHandshake]

theorem readReply_eq_accept {config : ConnectConfig} {r : WsRead} {est : Established}
    (h : readReply config r = .accept est) :
    ∃ raw ps, r.rawText = some (.ok raw) ∧ config.transport.receive raw = .ok (.payloads ps) ∧
      handshakeReply config.heartbeat (handshakeItems ps) = some (.ok est) := by
  unfold readReply at h
  rcases hraw : r.rawText with _ | (e | raw) <;> simp only [hraw, reduceCtorEq] at h
  rcases hps : config.transport.receive raw with e | (ps | _ | ⟨code, reason⟩) <;>
    simp only [hps, reduceCtorEq] at h
  rcases hreply : handshakeReply config.heartbeat (handshakeItems ps) with _ | (e | est') <;>
    simp only [hreply, reduceCtorEq, Move.accept.injEq] at h
  subst h
  exact ⟨raw, ps, rfl, hps, hreply⟩

/-- **Only the broker's `CONNECTED` is accepted**: a task accepts only while it waits for the reply
to `CONNECT`, on a read whose payloads the handshake accepts. -/
theorem react_eq_accept {config : ConnectConfig} {g : UInt64} {phase : SessionPhase}
    {i : SessionInput} {est : Established} (h : react config g phase i = .accept est) :
    phase = .handshaking ∧ ∃ r raw ps, i = .read r ∧ r.rawText = some (.ok raw) ∧
      config.transport.receive raw = .ok (.payloads ps) ∧
      handshakeReply config.heartbeat (handshakeItems ps) = some (.ok est) := by
  rcases i with (_ | _) | r | (_ | _) | _ | _ | _ | _ | _ | _ <;> cases phase <;>
    simp only [react, SessionPhase.inHandshake, Bool.false_or, Bool.true_or, beq_iff_eq,
      reduceCtorEq, if_false, if_true] at h
  all_goals repeat' split at h
  all_goals try cases h
  case read.handshaking =>
    obtain ⟨raw, ps, hraw, hps, hreply⟩ := readReply_eq_accept h
    exact ⟨rfl, r, raw, ps, rfl, hraw, hps, hreply⟩
  case read.established =>
    have hfit := readConnected_fitsConnected config r
    rw [h] at hfit
    exact hfit.elim
  case read.awaitingReceipt =>
    have hfit := readReceipt_fitsConnected config g r
    rw [h] at hfit
    exact hfit.elim


theorem SessionPhase.cases_of_isConnected_eq_false {phase : SessionPhase}
    (h : phase.isConnected = false) :
    phase.inHandshake = true ∨ phase = .retrying ∨ phase = .ended := by
  cases phase <;> simp_all [SessionPhase.isConnected, SessionPhase.inHandshake]

/-! ## What no move changes -/

namespace SessionTask

variable {t : SessionTask}

@[simp] theorem retry_config : t.retry.config = t.config := by
  unfold retry
  split <;> rfl

@[simp] theorem fail_config (e : ConnectError) : (t.fail e).config = t.config := by
  simp only [fail]
  split <;> simp

@[simp] theorem drop_config (reason : String) : (t.drop reason).config = t.config := by
  simp only [drop]
  split <;> simp

@[simp] theorem attempt_config : t.attempt.config = t.config := by
  simp only [attempt]
  split <;> simp

@[simp] theorem emitAll_config (events : List Event) : (events.foldl emit t).config = t.config := by
  induction events generalizing t with
  | nil => rfl
  | cons e events ih => exact ih

@[simp] theorem emitAll_generation (events : List Event) :
    (events.foldl emit t).generation = t.generation := by
  induction events generalizing t with
  | nil => rfl
  | cons e events ih => exact ih

@[simp] theorem emitAll_phase (events : List Event) : (events.foldl emit t).phase = t.phase := by
  induction events generalizing t with
  | nil => rfl
  | cons e events ih => exact ih

/-- No move changes the configuration. -/
@[simp] theorem perform_config (mv : Move) : (t.perform mv).config = t.config := by
  cases mv with
  | report events ending => cases ending <;> simp [perform]
  | _ => simp [perform]

@[simp] theorem step_config (i : SessionInput) : (t.step i).config = t.config := perform_config _

/-- A run keeps the configuration it started with. -/
@[simp] theorem run_config (inputs : List SessionInput) : (t.run inputs).config = t.config := by
  induction inputs generalizing t with
  | nil => rfl
  | cons i inputs ih => exact ih.trans (step_config i)

@[simp] theorem start_config (m : Manager) : (start m).config = m.config := attempt_config

end SessionTask

/-! ## Reporting connected takes a `CONNECTED` frame -/

/-- The handshake accepts only a `CONNECTED` frame of the read, and takes the session's terms from
it. -/
theorem exists_connected_of_handshakeReply {ours : Heartbeat} {items : List (Except StompError Frame)}
    {est : Established} (h : handshakeReply ours items = some (.ok est)) :
    ∃ f, .ok f ∈ items ∧ f.command = .connected ∧ est = .ofFrame ours f := by
  obtain ⟨x, hx, hfx⟩ := List.exists_of_findSome?_eq_some h
  rcases x with e | f
  · simp at hfx
  · refine ⟨f, hx, ?_⟩
    simp only at hfx
    split at hfx
    · next hc => exact ⟨hc, (Except.ok.inj (Option.some.inj hfx)).symm⟩
    · cases hfx
    · cases hfx

theorem mem_readableFrames_of_mem_handshakeItems {f : Frame} {payloads : List String}
    (h : .ok f ∈ handshakeItems payloads) : f ∈ readableFrames payloads := by
  simp only [handshakeItems, readableFrames, List.mem_flatMap] at h ⊢
  obtain ⟨p, hp, hf⟩ := h
  refine ⟨p, hp, ?_⟩
  split at hf
  · next items _ =>
    simp only [List.mem_filterMap] at hf ⊢
    obtain ⟨item, hitem, hsome⟩ := hf
    refine ⟨item, hitem, ?_⟩
    cases item <;> simp_all
  · simp at hf

/-- `t'` has what `t` reported, then only events that satisfy `P`. -/
def ReportsOnly (P : Event → Prop) (t t' : SessionTask) : Prop :=
  ∃ new, t'.manager.events = t.manager.events ++ new ∧ ∀ e ∈ new, P e

namespace ReportsOnly

variable {P : Event → Prop} {t t' t'' : SessionTask}

theorem refl (P : Event → Prop) (t : SessionTask) : ReportsOnly P t t := ⟨[], by simp, by simp⟩

theorem trans (h₁ : ReportsOnly P t t') (h₂ : ReportsOnly P t' t'') : ReportsOnly P t t'' := by
  obtain ⟨n₁, e₁, p₁⟩ := h₁
  obtain ⟨n₂, e₂, p₂⟩ := h₂
  refine ⟨n₁ ++ n₂, by rw [e₂, e₁, List.append_assoc], fun e he => ?_⟩
  rcases List.mem_append.1 he with he | he
  · exact p₁ e he
  · exact p₂ e he

theorem setState {s : ConnectionState} (hs : P (.stateChanged s)) : ReportsOnly P t (t.setState s) := by
  obtain ⟨new, hnew, hall⟩ := Manager.sessionSetState_events t.manager t.generation s
  exact ⟨new, hnew, fun e he => hall e he ▸ hs⟩

theorem emit {e : Event} (he : P e) : ReportsOnly P t (t.emit e) := by
  obtain ⟨new, hnew, hall⟩ := Manager.sessionEmit_events t.manager t.generation e
  exact ⟨new, hnew, fun x hx => hall x hx ▸ he⟩

theorem advance (out : List String) (next : SessionPhase) : ReportsOnly P t (t.advance out next) :=
  refl P t

theorem emitAll {events : List Event} (h : ∀ e ∈ events, P e) :
    ReportsOnly P t (events.foldl SessionTask.emit t) := by
  induction events generalizing t with
  | nil => exact refl P t
  | cons e events ih =>
    exact (emit (h e List.mem_cons_self)).trans (ih fun x hx => h x (List.mem_cons_of_mem _ hx))

/-- The events a task reports on its own, around attempts: none of them says connected. -/
def NotConnected (e : Event) : Prop := e ≠ .stateChanged .connected

theorem retry : ReportsOnly NotConnected t t.retry := by
  unfold SessionTask.retry
  split
  · exact ((setState (by simp [NotConnected])).trans (emit (by simp [NotConnected]))).trans
      (advance _ _)
  · exact advance _ _

theorem fail (e : ConnectError) : ReportsOnly NotConnected t (t.fail e) := by
  simp only [SessionTask.fail]
  have h := emit (t := t) (e := .handshakeFailed e.message) (P := NotConnected) (by simp [NotConnected])
  split
  · exact h.trans retry
  · exact (h.trans (setState (by simp [NotConnected]))).trans (advance _ _)

theorem drop (reason : String) : ReportsOnly NotConnected t (t.drop reason) := by
  simp only [SessionTask.drop]
  have h := emit (t := t) (e := .disconnected reason) (P := NotConnected) (by simp [NotConnected])
  split
  · exact h.trans retry
  · exact (h.trans (setState (by simp [NotConnected]))).trans (advance _ _)

theorem attempt : ReportsOnly NotConnected t t.attempt := by
  simp only [SessionTask.attempt]
  have h := setState (t := t) (s := .pending) (P := NotConnected) (by simp [NotConnected])
  split
  · exact h.trans (fail _)
  · exact h.trans (advance _ _)

theorem notConnected_of_isReport {e : Event} (h : e.isReport) : NotConnected e := by
  rintro rfl
  cases h

/-- **A connected session's reports**, and the drop that may follow them: the session's own events
and perhaps the broker's error, none of them a state. -/
theorem report {events : List Event} {ending : Option String} (hr : Reported events ending) :
    ReportsOnly NotConnected t (t.perform (.report events ending)) := by
  have hevents : ∀ e ∈ events, NotConnected e := by
    rcases hr with ⟨-, hall⟩ | ⟨reports, se, _, rfl, hreports, -⟩
    · exact fun e he => notConnected_of_isReport (hall e he)
    · intro e he
      rcases List.mem_append.1 he with he | he
      · exact notConnected_of_isReport (hreports e he)
      · cases se <;> simp_all [NotConnected]
  cases ending with
  | none => exact emitAll hevents
  | some reason => exact (emitAll hevents).trans (drop reason)

end ReportsOnly

/-- **A step that does not accept a session does not report it connected.** -/
theorem reportsOnly_step_of_ne_accept {t : SessionTask} {i : SessionInput}
    (h : ∀ est, react t.config t.generation t.phase i ≠ .accept est) :
    ReportsOnly ReportsOnly.NotConnected t (t.step i) := by
  unfold SessionTask.step
  cases hph : t.phase.isConnected
  · rcases SessionPhase.cases_of_isConnected_eq_false hph with hh | hr | he
    · have hfit := react_fitsHandshake hh t.config t.generation i
      generalize react t.config t.generation t.phase i = move at h hfit ⊢
      cases move with
      | wait => exact ReportsOnly.refl _ _
      | advance out next => exact ReportsOnly.advance out next
      | fail e => exact ReportsOnly.fail e
      | accept est => exact absurd rfl (h est)
      | close | report _ _ | retry => exact hfit.elim
    · rw [hr]
      rcases react_retrying t.config t.generation i with hm | hm | hm <;> rw [hm]
      · exact ReportsOnly.refl _ _
      · exact ReportsOnly.attempt
      · exact ReportsOnly.advance [] .ended
    · rw [he, react_ended]
      exact ReportsOnly.refl _ _
  · have hfit := react_fitsConnected hph t.config t.generation i
    generalize react t.config t.generation t.phase i = move at hfit ⊢
    cases move with
    | wait => exact ReportsOnly.refl _ _
    | advance out next => exact ReportsOnly.advance out next
    | close => exact ⟨[], by simp [SessionTask.perform], by simp⟩
    | report events ending => exact ReportsOnly.report hfit
    | fail _ | accept _ | retry => exact hfit.elim

/-- **A task reports itself connected only on a `CONNECTED` frame**: the step that does is a read
during the handshake, whose payloads hold a `CONNECTED` frame. -/
theorem handshaking_of_reports_connected {t : SessionTask} {i : SessionInput} {new : List Event}
    (hnew : (t.step i).manager.events = t.manager.events ++ new)
    (hmem : .stateChanged .connected ∈ new) :
    t.phase = .handshaking ∧ ∃ r raw ps f, i = .read r ∧ r.rawText = some (.ok raw) ∧
      t.config.transport.receive raw = .ok (.payloads ps) ∧ f ∈ readableFrames ps ∧
      f.command = .connected := by
  by_cases ha : ∃ est, react t.config t.generation t.phase i = .accept est
  · obtain ⟨est, ha⟩ := ha
    obtain ⟨hph, r, raw, ps, rfl, hraw, hps, hreply⟩ := react_eq_accept ha
    obtain ⟨f, hf, hc, -⟩ := exists_connected_of_handshakeReply hreply
    exact ⟨hph, r, raw, ps, f, rfl, hraw, hps, mem_readableFrames_of_mem_handshakeItems hf, hc⟩
  · obtain ⟨new', hev', hnew'⟩ := reportsOnly_step_of_ne_accept fun est hm => ha ⟨est, hm⟩
    rw [hev'] at hnew
    rw [← List.append_cancel_left hnew] at hmem
    exact absurd rfl (hnew' _ hmem)

end StompConsole.Client
