import Mathlib
import StompConsole.Proofs.Client.SessionMoves
import StompConsole.Proofs.Stomp.Wire

/-!
# What a session task reports

The main statement, `session_reports_follow_attempts`, says that whatever the network, the clock
and the manager do, what a current task reports is a prefix of a word of `SessionWord`; that the
watched state is connected exactly inside a connected stretch of those reports, from a
`StateChanged(Connected)` to the next `Disconnected`; and that a task reports itself connected only
in the step that reads, while it waits for the broker's reply, a `CONNECTED` frame.

The run is followed by an invariant, `Tracks`: the task is current, and its phase and the watched
state fix the shape of what it reported (`Shape`). Each kind of move keeps it (`Tracks.fail`,
`accept`, `attempt`, `drop`, `report`, `advance`, `close`), so every step does (`Tracks.step`) and
every run (`Tracks.run`). Every shape is a prefix of a word (`Shape.prefix_word`) and puts the
state where the stretches say (`Shape.state_eq_connected_iff`).
-/

namespace StompConsole.Client

open Stomp

/-! ## The words a run can still complete -/

/-- Attempts that were each retried: well formed, and only where retrying is on. -/
structure Retried (delay : Nat) (done : List Attempt) : Prop where
  wellFormed : ∀ a ∈ done, a.WellFormed
  retrying : done ≠ [] → delay ≠ 0

theorem Retried.nil (delay : Nat) : Retried delay [] := ⟨by simp, fun h => absurd rfl h⟩

theorem Retried.append_single {delay : Nat} {done : List Attempt} {a : Attempt}
    (h : Retried delay done) (ha : a.WellFormed) (hd : delay ≠ 0) : Retried delay (done ++ [a]) := by
  refine ⟨fun b hb => ?_, fun _ => hd⟩
  rcases List.mem_append.1 hb with hb | hb
  · exact h.wellFormed b hb
  · rw [List.mem_singleton.1 hb]
    exact ha

/-- Without retrying, no attempt was retried. -/
theorem Retried.eq_nil {done : List Attempt} (h : Retried 0 done) : done = [] := by
  by_contra hne
  exact h.retrying hne rfl

/-- **What a task has reported, given its phase and the watched state.** Before the broker accepts,
and between attempts: retried attempts, the state pending. While connected: retried attempts, then
the connected stretch so far. A task that does not retry and has returned: its one attempt and the
final state. A task stopped on request returns quietly from either of the first two. -/
inductive Shape (delay : Nat) : SessionPhase → ConnectionState → List Event → Prop
  | waiting {phase : SessionPhase} {done : List Attempt} (hdone : Retried delay done)
      (hphase : phase.isConnected = false) :
      Shape delay phase .pending (done.flatMap (Attempt.retried delay))
  | connected {phase : SessionPhase} {done : List Attempt} (hdone : Retried delay done)
      (version server : Option String) (reports : List Event) (hreports : ∀ x ∈ reports, x.isReport)
      (hphase : phase.isConnected = true ∨ phase = .ended) :
      Shape delay phase .connected (done.flatMap (Attempt.retried delay) ++
        .stateChanged .connected :: .connected version server :: reports)
  | finished {a : Attempt} (ha : a.WellFormed) (hdelay : delay = 0) :
      Shape delay .ended a.finalState a.final

namespace Shape

variable {delay : Nat} {phase : SessionPhase} {state : ConnectionState} {es : List Event}

/-- **Every shape is a prefix of a word**: the attempt under way can still be completed. -/
theorem prefix_word (h : Shape delay phase state es) : ∃ w, SessionWord delay w ∧ es <+: w := by
  cases h with
  | waiting hdone _ =>
    by_cases h0 : delay = 0
    · -- nothing was reported yet; any refused attempt completes it
      subst h0
      rw [hdone.eq_nil]
      exact ⟨(Attempt.refused "").final,
        by simp only [SessionWord, if_true]; exact ⟨.refused "", trivial, rfl⟩, List.nil_prefix⟩
    · exact ⟨_, by simp only [SessionWord, if_neg h0]; exact ⟨_, hdone.wellFormed, rfl⟩,
        List.prefix_refl _⟩
  | @connected _ done hdone v s xs hreports _ =>
    -- the session under way can still drop without a server error
    by_cases h0 : delay = 0
    · subst h0
      rw [hdone.eq_nil]
      refine ⟨(Attempt.dropped v s xs none "").final, ?_, ?_⟩
      · simp only [SessionWord, if_true]
        exact ⟨.dropped v s xs none "", hreports, rfl⟩
      · simp [Attempt.final, connectedRun]
    · refine ⟨_, ?_, List.prefix_append _
        [.disconnected "", .stateChanged .pending, .reconnecting delay]⟩
      · simp only [SessionWord, if_neg h0]
        refine ⟨done ++ [.dropped v s xs none ""], fun a ha => ?_, ?_⟩
        · rcases List.mem_append.1 ha with ha | ha
          · exact hdone.wellFormed a ha
          · rw [List.mem_singleton.1 ha]
            exact hreports
        · simp [Attempt.retried, connectedRun]
  | finished ha h0 =>
    subst h0
    exact ⟨_, by simp only [SessionWord, if_true]; exact ⟨_, ha, rfl⟩, List.prefix_refl _⟩

/-- **The state is connected exactly inside a connected stretch.** -/
theorem state_eq_connected_iff (h : Shape delay phase state es) :
    state = .connected ↔ InConnectedStretch es := by
  cases h with
  | waiting =>
    simp only [reduceCtorEq, false_iff]
    exact not_inConnectedStretch_flatMap_retried _ _
  | connected _ v s _ hreports =>
    simp only [true_iff]
    exact inConnectedStretch_connected _ v s hreports
  | @finished a _ _ =>
    cases a <;> simp only [Attempt.finalState, reduceCtorEq, false_iff] <;>
      exact not_inConnectedStretch_final _

end Shape

/-! ## The invariant of a current task -/

/-- **The invariant of a current task**: the task is current, and what it reported since `base`
has the shape its phase and the watched state call for. -/
structure Tracks (base : List Event) (t : SessionTask) : Prop where
  current : t.manager.generation = t.generation
  shape : ∃ emitted, t.manager.events = base ++ emitted ∧
    Shape t.config.reconnectDelay t.phase t.manager.state emitted

/-- A shape holds in any phase of the same kind, and in the phase of a task that returned. -/
theorem Shape.move {delay : Nat} {phase next : SessionPhase} {state : ConnectionState}
    {es : List Event} (h : Shape delay phase state es) (hp : phase ≠ .ended)
    (hn : next.isConnected = phase.isConnected ∨ next = .ended) : Shape delay next state es := by
  cases h with
  | waiting hdone hphase =>
    refine .waiting hdone ?_
    rcases hn with hn | rfl
    · rw [hn, hphase]
    · rfl
  | connected hdone v s xs hreports hphase =>
    refine .connected hdone v s xs hreports ?_
    rcases hn with hn | rfl
    · exact Or.inl (hn.trans (hphase.resolve_right hp))
    · exact Or.inr rfl
  | finished => exact absurd rfl hp

namespace Tracks

variable {base : List Event} {t : SessionTask} {done : List Attempt}

/-- Writing and moving on to a phase of the same kind keeps the invariant. -/
theorem advance (h : Tracks base t) (hp : t.phase ≠ .ended) {next : SessionPhase}
    (hn : next.isConnected = t.phase.isConnected ∨ next = .ended) (out : List String) :
    Tracks base (t.advance out next) := by
  obtain ⟨emitted, hev, hshape⟩ := h.shape
  exact ⟨h.current, emitted, hev, hshape.move hp hn⟩

/-- Closing the WebSocket ends the task with what it reported. -/
theorem close (h : Tracks base t) (hp : t.phase ≠ .ended) : Tracks base (t.perform .close) := by
  obtain ⟨emitted, hev, hshape⟩ := h.shape
  exact ⟨h.current, emitted, hev, hshape.move hp (Or.inr rfl)⟩

section Waiting

variable (hcur : t.manager.generation = t.generation) (hst : t.manager.state = .pending)
  (hdone : Retried t.config.reconnectDelay done)
  (hev : t.manager.events = base ++ done.flatMap (Attempt.retried t.config.reconnectDelay))
include hcur hst hdone hev

/-- **A failed attempt** is one more refused attempt, retried or final. -/
theorem fail (e : ConnectError) : Tracks base (t.fail e) := by
  cases hr : t.config.reconnects
  · -- retrying is off: this was the only attempt
    have h0 : t.config.reconnectDelay = 0 := by simpa [ConnectConfig.reconnects] using hr
    rw [h0] at hdone hev
    rw [hdone.eq_nil, List.flatMap_nil, List.append_nil] at hev
    rw [SessionTask.fail_of_not_reconnects hcur hst hr]
    refine ⟨hcur, (Attempt.refused e.message).final, by simp [hev, Attempt.final], ?_⟩
    exact Shape.finished (a := .refused e.message) trivial h0
  · have hd : t.config.reconnectDelay ≠ 0 := by simpa [ConnectConfig.reconnects] using hr
    rw [SessionTask.fail_of_reconnects hcur hst hr]
    refine ⟨hcur, (done ++ [Attempt.refused e.message]).flatMap
      (Attempt.retried t.config.reconnectDelay),
      by simp [hev, Attempt.retried], ?_⟩
    show Shape _ .retrying t.manager.state _
    rw [hst]
    exact Shape.waiting (hdone.append_single trivial hd) rfl

/-- **The broker accepted**: a connected stretch begins, with no reports yet. -/
theorem accept (est : Established) : Tracks base (t.perform (.accept est)) := by
  have hm := SessionTask.accept_manager hcur hst est
  refine ⟨by rw [hm]; exact hcur, done.flatMap (Attempt.retried t.config.reconnectDelay) ++
    [.stateChanged .connected, .connected est.version est.server], by simp [hm, hev], ?_⟩
  rw [SessionTask.perform_config, hm, SessionTask.accept_phase]
  exact Shape.connected hdone est.version est.server [] (by simp) (Or.inl rfl)

/-- **An attempt begins**: the state is already pending, so the task reports nothing until the
attempt fails or the broker accepts. -/
theorem attempt : Tracks base t.attempt := by
  have hsame : t.setState .pending = t := by
    simp [SessionTask.setState, Manager.sessionSetState_of_eq hst]
  simp only [SessionTask.attempt, hsame]
  split
  · exact fail hcur hst hdone hev _
  · refine ⟨hcur, _, hev, ?_⟩
    show Shape _ .opening t.manager.state _
    rw [hst]
    exact Shape.waiting hdone rfl

end Waiting

section Connected

variable {v s : Option String} {xs : List Event} (hcur : t.manager.generation = t.generation)
  (hst : t.manager.state = .connected) (hdone : Retried t.config.reconnectDelay done)
  (hxs : ∀ x ∈ xs, x.isReport)
include hcur hst hdone hxs

/-- **A dropped session** closes the attempt: retried, or final. -/
theorem drop {se : Option String}
    (hev : t.manager.events = base ++ done.flatMap (Attempt.retried t.config.reconnectDelay) ++
      .stateChanged .connected :: .connected v s :: (xs ++ (se.map Event.serverError).toList))
    (reason : String) : Tracks base (t.drop reason) := by
  cases hr : t.config.reconnects
  · have h0 : t.config.reconnectDelay = 0 := by simpa [ConnectConfig.reconnects] using hr
    rw [h0] at hdone hev
    rw [hdone.eq_nil, List.flatMap_nil, List.append_nil] at hev
    rw [SessionTask.drop_of_not_reconnects hcur hst hr]
    refine ⟨hcur, (Attempt.dropped v s xs se reason).final,
      by simp [hev, Attempt.final, connectedRun], ?_⟩
    exact Shape.finished (a := .dropped v s xs se reason) hxs h0
  · have hd : t.config.reconnectDelay ≠ 0 := by simpa [ConnectConfig.reconnects] using hr
    rw [SessionTask.drop_of_reconnects hcur hst hr]
    refine ⟨hcur, (done ++ [Attempt.dropped v s xs se reason]).flatMap
      (Attempt.retried t.config.reconnectDelay), by simp [hev, Attempt.retried, connectedRun], ?_⟩
    exact Shape.waiting (hdone.append_single (a := .dropped v s xs se reason) hxs hd) rfl

/-- **What a connected task reports on a read**: more reports, or the end of the stretch. -/
theorem report (hp : t.phase.isConnected = true)
    (hev : t.manager.events = base ++ done.flatMap (Attempt.retried t.config.reconnectDelay) ++
      .stateChanged .connected :: .connected v s :: xs)
    {events : List Event} {ending : Option String} (hr : Reported events ending) :
    Tracks base (t.perform (.report events ending)) := by
  have hall := SessionTask.emitAll_manager hcur events
  have hcur' : (events.foldl SessionTask.emit t).manager.generation =
      (events.foldl SessionTask.emit t).generation := by simp [hall, hcur]
  rcases hr with ⟨rfl, hevents⟩ | ⟨ys, se, reason, rfl, hys, rfl⟩
  · -- the stretch goes on with the new reports
    refine ⟨hcur', done.flatMap (Attempt.retried t.config.reconnectDelay) ++
      .stateChanged .connected :: .connected v s :: (xs ++ events), ?_, ?_⟩
    · simp [SessionTask.perform, hall, hev]
    · simp only [SessionTask.perform, SessionTask.emitAll_config, SessionTask.emitAll_phase, hall]
      rw [hst]
      exact Shape.connected hdone v s (xs ++ events)
        (fun x hx => (List.mem_append.1 hx).elim (hxs x) (hevents x)) (Or.inl hp)
  · -- the session drops, after its reports and perhaps the broker's error
    simp only [SessionTask.perform]
    set t' := (ys ++ (se.map Event.serverError).toList).foldl SessionTask.emit t
    have hev' : t'.manager.events = base ++
        done.flatMap (Attempt.retried t'.config.reconnectDelay) ++
        .stateChanged .connected :: .connected v s :: (xs ++ ys ++ (se.map Event.serverError).toList) := by
      rw [hall, SessionTask.emitAll_config, hev]
      simp
    exact drop hcur' (by rw [hall]; exact hst) (by rw [SessionTask.emitAll_config]; exact hdone)
      (fun x hx => (List.mem_append.1 hx).elim (hxs x) (hys x)) hev' reason

end Connected

/-- **Every step keeps the invariant.** The shape says where the task is; the phase's moves are
taken from `react_fitsHandshake`, `react_fitsConnected`, `react_retrying` and `react_ended`,
and each move is one of the lemmas above. -/
theorem step (h : Tracks base t) (i : SessionInput) : Tracks base (t.step i) := by
  have hcur := h.current
  obtain ⟨emitted, hev, hshape⟩ := h.shape
  unfold SessionTask.step
  generalize hp : t.phase = phase at hshape
  generalize hs : t.manager.state = state at hshape
  cases hshape with
  | waiting hdone hphase =>
    rcases SessionPhase.cases_of_isConnected_eq_false hphase with hh | rfl | rfl
    · -- the handshake
      have hfit := react_fitsHandshake hh t.config t.generation i
      generalize react t.config t.generation phase i = move at hfit ⊢
      cases move with
      | wait => exact h
      | advance out next =>
        exact h.advance (by rw [hp]; rintro rfl; cases hh) (Or.inl (by rw [hfit, hp, hphase])) out
      | fail e => exact fail hcur hs hdone hev e
      | accept est => exact accept hcur hs hdone hev est
      | close | report _ _ | retry => exact hfit.elim
    · -- between attempts
      rcases react_retrying t.config t.generation i with hm | hm | hm <;> rw [hm]
      · exact h
      · exact attempt hcur hs hdone hev
      · exact h.advance (by rw [hp]; exact nofun) (Or.inr rfl) []
    · rw [react_ended]
      exact h
  | connected hdone v s xs hreports hphase =>
    rcases hphase with hc | rfl
    · have hfit := react_fitsConnected hc t.config t.generation i
      generalize react t.config t.generation phase i = move at hfit ⊢
      cases move with
      | wait => exact h
      | advance out next =>
        have hne : t.phase ≠ .ended := by rw [hp]; rintro rfl; cases hc
        exact h.advance hne (Or.inl (by rw [hfit, hp, hc])) out
      | close => exact h.close (by rw [hp]; rintro rfl; cases hc)
      | report events ending =>
        exact report hcur hs hdone hreports (hp ▸ hc) (by rw [hev, List.append_assoc]) hfit
      | fail _ | accept _ | retry => exact hfit.elim
    · rw [react_ended]
      exact h
  | finished =>
    rw [react_ended]
    exact h

/-- **Every run keeps the invariant.** -/
theorem run (h : Tracks base t) (inputs : List SessionInput) : Tracks base (t.run inputs) := by
  induction inputs generalizing t with
  | nil => exact h
  | cons i inputs ih => exact ih (h.step i)

end Tracks

/-- **A task starts tracked**: from a manager that shows pending, the first attempt begins with
nothing reported. -/
theorem tracks_start {m : Manager} (hm : m.state = .pending) :
    Tracks m.events (SessionTask.start m) :=
  Tracks.attempt (t := { config := m.config, generation := m.generation, manager := m }) rfl hm
    (Retried.nil _) (by simp)

/-! ## What a session task reports -/

/-- **What a session task reports.** Take a task started from a manager that shows pending, as
`connect` leaves it (`Manager.state_of_connect`), and any inputs from the network, the clock and
the manager. Then

* what the task reported is a prefix of a word of `SessionWord`: with retrying on, refused
  attempts `HandshakeFailed Reconnecting` and dropped ones `StateChanged(Connected) Connected`,
  reports, perhaps `ServerError`, `Disconnected StateChanged(Pending) Reconnecting`; with retrying
  off, one such attempt ending in `StateChanged(Failed)` or `StateChanged(Closed)`, after which
  nothing comes;
* the watched state is connected exactly while a `StateChanged(Connected)` has no `Disconnected`
  after it;
* and any task reports itself connected only in a step that reads, waiting for the handshake's
  reply, payloads holding a `CONNECTED` frame. -/
theorem session_reports_follow_attempts :
    (∀ m : Manager, m.state = .pending → ∀ inputs : List SessionInput,
      ∃ emitted, ((SessionTask.start m).run inputs).manager.events = m.events ++ emitted ∧
        (∃ w, SessionWord m.config.reconnectDelay w ∧ emitted <+: w) ∧
        (((SessionTask.start m).run inputs).manager.state = .connected ↔
          InConnectedStretch emitted)) ∧
    (∀ (t : SessionTask) (i : SessionInput) (new : List Event),
      (t.step i).manager.events = t.manager.events ++ new → .stateChanged .connected ∈ new →
      t.phase = .handshaking ∧ ∃ r raw ps f, i = .read r ∧ r.rawText = some (.ok raw) ∧
        t.config.transport.receive raw = .ok (.payloads ps) ∧ f ∈ readableFrames ps ∧
        f.command = .connected) := by
  refine ⟨fun m hm inputs => ?_, fun t i new hnew hmem => handshaking_of_reports_connected hnew hmem⟩
  obtain ⟨-, emitted, hev, hshape⟩ := (tracks_start hm).run inputs
  rw [SessionTask.run_config, SessionTask.start_config] at hshape
  exact ⟨emitted, hev, hshape.prefix_word, hshape.state_eq_connected_iff⟩

/-- A task started from a pending manager whose handshake times out after the upgrade, and a
WebSocket task that reads the broker's `CONNECTED` while it waits for the reply to `CONNECT`. -/
theorem reports_connected_on_reply :
    (({ config := {}, state := .pending } : Manager).state = .pending ∧
      ∃ emitted, ((SessionTask.start { config := {}, state := .pending }).run
          [.upgraded none, .handshakeTimedOut]).manager.events =
          ({ config := {}, state := .pending } : Manager).events ++ emitted ∧
        (∃ w, SessionWord ({ config := {}, state := .pending } : Manager).config.reconnectDelay w ∧
          emitted <+: w) ∧
        (((SessionTask.start { config := {}, state := .pending }).run
          [.upgraded none, .handshakeTimedOut]).manager.state = .connected ↔
            InConnectedStretch emitted)) ∧
    ((⟨{ transport := .webSocket }, 0, { config := { transport := .webSocket }, state := .pending },
        .handshaking, []⟩ : SessionTask).step
        (.read (.message (.text (Frame.encode ⟨.connected, [], ""⟩))))).manager.events =
      [] ++ [.stateChanged .connected, .connected none none] ∧
    Event.stateChanged .connected ∈ [Event.stateChanged .connected, .connected none none] ∧
    SessionPhase.handshaking = .handshaking ∧
    ∃ r raw ps f, SessionInput.read (.message (.text (Frame.encode ⟨.connected, [], ""⟩))) = .read r ∧
      r.rawText = some (.ok raw) ∧ TransportKind.webSocket.receive raw = .ok (.payloads ps) ∧
      f ∈ readableFrames ps ∧ f.command = .connected := by
  have hd := decode_encode_of_wireSafe (f := ⟨.connected, [], ""⟩) (by decide)
  have hstep : ((⟨{ transport := .webSocket }, 0,
      { config := { transport := .webSocket }, state := .pending }, .handshaking, []⟩ :
        SessionTask).step (.read (.message (.text (Frame.encode ⟨.connected, [], ""⟩))))).manager.events =
      [] ++ [.stateChanged .connected, .connected none none] := by
    simp [SessionTask.step, react, readReply, WsRead.rawText, TransportKind.receive, handshakeItems,
      hd, handshakeReply, SessionTask.perform, SessionTask.setState, SessionTask.emit,
      SessionTask.advance, Manager.sessionSetState, Manager.sessionEmit, Manager.isCurrent,
      Established.ofFrame, Frame.get]
  exact ⟨⟨rfl, session_reports_follow_attempts.1 _ rfl _⟩, hstep, List.mem_cons_self,
    session_reports_follow_attempts.2 _ _ _ hstep List.mem_cons_self⟩

end StompConsole.Client
