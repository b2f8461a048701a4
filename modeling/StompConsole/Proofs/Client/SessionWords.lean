import Mathlib
import StompConsole.Client.Manager

/-!
# The words of a session

A session task reports its attempts one after another, and the order of what it reports is fixed.
An attempt the broker refused is a `HandshakeFailed`; an attempt the broker accepted is
`StateChanged(Connected)`, `Connected`, any number of alerts, notifications and refused payloads,
perhaps the broker's `ERROR`, and `Disconnected`. With retrying on, each attempt is followed by the
retry (`StateChanged(Pending)` first, after a connected one) and `Reconnecting`; with retrying off
there is one attempt, followed by the state the session ends in, failed or closed. `SessionWord`
is this language.

A connected stretch runs from a `StateChanged(Connected)` to the next `Disconnected`
(`InConnectedStretch`). The lemmas here say where such a stretch is open: after retried attempts
it is closed (`not_inConnectedStretch_flatMap_retried`), after the final state too
(`not_inConnectedStretch_final`), and while reports follow a `Connected` it is open
(`inConnectedStretch_connected`).
-/

namespace StompConsole.Client

/-! ## The language -/

/-- Whether an event reports what the broker published to a connected session: an alert, a
notification or a refused payload. -/
def Event.isReport : Event → Bool
  | .alert _ | .notification _ | .payloadRejected _ _ => true
  | _ => false

/-- The events of a session the broker accepted, up to its `Disconnected`: connected, the broker's
version and server, the reports, perhaps the broker's error, and the reason it dropped. -/
def connectedRun (version server : Option String) (reports : List Event)
    (serverError : Option String) (reason : String) : List Event :=
  .stateChanged .connected :: .connected version server ::
    (reports ++ (serverError.map Event.serverError).toList ++ [.disconnected reason])

/-- How one attempt went, as its events tell it. -/
inductive Attempt where
  /-- The handshake failed. -/
  | refused (reason : String)
  /-- The broker accepted the session, which later dropped. -/
  | dropped (version server : Option String) (reports : List Event) (serverError : Option String)
      (reason : String)

namespace Attempt

/-- The reports of an attempt are reports. -/
def WellFormed : Attempt → Prop
  | .refused _ => True
  | .dropped _ _ reports _ _ => ∀ x ∈ reports, x.isReport

/-- **The events of an attempt that is retried**: its own, then the retry. A dropped session is
reported pending first. -/
def retried (delay : Nat) : Attempt → List Event
  | .refused r => [.handshakeFailed r, .reconnecting delay]
  | .dropped v s xs se r => connectedRun v s xs se r ++ [.stateChanged .pending, .reconnecting delay]

/-- The state a session that does not retry ends in after the attempt. -/
def finalState : Attempt → ConnectionState
  | .refused _ => .failed
  | .dropped .. => .closed

/-- **The events of the attempt of a session that does not retry**: its own, then the state the
session ends in. -/
def final : Attempt → List Event
  | .refused r => [.handshakeFailed r, .stateChanged .failed]
  | .dropped v s xs se r => connectedRun v s xs se r ++ [.stateChanged .closed]

end Attempt

/-- **The words of a session.** With retrying off (a zero delay), one attempt closed by the final
state; with retrying on, attempts one after another, each closed by its retry. -/
def SessionWord (delay : Nat) (w : List Event) : Prop :=
  if delay = 0 then ∃ a : Attempt, a.WellFormed ∧ w = a.final
  else ∃ attempts : List Attempt, (∀ a ∈ attempts, a.WellFormed) ∧
    w = attempts.flatMap (Attempt.retried delay)

/-- **Inside a connected stretch**: some `StateChanged(Connected)` of the events has no
`Disconnected` after it. -/
def InConnectedStretch (es : List Event) : Prop :=
  ∃ pre post, es = pre ++ .stateChanged .connected :: post ∧ ∀ r, .disconnected r ∉ post

/-! ## Connected stretches -/

/-- Whether an event opens or closes a connected stretch. -/
def Event.bordersStretch : Event → Bool
  | .stateChanged .connected | .disconnected _ => true
  | _ => false

theorem Event.bordersStretch_of_isReport {e : Event} (h : e.isReport) : e.bordersStretch = false := by
  cases e <;> simp_all [isReport, bordersStretch]

theorem not_inConnectedStretch_nil : ¬ InConnectedStretch [] := by
  rintro ⟨pre, post, h, -⟩
  simp at h

theorem inConnectedStretch_append_connected (es : List Event) :
    InConnectedStretch (es ++ [.stateChanged .connected]) :=
  ⟨es, [], rfl, fun _ => List.not_mem_nil⟩

/-- A `Disconnected` closes every stretch. -/
theorem not_inConnectedStretch_append_disconnected (es : List Event) (r : String) :
    ¬ InConnectedStretch (es ++ [.disconnected r]) := by
  rintro ⟨pre, post, h, hpost⟩
  -- the last event is the `Disconnected`; it is either the stretch's opening or after it
  have hlast := congrArg List.getLast? h
  simp only [List.getLast?_append, List.getLast?_cons, List.getLast?_nil, Option.getD_none]
    at hlast
  cases hp : post.getLast? with
  | none => simp [hp] at hlast
  | some x =>
    simp only [hp, Option.getD_some, Option.some_or, Option.some.injEq] at hlast
    exact hpost r (hlast ▸ List.mem_of_getLast? hp)

/-- An event that neither opens nor closes a stretch leaves the question where it was. -/
theorem inConnectedStretch_append_single {e : Event} (he : e.bordersStretch = false)
    (es : List Event) : InConnectedStretch (es ++ [e]) ↔ InConnectedStretch es := by
  constructor
  · rintro ⟨pre, post, h, hpost⟩
    rcases List.eq_nil_or_concat post with rfl | ⟨post', x, rfl⟩
    · have he' := (List.append_inj' h rfl).2
      simp only [List.cons.injEq, and_true] at he'
      simp [he', Event.bordersStretch] at he
    · have h' : es ++ [e] = (pre ++ .stateChanged .connected :: post') ++ [x] := by simpa using h
      obtain ⟨hes, -⟩ := List.append_inj' h' rfl
      exact ⟨pre, post', hes, fun r hr => hpost r (by simp [hr])⟩
  · rintro ⟨pre, post, rfl, hpost⟩
    refine ⟨pre, post ++ [e], by simp, fun r hr => ?_⟩
    rcases List.mem_append.1 hr with hr | hr
    · exact hpost r hr
    · simp only [List.mem_singleton] at hr
      simp [← hr, Event.bordersStretch] at he

theorem inConnectedStretch_append_of_forall {l : List Event} (hl : ∀ e ∈ l, e.bordersStretch = false)
    (es : List Event) : InConnectedStretch (es ++ l) ↔ InConnectedStretch es := by
  induction l generalizing es with
  | nil => simp
  | cons x l ih =>
    have hx := hl x List.mem_cons_self
    rw [← List.singleton_append, ← List.append_assoc,
      ih (fun e he => hl e (List.mem_cons_of_mem _ he)), inConnectedStretch_append_single hx]

/-- A connected run leaves its stretch closed, whatever came before. -/
theorem not_inConnectedStretch_append_connectedRun (es : List Event) (v s : Option String)
    (xs : List Event) (se : Option String) (r : String) :
    ¬ InConnectedStretch (es ++ connectedRun v s xs se r) := by
  have h : es ++ connectedRun v s xs se r =
      (es ++ .stateChanged .connected :: .connected v s :: (xs ++ (se.map Event.serverError).toList))
        ++ [.disconnected r] := by
    simp [connectedRun]
  rw [h]
  exact not_inConnectedStretch_append_disconnected _ r

theorem not_inConnectedStretch_append_retried {es : List Event} (h : ¬ InConnectedStretch es)
    (delay : Nat) : ∀ a : Attempt, ¬ InConnectedStretch (es ++ a.retried delay)
  | .refused r => by
    rw [inConnectedStretch_append_of_forall (by simp [Attempt.retried, Event.bordersStretch])]
    exact h
  | .dropped v s xs se r => by
    rw [Attempt.retried, ← List.append_assoc,
      inConnectedStretch_append_of_forall (by simp [Event.bordersStretch])]
    exact not_inConnectedStretch_append_connectedRun es v s xs se r

/-- After retried attempts, no stretch is open. -/
theorem not_inConnectedStretch_flatMap_retried (delay : Nat) (done : List Attempt) :
    ¬ InConnectedStretch (done.flatMap (Attempt.retried delay)) := by
  -- the induction carries any closed prefix
  suffices h : ∀ es, ¬ InConnectedStretch es →
      ¬ InConnectedStretch (es ++ done.flatMap (Attempt.retried delay)) by
    simpa using h [] not_inConnectedStretch_nil
  induction done with
  | nil => simp
  | cons a done ih =>
    intro es hes
    rw [List.flatMap_cons, ← List.append_assoc]
    exact ih _ (not_inConnectedStretch_append_retried hes delay a)

/-- A session reported connected, with reports since, is inside its stretch. -/
theorem inConnectedStretch_connected (es : List Event) (v s : Option String) {xs : List Event}
    (hxs : ∀ x ∈ xs, x.isReport) :
    InConnectedStretch (es ++ .stateChanged .connected :: .connected v s :: xs) := by
  have h : es ++ .stateChanged .connected :: .connected v s :: xs =
      (es ++ [.stateChanged .connected]) ++ .connected v s :: xs := by simp
  rw [h, inConnectedStretch_append_of_forall]
  · exact inConnectedStretch_append_connected es
  · intro e he
    rcases List.mem_cons.1 he with rfl | he
    · rfl
    · exact Event.bordersStretch_of_isReport (hxs e he)

theorem not_inConnectedStretch_final : ∀ a : Attempt, ¬ InConnectedStretch a.final
  | .refused r => by
    rw [Attempt.final, ← List.nil_append [_, _],
      inConnectedStretch_append_of_forall (by simp [Event.bordersStretch])]
    exact not_inConnectedStretch_nil
  | .dropped v s xs se r => by
    rw [Attempt.final, ← List.nil_append (connectedRun v s xs se r), List.append_assoc,
      ← List.append_assoc, inConnectedStretch_append_of_forall (by simp [Event.bordersStretch])]
    exact not_inConnectedStretch_append_connectedRun [] v s xs se r

end StompConsole.Client
