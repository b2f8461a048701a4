import Mathlib
import StompConsole.Proofs.Client.SessionMoves

/-!
# The handshake settles on its first answer

Once the transport is open and `CONNECT` is written, a session task waits for the broker's reply.
Every read is taken apart in three layers: the WebSocket (a failed read, the end of the
connection, or text), the framing (a SockJS error, a heart-beat, a close, or payloads; a repeated
SockJS open frame carries none) and STOMP (each payload is decoded whole, or not at all). The
handshake settles at the first thing that decides it, in the order the reads, their payloads and
the payloads' items came: the broker's `CONNECTED` accepts, its `ERROR` refuses, and a failed read,
a framing error, a close or a payload that is not STOMP fails the attempt. Heart-beats and frames
of other commands are read past.

This file states each layer's answer in those terms (`FrameAnswer`, `PayloadAnswer`, `ReadAnswer`,
and `Answers` for a sequence of reads) and proves that the task's own answer (`readAnswer`, read
off `readReply`) is exactly that, layer by layer; then that the task, fed any reads, performs the
first answer and nothing else (`SessionTask.run_handshaking`). `handshake_settles_at_first_answer`
puts the two together.
-/

namespace StompConsole.Client

open Stomp

/-! ## The answers, in the protocol's terms -/

/-- A frame that settles the handshake: the broker's `CONNECTED` or `ERROR`. -/
def Settles (f : Frame) : Prop := f.command = .connected ∨ f.command = .error

/-- **What a settling frame answers.** `CONNECTED` gives the session's terms: heart-beats
negotiated against the broker's first `heart-beat` header, or against none when that header is
absent or unreadable, and the first `version` and `server` headers. `ERROR` refuses with its
first `message` header, or else its body trimmed. -/
inductive FrameAnswer (ours : Heartbeat) : Frame → Except ConnectError Established → Prop
  | connected {f : Frame} : f.command = .connected →
      FrameAnswer ours f (.ok ⟨ours.negotiate (((f.get "heart-beat").bind Heartbeat.parse).getD
        .disabled), f.get "version", f.get "server"⟩)
  | rejected {f : Frame} : f.command = .error →
      FrameAnswer ours f (.error (.rejected ((f.get "message").getD (Text.trimString f.body))))

/-- **A payload the handshake reads past**: it is STOMP, and none of its frames settles. -/
def PayloadPasses (p : String) : Prop :=
  ∃ items, Stomp.decode p = .ok items ∧ ∀ f, .frame f ∈ items → ¬ Settles f

/-- **What a payload answers.** A payload that is not STOMP fails the attempt, whatever frames it
begins with; otherwise its first settling frame answers. -/
inductive PayloadAnswer (ours : Heartbeat) : String → Except ConnectError Established → Prop
  | undecodable {p : String} {e : StompError} : Stomp.decode p = .error e →
      PayloadAnswer ours p (.error (.stomp e))
  | settled {p : String} {pre post : List Incoming} {f : Frame} {v : Except ConnectError Established} :
      Stomp.decode p = .ok (pre ++ .frame f :: post) → (∀ g, .frame g ∈ pre → ¬ Settles g) →
      FrameAnswer ours f v → PayloadAnswer ours p v

/-- **A read the handshake reads past**: nothing that reaches the task (a control message, or
binary data that is not UTF-8), a SockJS heart-beat, or payloads it reads past. -/
def ReadPasses (config : ConnectConfig) (r : WsRead) : Prop :=
  r.rawText = none ∨ ∃ raw, r.rawText = some (.ok raw) ∧
    (config.transport.receive raw = .ok .heartbeat ∨
      ∃ ps, config.transport.receive raw = .ok (.payloads ps) ∧ ∀ p ∈ ps, PayloadPasses p)

/-- **What a read answers**: a failed read or a framing error fails with that error, a close fails
as a close during the handshake, and payloads answer with the first of them that answers, every
payload before it read past. -/
inductive ReadAnswer (config : ConnectConfig) : WsRead → Except ConnectError Established → Prop
  | failed {r : WsRead} {e : ConnectError} : r.rawText = some (.error e) →
      ReadAnswer config r (.error e)
  | unframed {r : WsRead} {raw : RawText} {e : ConnectError} : r.rawText = some (.ok raw) →
      config.transport.receive raw = .error e → ReadAnswer config r (.error e)
  | closed {r : WsRead} {raw : RawText} {code : Nat} {reason : String} :
      r.rawText = some (.ok raw) → config.transport.receive raw = .ok (.closed code reason) →
      ReadAnswer config r (.error (.closedDuringHandshake code reason))
  | payload {r : WsRead} {raw : RawText} {pre post : List String} {p : String}
      {v : Except ConnectError Established} : r.rawText = some (.ok raw) →
      config.transport.receive raw = .ok (.payloads (pre ++ p :: post)) →
      (∀ q ∈ pre, PayloadPasses q) → PayloadAnswer config.heartbeat p v → ReadAnswer config r v

/-- **The handshake's answer to a sequence of reads**: that of the first read that answers, every
read before it read past. -/
def Answers (config : ConnectConfig) (reads : List WsRead) (v : Except ConnectError Established) :
    Prop :=
  ∃ pre r post, reads = pre ++ r :: post ∧ (∀ q ∈ pre, ReadPasses config q) ∧ ReadAnswer config r v

/-! ## The task's answers -/

/-- What the task takes from one decoded item: `CONNECTED` accepts, `ERROR` refuses, and anything
else decides nothing. -/
def itemAnswer (ours : Heartbeat) : Incoming → Option (Except ConnectError Established)
  | .heartbeat => none
  | .frame f =>
    match f.command with
    | .connected => some (.ok (.ofFrame ours f))
    | .error => some (.error (.rejected (errorMessage f)))
    | _ => none

/-- What the task takes from one payload. -/
def payloadAnswer (ours : Heartbeat) (p : String) : Option (Except ConnectError Established) :=
  handshakeReply ours (handshakeItems [p])

/-- **What the task takes from one read** waiting for the reply to `CONNECT`: the acceptance or the
failure its move makes, `none` while the wait goes on. -/
def readAnswer (config : ConnectConfig) (r : WsRead) : Option (Except ConnectError Established) :=
  match readReply config r with
  | .accept e => some (.ok e)
  | .fail e => some (.error e)
  | _ => none

/-! ## Lists: the first answer -/

theorem findSome?_filterMap {α β γ : Type} (f : β → Option γ) (g : α → Option β) (l : List α) :
    (l.filterMap g).findSome? f = l.findSome? fun a => (g a).bind f := by
  induction l with
  | nil => rfl
  | cons a l ih =>
    rw [List.filterMap_cons, List.findSome?_cons]
    cases g a with
    | none => exact ih
    | some b =>
      rw [List.findSome?_cons, ih]
      rfl

/-- **The first answer of a list, in words**: where `f` answers as `P` says and stays silent as
`Q` says, `f` first answers `b` exactly when some element answers `b` and every element before it
is silent. -/
theorem findSome?_eq_some_iff_of {α β : Type} {f : α → Option β} {P : α → β → Prop}
    {Q : α → Prop} (hP : ∀ a b, f a = some b ↔ P a b) (hQ : ∀ a, f a = none ↔ Q a)
    (l : List α) (b : β) :
    l.findSome? f = some b ↔ ∃ l₁ a l₂, l = l₁ ++ a :: l₂ ∧ (∀ x ∈ l₁, Q x) ∧ P a b := by
  rw [List.findSome?_eq_some_iff]
  simp only [hP, hQ]
  constructor
  · rintro ⟨l₁, a, l₂, hl, hb, hq⟩
    exact ⟨l₁, a, l₂, hl, hq, hb⟩
  · rintro ⟨l₁, a, l₂, hl, hq, hb⟩
    exact ⟨l₁, a, l₂, hl, hb, hq⟩

/-! ## Layer by layer -/

theorem frameAnswer_iff {ours : Heartbeat} {f : Frame} {v : Except ConnectError Established} :
    FrameAnswer ours f v ↔ (f.command = .connected ∧ v = .ok (.ofFrame ours f)) ∨
      (f.command = .error ∧ v = .error (.rejected (errorMessage f))) := by
  constructor
  · rintro (hc | hc)
    · exact Or.inl ⟨hc, rfl⟩
    · exact Or.inr ⟨hc, rfl⟩
  · rintro (⟨hc, rfl⟩ | ⟨hc, rfl⟩)
    · exact .connected hc
    · exact .rejected hc

theorem itemAnswer_eq_some_iff {ours : Heartbeat} {i : Incoming}
    {v : Except ConnectError Established} :
    itemAnswer ours i = some v ↔ ∃ f, i = .frame f ∧ FrameAnswer ours f v := by
  cases i with
  | heartbeat => simp [itemAnswer]
  | frame f =>
    simp only [Incoming.frame.injEq, exists_eq_left', frameAnswer_iff]
    cases hc : f.command <;> simp [itemAnswer, hc, eq_comm]

theorem itemAnswer_eq_none_iff {ours : Heartbeat} {i : Incoming} :
    itemAnswer ours i = none ↔ ∀ f, i = .frame f → ¬ Settles f := by
  cases i with
  | heartbeat => simp [itemAnswer]
  | frame f => cases hc : f.command <;> simp [itemAnswer, Settles, hc]

/-- A payload that is not STOMP fails the attempt. -/
theorem payloadAnswer_of_error {ours : Heartbeat} {p : String} {e : StompError}
    (hd : Stomp.decode p = .error e) : payloadAnswer ours p = some (.error (.stomp e)) := by
  simp [payloadAnswer, handshakeItems, handshakeReply, hd]

/-- A STOMP payload answers with its first item that answers. -/
theorem payloadAnswer_of_ok {ours : Heartbeat} {p : String} {items : List Incoming}
    (hd : Stomp.decode p = .ok items) : payloadAnswer ours p = items.findSome? (itemAnswer ours) := by
  simp only [payloadAnswer, handshakeItems, handshakeReply, List.flatMap_singleton, hd,
    findSome?_filterMap]
  congr 1
  funext i
  cases i with
  | heartbeat => rfl
  | frame f => cases f.command <;> rfl

theorem payloadAnswer_eq_some_iff {ours : Heartbeat} {p : String}
    {v : Except ConnectError Established} :
    payloadAnswer ours p = some v ↔ PayloadAnswer ours p v := by
  cases hd : Stomp.decode p with
  | error e =>
    rw [payloadAnswer_of_error hd, Option.some.injEq]
    constructor
    · rintro rfl
      exact .undecodable hd
    · rintro (he | ⟨hd', -, -⟩) <;> simp_all
  | ok items =>
    rw [payloadAnswer_of_ok hd,
      findSome?_eq_some_iff_of (fun _ _ => itemAnswer_eq_some_iff) (fun _ => itemAnswer_eq_none_iff)]
    constructor
    · rintro ⟨pre, _, post, rfl, hpre, f, rfl, hf⟩
      exact .settled hd (fun g hg => hpre _ hg g rfl) hf
    · rintro (he | ⟨hd', hpre, hf⟩)
      · simp_all
      · rw [hd, Except.ok.injEq] at hd'
        exact ⟨_, _, _, hd', fun x hx g hg => hpre g (hg ▸ hx), _, rfl, hf⟩

theorem payloadAnswer_eq_none_iff {ours : Heartbeat} {p : String} :
    payloadAnswer ours p = none ↔ PayloadPasses p := by
  cases hd : Stomp.decode p with
  | error e => simp [payloadAnswer_of_error hd, PayloadPasses, hd]
  | ok items =>
    rw [payloadAnswer_of_ok hd, List.findSome?_eq_none_iff]
    simp only [itemAnswer_eq_none_iff, PayloadPasses, hd, Except.ok.injEq, exists_eq_left']
    constructor
    · intro h f hf
      exact h _ hf f rfl
    · rintro h _ hi f rfl
      exact h f hi

theorem handshakeItems_cons (p : String) (ps : List String) :
    handshakeItems (p :: ps) = handshakeItems [p] ++ handshakeItems ps := by
  simp [handshakeItems, List.flatMap_cons]

theorem handshakeReply_append (ours : Heartbeat) (items items' : List (Except StompError Frame)) :
    handshakeReply ours (items ++ items') =
      (handshakeReply ours items).or (handshakeReply ours items') :=
  List.findSome?_append

/-- **The payloads of one read answer payload by payload**: with the first that answers. -/
theorem handshakeReply_handshakeItems (ours : Heartbeat) (ps : List String) :
    handshakeReply ours (handshakeItems ps) = ps.findSome? (payloadAnswer ours) := by
  induction ps with
  | nil => rfl
  | cons p ps ih =>
    rw [handshakeItems_cons, handshakeReply_append, ih, List.findSome?_cons]
    unfold payloadAnswer
    cases handshakeReply ours (handshakeItems [p]) <;> rfl

/-- **The task's answer to a read, in one equation**: layer by layer, the first thing that
decides. -/
theorem readAnswer_eq (config : ConnectConfig) (r : WsRead) :
    readAnswer config r =
      match r.rawText with
      | none => none
      | some (.error e) => some (.error e)
      | some (.ok raw) =>
        match config.transport.receive raw with
        | .error e => some (.error e)
        | .ok .heartbeat => none
        | .ok (.closed code reason) => some (.error (.closedDuringHandshake code reason))
        | .ok (.payloads ps) => ps.findSome? (payloadAnswer config.heartbeat) := by
  unfold readAnswer readReply
  rcases r.rawText with _ | (e | raw)
  · rfl
  · rfl
  · dsimp only
    rcases config.transport.receive raw with e | (ps | _ | ⟨code, reason⟩)
    · rfl
    · dsimp only
      rw [handshakeReply_handshakeItems]
      rcases ps.findSome? (payloadAnswer config.heartbeat) with _ | (e | est) <;> rfl
    · rfl
    · rfl

theorem readAnswer_eq_some_iff {config : ConnectConfig} {r : WsRead}
    {v : Except ConnectError Established} :
    readAnswer config r = some v ↔ ReadAnswer config r v := by
  -- the payloads of a read answer with their first payload that answers
  have hpay : ∀ ps : List String, ps.findSome? (payloadAnswer config.heartbeat) = some v ↔
      ∃ pre p post, ps = pre ++ p :: post ∧ (∀ q ∈ pre, PayloadPasses q) ∧
        PayloadAnswer config.heartbeat p v :=
    fun ps => findSome?_eq_some_iff_of (fun _ _ => payloadAnswer_eq_some_iff)
      (fun _ => payloadAnswer_eq_none_iff) ps v
  rw [readAnswer_eq]
  constructor
  · intro h
    rcases hraw : r.rawText with _ | (e | raw) <;> simp only [hraw] at h
    · cases h
    · cases h
      exact .failed hraw
    · rcases hrec : config.transport.receive raw with e | (ps | _ | ⟨code, reason⟩) <;>
        simp only [hrec] at h
      · cases h
        exact .unframed hraw hrec
      · obtain ⟨pre, p, post, rfl, hpre, hp⟩ := (hpay ps).1 h
        exact .payload hraw hrec hpre hp
      · cases h
      · cases h
        exact .closed hraw hrec
  · rintro (hraw | ⟨hraw, hrec⟩ | ⟨hraw, hrec⟩ | ⟨hraw, hrec, hpre, hp⟩)
    · simp [hraw]
    · simp [hraw, hrec]
    · simp [hraw, hrec]
    · simp only [hraw, hrec]
      exact (hpay _).2 ⟨_, _, _, rfl, hpre, hp⟩

theorem readAnswer_eq_none_iff {config : ConnectConfig} {r : WsRead} :
    readAnswer config r = none ↔ ReadPasses config r := by
  rw [readAnswer_eq, ReadPasses]
  rcases r.rawText with _ | (e | raw)
  · simp
  · simp
  · rcases hrec : config.transport.receive raw with e | (ps | _ | ⟨code, reason⟩)
    · simp [hrec]
    · simp [hrec, List.findSome?_eq_none_iff, payloadAnswer_eq_none_iff]
    · simp [hrec]
    · simp [hrec]

/-- **The first answer of a sequence of reads** is the handshake's answer. -/
theorem findSome?_readAnswer_eq_some_iff (config : ConnectConfig) (reads : List WsRead)
    (v : Except ConnectError Established) :
    reads.findSome? (readAnswer config) = some v ↔ Answers config reads v :=
  findSome?_eq_some_iff_of (fun _ _ => readAnswer_eq_some_iff) (fun _ => readAnswer_eq_none_iff)
    reads v

theorem findSome?_readAnswer_eq_none_iff (config : ConnectConfig) (reads : List WsRead) :
    reads.findSome? (readAnswer config) = none ↔ ∀ r ∈ reads, ReadPasses config r := by
  rw [List.findSome?_eq_none_iff]
  simp only [readAnswer_eq_none_iff]

/-! ## The task over a sequence of reads -/

/-- The move on a read waiting for the reply to `CONNECT`, from the read's answer. -/
theorem readReply_eq (config : ConnectConfig) (r : WsRead) :
    readReply config r =
      match readAnswer config r with
      | none => .wait
      | some (.ok e) => .accept e
      | some (.error e) => .fail e := by
  unfold readAnswer readReply
  repeat' split
  all_goals simp_all

/-- Reads do not concern a task between attempts, after it returned, or while it subscribes. -/
theorem react_read_of_settled {config : ConnectConfig} {g : UInt64} {phase : SessionPhase}
    (h : phase = .retrying ∨ phase = .ended ∨ ∃ hb d rest, phase = .subscribing hb d rest)
    (r : WsRead) : react config g phase (.read r) = .wait := by
  rcases h with rfl | rfl | ⟨hb, d, rest, rfl⟩ <;> rfl

namespace SessionTask

variable {t : SessionTask}

theorem run_cons (i : SessionInput) (inputs : List SessionInput) :
    t.run (i :: inputs) = (t.step i).run inputs := rfl

/-- A failed attempt waits for its retry, or has returned. -/
theorem fail_phase (e : ConnectError) : (t.fail e).phase = .retrying ∨ (t.fail e).phase = .ended := by
  unfold fail retry
  dsimp only
  split
  · split <;> simp
  · simp

/-- A task that no read concerns stays as it is over any reads. -/
theorem run_reads_of_wait (h : ∀ r, react t.config t.generation t.phase (.read r) = .wait)
    (reads : List WsRead) : t.run (reads.map .read) = t := by
  induction reads with
  | nil => rfl
  | cons r reads ih =>
    rw [List.map_cons, run_cons, step, h r]
    exact ih

/-- **The task over any reads while it waits for the reply to `CONNECT`**: it performs the answer
of the first read that answers, and nothing else; before that, it waits. -/
theorem run_handshaking (ht : t.phase = .handshaking) (reads : List WsRead) :
    t.run (reads.map .read) =
      match reads.findSome? (readAnswer t.config) with
      | none => t
      | some (.ok e) => t.perform (.accept e)
      | some (.error e) => t.perform (.fail e) := by
  induction reads with
  | nil => rfl
  | cons r reads ih =>
    have hstep : t.step (.read r) = t.perform (readReply t.config r) := by
      rw [step, ht]
      rfl
    rw [List.map_cons, run_cons, hstep, List.findSome?_cons, readReply_eq]
    rcases readAnswer t.config r with _ | (e | e)
    · exact ih
    · -- a failed attempt: later reads reach a task between attempts or one that returned
      refine run_reads_of_wait (fun r' => react_read_of_settled ?_ r') _
      rcases fail_phase (t := t) e with h | h
      · exact Or.inl h
      · exact Or.inr (Or.inl h)
    · -- an accepted session: later reads reach a task that subscribes
      exact run_reads_of_wait (fun r' => react_read_of_settled
        (Or.inr (Or.inr ⟨_, _, _, accept_phase e⟩)) r') _

end SessionTask

/-! ## The handshake -/

/-- **The handshake settles on its first answer.** Take any task waiting for the broker's reply
to `CONNECT`, and any reads. The task performs the answer of the first read that answers and
nothing else: it accepts the session's terms, or fails the attempt, or, when no read answers,
still waits. That first answer is `Answers`: the first read that is not read past, and in it the
first payload, and in that the first frame, that decides. So the task accepts exactly when a
`CONNECTED` frame comes before any `ERROR` frame, any payload that is not STOMP, any failed read,
framing error or close; and then with the heart-beats negotiated against the broker's first
`heart-beat` header (or none) and its first `version` and `server` headers. Over SockJS, a
heart-beat frame and a repeated open frame are read past. -/
theorem handshake_settles_at_first_answer :
    (∀ t : SessionTask, t.phase = .handshaking → ∀ reads : List WsRead,
      t.run (reads.map .read) =
        match reads.findSome? (readAnswer t.config) with
        | none => t
        | some (.ok e) => t.perform (.accept e)
        | some (.error e) => t.perform (.fail e)) ∧
    (∀ (config : ConnectConfig) (reads : List WsRead) (v : Except ConnectError Established),
      reads.findSome? (readAnswer config) = some v ↔ Answers config reads v) ∧
    (∀ (config : ConnectConfig) (reads : List WsRead),
      reads.findSome? (readAnswer config) = none ↔ ∀ r ∈ reads, ReadPasses config r) ∧
    (∀ (config : ConnectConfig) (rest : List Char), config.transport = .sockJs →
      ReadPasses config (.message (.text (String.ofList ('h' :: rest)))) ∧
      ReadPasses config (.message (.text (String.ofList ('o' :: rest))))) := by
  refine ⟨fun t ht reads => SessionTask.run_handshaking ht reads,
    findSome?_readAnswer_eq_some_iff, findSome?_readAnswer_eq_none_iff,
    fun config rest hs => ⟨?_, ?_⟩⟩
  · exact Or.inr ⟨_, rfl, Or.inl (by simp [hs, TransportKind.receive, SockJs.decode])⟩
  · exact Or.inr ⟨_, rfl, Or.inr ⟨[], by simp [hs, TransportKind.receive, SockJs.decode], by simp⟩⟩

/-- A task waiting for the reply to `CONNECT` over SockJS reads a heart-beat frame and a repeated
open frame, and still waits. -/
theorem handshake_waits_past_heartbeat_and_open :
    let t : SessionTask :=
      { config := {}, generation := 1, manager := { config := {} }, phase := .handshaking }
    let reads := [WsRead.message (.text (String.ofList ['h'])),
      .message (.text (String.ofList ['o']))]
    t.phase = .handshaking ∧ ({} : ConnectConfig).transport = .sockJs ∧
      (∀ r ∈ reads, ReadPasses {} r) ∧ t.run (reads.map .read) = t := by
  intro t reads
  have hpass : ∀ r ∈ reads, ReadPasses {} r := by
    have h := handshake_settles_at_first_answer.2.2.2 {} [] rfl
    simp [reads, h.1, h.2]
  have hnone := (handshake_settles_at_first_answer.2.2.1 {} reads).2 hpass
  refine ⟨rfl, rfl, hpass, ?_⟩
  rw [handshake_settles_at_first_answer.1 t rfl reads, hnone]

end StompConsole.Client
