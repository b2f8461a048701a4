import Mathlib
import StompConsole.Client.SessionTask

/-!
# What a connected session makes of a read

A connected session reads payloads, takes each one apart into frames and routes the frames one by
one. This file says, as relations a reader can check case by case, what each layer does, and
proves that the functions of the session are exactly these relations:

* `RoutedTo`: a message belongs to a topic by its subscription, or by its destination when it
  names no subscription;
* `FrameRouted`: the event one frame reports and whether it ends the session; a message goes to
  the error topic first, then the notification topic, else nowhere, and never ends the session;
  an `ERROR` frame is reported and ends it; every other frame is passed over
  (`frameRouted_iff`);
* `Routed`: the frames of a read routed in order, until one ends the session
  (`routed_iff`);
* `Delivered`: the frames of a read's payloads, in order, a payload that is not STOMP skipped as
  a whole (`delivered_iff`).

The step of a connected session on a read of payloads is then the report of what `Routed` gives
for what `Delivered` gives, followed by the end of the session if a frame ended it
(`step_read_established_routes`).
-/

namespace StompConsole.Client

open Stomp Payload

/-! ## Topics -/

/-- **A message for a topic**: its first `subscription` header names the topic's subscription, or
it names none and its first `destination` header (the empty string if it has none) is the topic.
-/
def RoutedTo (f : Frame) (subscription topic : String) : Prop :=
  f.get "subscription" = some subscription ∨
    (f.get "subscription" = none ∧ (f.get "destination").getD "" = topic)

instance (f : Frame) (subscription topic : String) : Decidable (RoutedTo f subscription topic) :=
  inferInstanceAs (Decidable (_ ∨ _))

/-- The subscription decides before the destination: a message for the notification subscription
is not for the error topic, even sent there. -/
example : ¬RoutedTo ⟨.message, [("subscription", "sub-1"), ("destination", "/topic/error")], ""⟩
      errorSubscription "/topic/error" ∧
    RoutedTo ⟨.message, [("destination", "/topic/error")], ""⟩ errorSubscription "/topic/error" := by
  decide

/-- `PayloadRejected` on a notification names only a body that is not JSON: the notification
decoder takes any JSON value. -/
theorem decodeNotification_error {body : String} {e : PayloadError}
    (h : decodeNotification body = .error e) : ∃ m, e = .invalidJson m := by
  unfold decodeNotification at h
  split at h
  · exact ⟨_, (Except.error.inj h).symm⟩
  · cases h

/-! ## One frame -/

/-- **Routing one frame**: the event it reports, if any, and the reason the session ends, if it
does. -/
inductive FrameRouted (config : ConnectConfig) (f : Frame) : Option Event → Option String → Prop
  /-- A message for the error topic whose body is a notice reports the notice. -/
  | alert {d : ProblemDetails} (hm : f.command = .message)
      (he : RoutedTo f errorSubscription config.errorTopic)
      (hd : decodeErrorNotice f.body = .ok d) :
      FrameRouted config f (some (.alert d)) none
  /-- A message for the error topic whose body is not a notice reports the decoder's error. -/
  | errorRejected {e : PayloadError} (hm : f.command = .message)
      (he : RoutedTo f errorSubscription config.errorTopic)
      (hd : decodeErrorNotice f.body = .error e) :
      FrameRouted config f (some (.payloadRejected ((f.get "destination").getD "") e)) none
  /-- A message for the notification topic only whose body is JSON reports the value. -/
  | notification {v : Json.Value} (hm : f.command = .message)
      (he : ¬RoutedTo f errorSubscription config.errorTopic)
      (hn : RoutedTo f notificationSubscription config.notificationTopic)
      (hd : decodeNotification f.body = .ok v) :
      FrameRouted config f (some (.notification v)) none
  /-- A message for the notification topic only whose body is not JSON reports the reader's
  message. -/
  | notificationRejected {m : String} (hm : f.command = .message)
      (he : ¬RoutedTo f errorSubscription config.errorTopic)
      (hn : RoutedTo f notificationSubscription config.notificationTopic)
      (hd : decodeNotification f.body = .error (.invalidJson m)) :
      FrameRouted config f (some (.payloadRejected ((f.get "destination").getD "") (.invalidJson m)))
        none
  /-- A message for neither topic is passed over. -/
  | ignored (hm : f.command = .message)
      (he : ¬RoutedTo f errorSubscription config.errorTopic)
      (hn : ¬RoutedTo f notificationSubscription config.notificationTopic) :
      FrameRouted config f none none
  /-- The broker's `ERROR` is reported and drops the session. -/
  | brokerError (hc : f.command = .error) :
      FrameRouted config f (some (.serverError (errorMessage f)))
        (some ("broker error: " ++ errorMessage f))
  /-- Every other frame, `RECEIPT` included, is passed over. -/
  | other (hm : f.command ≠ .message) (hc : f.command ≠ .error) : FrameRouted config f none none

namespace FrameRouted

variable {config : ConnectConfig} {f : Frame}

/-- A frame is routed one way only. -/
theorem unique {e e' : Option Event} {r r' : Option String} (h : FrameRouted config f e r)
    (h' : FrameRouted config f e' r') : e = e' ∧ r = r' := by
  -- the cases exclude one another by the command, the topics or the decoder's result
  cases h <;> cases h' <;> simp_all

end FrameRouted

/-- **`dispatch` routes every frame.** -/
theorem frameRouted_dispatch (config : ConnectConfig) (f : Frame) :
    FrameRouted config f (dispatch config f).1 (dispatch config f).2 := by
  unfold dispatch
  split
  · next hm =>
    dsimp only
    split_ifs with he hn
    · cases hd : decodeErrorNotice f.body with
      | ok d => exact .alert hm he hd
      | error e => exact .errorRejected hm he hd
    · cases hd : decodeNotification f.body with
      | ok v => exact .notification hm he hn hd
      | error e =>
        obtain ⟨m, rfl⟩ := decodeNotification_error hd
        exact .notificationRejected hm he hn hd
    · exact .ignored hm he hn
  · next hc => exact .brokerError hc
  · next hm hc => exact .other hm hc

/-- **What `dispatch` does, exactly**: it gives the event and the ending the frame is routed to. -/
theorem frameRouted_iff {config : ConnectConfig} {f : Frame} {e : Option Event}
    {r : Option String} : FrameRouted config f e r ↔ dispatch config f = (e, r) := by
  constructor
  · intro h
    obtain ⟨he, hr⟩ := (frameRouted_dispatch config f).unique h
    rw [← he, ← hr]
  · intro h
    have hd := frameRouted_dispatch config f
    rwa [h] at hd

/-- A frame ends the session just when it is `ERROR`. -/
theorem FrameRouted.ends_iff {config : ConnectConfig} {f : Frame} {e : Option Event}
    {r : Option String} (h : FrameRouted config f e r) : r.isSome ↔ f.command = .error := by
  cases h with
  | brokerError hc => simp [hc]
  | alert hm | errorRejected hm | notification hm | notificationRejected hm | ignored hm =>
    simp [hm]
  | other _ hc => simp [hc]

/-- **Only `ERROR` ends the session**: no message does, whatever its topic and body. -/
theorem dispatch_ends_iff (config : ConnectConfig) (f : Frame) :
    (dispatch config f).2.isSome ↔ f.command = .error :=
  (frameRouted_dispatch config f).ends_iff

/-! ## A read's frames -/

/-- **Routing a read's frames**, in order: the events reported and the reason the session ends, if
a frame ends it; the frames after that one are not routed. -/
inductive Routed (config : ConnectConfig) : List Frame → List Event → Option String → Prop
  | nil : Routed config [] [] none
  /-- A frame that does not end the session, then the frames after it. -/
  | next {f : Frame} {fs : List Frame} {e : Option Event} {es : List Event}
      {ending : Option String} (hf : FrameRouted config f e none) (hfs : Routed config fs es ending) :
      Routed config (f :: fs) (e.toList ++ es) ending
  /-- A frame that ends the session, whatever comes after it. -/
  | last {f : Frame} {fs : List Frame} {e : Option Event} {reason : String}
      (hf : FrameRouted config f e (some reason)) : Routed config (f :: fs) e.toList (some reason)

/-- **`dispatchAll` routes every read's frames.** -/
theorem routed_dispatchAll (config : ConnectConfig) :
    ∀ fs : List Frame, Routed config fs (dispatchAll config fs).1 (dispatchAll config fs).2
  | [] => .nil
  | f :: fs => by
    have hf := frameRouted_dispatch config f
    -- the frame's ending decides whether the rest is routed
    rcases hd : dispatch config f with ⟨e, _ | reason⟩
    · rw [hd] at hf
      simp only [dispatchAll, hd]
      exact .next hf (routed_dispatchAll config fs)
    · rw [hd] at hf
      simp only [dispatchAll, hd]
      exact .last hf

/-- A read's frames are routed one way only. -/
theorem Routed.eq_dispatchAll {config : ConnectConfig} {fs : List Frame} {es : List Event}
    {ending : Option String} (h : Routed config fs es ending) :
    dispatchAll config fs = (es, ending) := by
  induction h with
  | nil => rfl
  | next hf _ ih => simp only [dispatchAll, frameRouted_iff.1 hf, ih]
  | last hf => simp only [dispatchAll, frameRouted_iff.1 hf]

/-- **What `dispatchAll` does, exactly.** -/
theorem routed_iff {config : ConnectConfig} {fs : List Frame} {es : List Event}
    {ending : Option String} : Routed config fs es ending ↔ dispatchAll config fs = (es, ending) := by
  refine ⟨Routed.eq_dispatchAll, fun h => ?_⟩
  have hr := routed_dispatchAll config fs
  rwa [h] at hr

/-! ## A read's payloads -/

/-- **The frames among a payload's items**, in order; heart-beats carry none. -/
inductive FramesOf : List Incoming → List Frame → Prop
  | nil : FramesOf [] []
  | heartbeat {items : List Incoming} {fs : List Frame} (h : FramesOf items fs) :
      FramesOf (.heartbeat :: items) fs
  | frame {f : Frame} {items : List Incoming} {fs : List Frame} (h : FramesOf items fs) :
      FramesOf (.frame f :: items) (f :: fs)

/-- Items hold one list of frames. -/
theorem FramesOf.unique {items : List Incoming} {fs fs' : List Frame} (h : FramesOf items fs)
    (h' : FramesOf items fs') : fs = fs' := by
  induction h generalizing fs' with
  | nil => cases h'; rfl
  | heartbeat _ ih => cases h' with | heartbeat h' => exact ih h'
  | frame _ ih => cases h' with | frame h' => rw [ih h']

/-- Keeping the frames of the items, by any function that keeps a frame and drops a heart-beat,
gives their frames. -/
theorem framesOf_filterMap {keep : Incoming → Option Frame} (hb : keep .heartbeat = none)
    (hf : ∀ f, keep (.frame f) = some f) :
    ∀ items : List Incoming, FramesOf items (items.filterMap keep)
  | [] => .nil
  | .heartbeat :: items => by
    rw [List.filterMap_cons, hb]
    exact .heartbeat (framesOf_filterMap hb hf items)
  | .frame f :: items => by
    rw [List.filterMap_cons, hf]
    exact .frame (framesOf_filterMap hb hf items)

/-- **The frames a read delivers**: those of each payload in order, a payload that is not STOMP
skipped as a whole. -/
inductive Delivered : List String → List Frame → Prop
  | nil : Delivered [] []
  /-- A payload that is not STOMP adds nothing, and the payloads after it are read. -/
  | skip {p : String} {ps : List String} {fs : List Frame} {e : StompError}
      (hp : Stomp.decode p = .error e) (hps : Delivered ps fs) : Delivered (p :: ps) fs
  /-- A payload that is STOMP adds its frames. -/
  | frames {p : String} {ps : List String} {items : List Incoming} {fs fs' : List Frame}
      (hp : Stomp.decode p = .ok items) (hitems : FramesOf items fs) (hps : Delivered ps fs') :
      Delivered (p :: ps) (fs ++ fs')

/-- **`readableFrames` gives the frames a read delivers.** -/
theorem delivered_readableFrames : ∀ ps : List String, Delivered ps (readableFrames ps)
  | [] => .nil
  | p :: ps => by
    have hps := delivered_readableFrames ps
    unfold readableFrames at hps ⊢
    rw [List.flatMap_cons]
    cases hp : Stomp.decode p with
    | error e => exact .skip hp hps
    | ok items => exact .frames hp (framesOf_filterMap rfl (fun _ => rfl) items) hps

/-- A read's payloads deliver one list of frames. -/
theorem Delivered.unique {ps : List String} {fs fs' : List Frame} (h : Delivered ps fs)
    (h' : Delivered ps fs') : fs = fs' := by
  induction h generalizing fs' with
  | nil => cases h'; rfl
  | skip hp _ ih =>
    cases h' with
    | skip _ h' => exact ih h'
    | frames hp' _ _ => rw [hp] at hp'; cases hp'
  | frames hp hitems _ ih =>
    cases h' with
    | skip hp' _ => rw [hp] at hp'; cases hp'
    | frames hp' hitems' h' =>
      rw [hp] at hp'
      cases hp'
      rw [hitems.unique hitems', ih h']

/-- **What `readableFrames` does, exactly.** -/
theorem delivered_iff {ps : List String} {fs : List Frame} :
    Delivered ps fs ↔ fs = readableFrames ps :=
  ⟨fun h => h.unique (delivered_readableFrames ps), fun h => h ▸ delivered_readableFrames ps⟩

/-! ## The step -/

/-- **A connected session reading payloads** routes the frames they deliver and reports, in order,
what the frames are routed to; if a frame ends the session, it is dropped with that frame's
reason. The frames are those of every payload that is STOMP, the others skipped, and the routing
is the one there is: the step is the same for every way of reading the read. -/
theorem step_read_established_routes {t : SessionTask} {hb : Heartbeat} {r : WsRead}
    {raw : RawText} {ps : List String} (hph : t.phase = .established hb)
    (hr : r.rawText = some (.ok raw)) (hps : t.config.transport.receive raw = .ok (.payloads ps)) :
    (∃ frames events ending, Delivered ps frames ∧ Routed t.config frames events ending) ∧
      ∀ frames events ending, Delivered ps frames → Routed t.config frames events ending →
        t.step (.read r) =
          ending.elim (events.foldl SessionTask.emit t) (events.foldl SessionTask.emit t).drop := by
  refine ⟨⟨_, _, _, delivered_readableFrames ps, routed_dispatchAll t.config _⟩, ?_⟩
  intro frames events ending hframes hrouted
  rw [delivered_iff.1 hframes] at hrouted
  have hread : react t.config t.generation t.phase (.read r) = .report events ending := by
    rw [hph]
    simp only [react, readConnected, hr, hps, hrouted.eq_dispatchAll]
  rw [SessionTask.step, hread]
  cases ending <;> rfl

/-- A connected WebSocket session reading one message for the notification subscription sent to
the error topic. -/
theorem step_read_established_routes_message :
    (⟨{ transport := .webSocket }, 0, { config := {} }, .established ⟨0, 0⟩, []⟩ :
        SessionTask).phase = .established ⟨0, 0⟩ ∧
      WsRead.rawText (.message (.text "MESSAGE\nsubscription:sub-1\ndestination:/topic/error\n\n1\x00")) =
        some (.ok (.text "MESSAGE\nsubscription:sub-1\ndestination:/topic/error\n\n1\x00")) ∧
      (⟨{ transport := .webSocket }, 0, { config := {} }, .established ⟨0, 0⟩, []⟩ :
        SessionTask).config.transport.receive
          (.text "MESSAGE\nsubscription:sub-1\ndestination:/topic/error\n\n1\x00") =
        .ok (.payloads ["MESSAGE\nsubscription:sub-1\ndestination:/topic/error\n\n1\x00"]) ∧
      (∃ frames events ending,
        Delivered ["MESSAGE\nsubscription:sub-1\ndestination:/topic/error\n\n1\x00"] frames ∧
        Routed (⟨{ transport := .webSocket }, 0, { config := {} }, .established ⟨0, 0⟩, []⟩ :
          SessionTask).config frames events ending) ∧
      ∀ frames events ending,
        Delivered ["MESSAGE\nsubscription:sub-1\ndestination:/topic/error\n\n1\x00"] frames →
        Routed (⟨{ transport := .webSocket }, 0, { config := {} }, .established ⟨0, 0⟩, []⟩ :
          SessionTask).config frames events ending →
        (⟨{ transport := .webSocket }, 0, { config := {} }, .established ⟨0, 0⟩, []⟩ :
          SessionTask).step
            (.read (.message (.text "MESSAGE\nsubscription:sub-1\ndestination:/topic/error\n\n1\x00"))) =
          ending.elim
            (events.foldl SessionTask.emit
              ⟨{ transport := .webSocket }, 0, { config := {} }, .established ⟨0, 0⟩, []⟩)
            (events.foldl SessionTask.emit
              ⟨{ transport := .webSocket }, 0, { config := {} }, .established ⟨0, 0⟩, []⟩).drop :=
  ⟨rfl, rfl, rfl, step_read_established_routes rfl rfl rfl⟩

end StompConsole.Client
