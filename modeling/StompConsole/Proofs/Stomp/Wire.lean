import Mathlib
import StompConsole.Proofs.Stomp.Reading

/-!
# Frames on the wire

Which frames come back from their own encoding, and what a message of several written frames
decodes to.

A frame survives the wire exactly when it is `WireSafe` (`decode_encode_eq_iff`): if its
command writes headers raw, each name is free of colon and LF and each value free of LF and of a
trailing CR; and its body ends where the decoder looks for the end, at the byte count of its
first `content-length` header or, without one, at its first NUL. The escaped headers of the
other twelve commands are unrestricted.

A message of such frames, with runs of CR and LF before, between and after them, decodes to the
frames in order with one heart-beat for each LF of each run; a message of no frame and no LF is
refused as empty (`decode_frames_with_eols`). Both rest on one induction over the frames
(`decodeItems_frames_with_eols`), whose step is that reading a written frame stops exactly at its
NUL (`decodeFrame_render_append`).
-/

namespace StompConsole

namespace Stomp

open Text

namespace Frame

/-- **The body ends where the decoder looks for its end**: the first `content-length` header,
trimmed, is an unsigned number equal to the body's length in UTF-8 bytes; without such a header,
the body holds no NUL. -/
def BodySafe (f : Frame) : Prop :=
  match f.get "content-length" with
  | some v => parseUnsigned 64 (trimWhite v.toList) = some f.body.utf8ByteSize
  | none => '\x00' ∉ f.body.toList

instance (f : Frame) : Decidable f.BodySafe :=
  match h : f.get "content-length" with
  | some v => decidable_of_iff (parseUnsigned 64 (trimWhite v.toList) = some f.body.utf8ByteSize)
      (by rw [BodySafe, h])
  | none => decidable_of_iff ('\x00' ∉ f.body.toList) (by rw [BodySafe, h])

/-- **A frame that survives the wire.** -/
structure WireSafe (f : Frame) : Prop where
  /-- The headers of `CONNECT`, `STOMP` and `CONNECTED`, written raw, keep their line and colon
  structure. -/
  headers : f.command.escapesHeaders = false → ∀ h ∈ f.headers, RawHeaderSafe h
  body : f.BodySafe

theorem wireSafe_iff (f : Frame) : f.WireSafe ↔
    (f.command.escapesHeaders = false → ∀ h ∈ f.headers, RawHeaderSafe h) ∧ f.BodySafe :=
  ⟨fun h => ⟨h.headers, h.body⟩, fun h => ⟨h.1, h.2⟩⟩

instance (f : Frame) : Decidable f.WireSafe := decidable_of_iff _ (wireSafe_iff f).symm

/-- Every header of a wire-safe frame reads back under the frame's own escaping. -/
theorem WireSafe.headerSafe {f : Frame} (hf : f.WireSafe) :
    ∀ h ∈ f.headers, HeaderSafe f.command.escapesHeaders h := by
  intro h hm
  cases he : f.command.escapesHeaders
  · exact Or.inr (hf.headers he h hm)
  · exact Or.inl rfl

/-- A safe body is measured and cut where it ends. -/
theorem BodySafe.splitBody {f : Frame} (hb : f.BodySafe) (rest : List Char) :
    ∃ len, contentLength f.headers = .ok len ∧
      splitBody len (f.body.toList ++ '\x00' :: rest) = .ok (f.body.toList, rest) := by
  unfold BodySafe at hb
  split at hb
  · next v hv =>
    refine ⟨_, contentLength_of_get_some hv hb, ?_⟩
    rw [utf8ByteSize_eq_sum]
    exact splitBody_some_append _ _
  · next hv => exact ⟨none, contentLength_of_get_none hv, splitBody_none_append hb⟩

/-- **A body the decoder cut is safe**: the length it was cut at is its own, or the NUL it was
cut at is its first. -/
theorem bodySafe_of_splitBody {f : Frame} {len : Option Nat} {text body after : List Char}
    (hl : contentLength f.headers = .ok len) (hs : splitBody len text = .ok (body, after))
    (hb : f.body = String.ofList body) : f.BodySafe := by
  cases len with
  | none =>
    obtain ⟨hnul, -⟩ := splitBody_none_eq_ok hs
    simp only [BodySafe, get_of_contentLength_none hl]
    rwa [hb, String.toList_ofList]
  | some n =>
    obtain ⟨v, hv, hn⟩ := get_of_contentLength_some hl
    obtain ⟨-, hsum⟩ := splitBody_some_eq_ok hs
    simp only [BodySafe, hv]
    rw [hn, utf8ByteSize_eq_sum, hb, String.toList_ofList, hsum]

end Frame

/-! ## One frame -/

/-- **Reading a written frame stops at its NUL**: a wire-safe frame is read back whole, and
whatever follows it is left for the next read. -/
theorem decodeFrame_render_append {f : Frame} (hf : f.WireSafe) (rest : List Char) :
    decodeFrame (f.render ++ rest) = .ok (f, rest) := by
  obtain ⟨len, hl, hs⟩ := hf.body.splitBody rest
  have hc : Command.parse (String.ofList f.command.name.toList) = some f.command := by
    rw [String.ofList_toList]
    exact Command.parse_name _
  have h := decodeFrame_of_parts (splitLine_render_append f rest) hc
    (readHeaders_headerLines hf.headerSafe _) hl hs
  rwa [String.ofList_toList] at h

/-- **A frame read back from its own encoding was wire-safe.** The header block was read back as
the frame's headers, so each was safe; then the body was cut exactly at its end. -/
theorem wireSafe_of_decodeFrame {f : Frame} {after : List Char}
    (h : decodeFrame f.render = .ok (f, after)) : f.WireSafe := by
  obtain ⟨line, rest, rest', body, len, h1, -, h3, h4, h5, h6⟩ := decodeFrame_eq_ok h
  have hsplit := splitLine_render_append f []
  rw [List.append_nil, h1] at hsplit
  obtain ⟨-, rfl⟩ := Prod.mk.inj (Option.some.inj hsplit)
  have hsafe := headerSafe_of_readHeaders h3
  -- the header block was the frame's own, so the body read started right after it
  rw [readHeaders_headerLines hsafe] at h3
  obtain ⟨-, rfl⟩ := Prod.mk.inj (Except.ok.inj h3)
  refine ⟨fun he x hx => (hsafe x hx).resolve_left (by rw [he]; decide), ?_⟩
  exact Frame.bodySafe_of_splitBody h4 h5 h6

/-! ## Messages -/

/-- A run of end-of-line characters. -/
def EolRun (e : List Char) : Prop := ∀ c ∈ e, c = '\r' ∨ c = '\n'

/-- **Frames with end-of-line runs between them**, at the level of characters: the induction
follows the frames, each step skipping one run (its LFs become heart-beats) and reading one frame
up to its NUL. -/
theorem decodeItems_frames_with_eols :
    ∀ (e₀ : List Char) (segments : List (Frame × List Char)), EolRun e₀ →
      (∀ p ∈ segments, p.1.WireSafe ∧ EolRun p.2) →
      decodeItems (e₀ ++ segments.flatMap fun p => p.1.render ++ p.2) =
        .ok (List.replicate (e₀.count '\n') .heartbeat ++
          segments.flatMap fun p => .frame p.1 :: List.replicate (p.2.count '\n') .heartbeat)
  | e₀, [], he, _ => by
    have hl := leadingEols_eols_append he []
    simp only [leadingEols, zero_add, List.append_nil] at hl
    rw [List.flatMap_nil, List.append_nil, decodeItems_of_rest_nil (by rw [hl]), hl, List.flatMap_nil,
      List.append_nil]
  | e₀, (f, e₁) :: segments, he, hs => by
    obtain ⟨hf, he₁⟩ := hs (f, e₁) List.mem_cons_self
    have ih := decodeItems_frames_with_eols e₁ segments he₁
      fun p hp => hs p (List.mem_cons_of_mem _ hp)
    obtain ⟨x, xs, hx, -, -⟩ := Command.name_eq_cons f.command
    obtain ⟨c, cs, hcs⟩ : ∃ c cs, f.render ++ (e₁ ++ segments.flatMap fun p => p.1.render ++ p.2) =
        c :: cs := ⟨x, _, by rw [Frame.render_append, hx, List.cons_append]⟩
    have hl : leadingEols (e₀ ++ f.render ++ (e₁ ++ segments.flatMap fun p => p.1.render ++ p.2)) =
        (e₀.count '\n', c :: cs) := by
      rw [List.append_assoc, leadingEols_eols_append he, leadingEols_render_append, hcs]
      simp
    have hframe := decodeFrame_render_append hf (e₁ ++ segments.flatMap fun p => p.1.render ++ p.2)
    rw [hcs] at hframe
    have h := decodeItems_of_frame hl hframe ih
    simp only [List.flatMap_cons, List.append_assoc, List.cons_append] at h ⊢
    rw [h]

/-- The items that frames with end-of-line runs around them stand for: one heart-beat for each
LF of each run, and each frame in its place. -/
def framedItems (e₀ : String) (segments : List (Frame × String)) : List Incoming :=
  List.replicate (e₀.toList.count '\n') .heartbeat ++
    segments.flatMap fun p => .frame p.1 :: List.replicate (p.2.toList.count '\n') .heartbeat

/-- **A wire-safe frame reads back alone** from its encoding. -/
theorem decode_encode_of_wireSafe {f : Frame} (hf : f.WireSafe) : decode f.encode = .ok [.frame f] := by
  have h := decodeItems_frames_with_eols [] [(f, [])] (by simp [EolRun]) (by simp [EolRun, hf])
  simp only [List.nil_append, List.flatMap_cons, List.flatMap_nil, List.append_nil,
    List.count_nil, List.replicate_zero] at h
  rw [decode_of_decodeItems (by rwa [Frame.encode, String.toList_ofList]), if_neg (by simp)]

/-- **A frame survives the wire exactly when it is wire-safe**: decoding its encoding gives back
the frame alone precisely under the raw-header and body conditions of `Frame.WireSafe`. -/
theorem decode_encode_eq_iff (f : Frame) : decode f.encode = .ok [.frame f] ↔ f.WireSafe := by
  constructor
  · intro h
    have hi := decodeItems_of_decode h
    rw [Frame.encode, String.toList_ofList] at hi
    obtain ⟨x, xs, hx, -, -⟩ := Command.name_eq_cons f.command
    obtain ⟨c, cs, hcs⟩ : ∃ c cs, f.render = c :: cs :=
      ⟨x, _, by rw [← List.append_nil f.render, Frame.render_append, hx, List.cons_append]⟩
    have hl := leadingEols_render_append f []
    rw [List.append_nil, hcs] at hl
    rw [hcs] at hi
    obtain ⟨g, after, items, hg, -, hitems⟩ := decodeItems_eq_ok_frame hl hi
    -- the one item is the frame read first, so that frame is `f`
    simp only [List.replicate_zero, List.nil_append, List.cons.injEq, Incoming.frame.injEq] at hitems
    obtain ⟨rfl, -⟩ := hitems
    exact wireSafe_of_decodeFrame (hcs ▸ hg)
  · exact decode_encode_of_wireSafe

/-- **A message of wire-safe frames and end-of-line runs** decodes to the frames in order, with one
heart-beat for each LF of each run; when there is neither a frame nor an LF, it is refused as
empty. -/
theorem decode_frames_with_eols (e₀ : String) (segments : List (Frame × String))
    (hframes : ∀ p ∈ segments, p.1.WireSafe)
    (heols : ∀ e ∈ e₀ :: segments.map Prod.snd, ∀ c ∈ e.toList, c = '\r' ∨ c = '\n') :
    decode (e₀ ++ String.join (segments.map fun p => p.1.encode ++ p.2)) =
      if framedItems e₀ segments = [] then .error .empty else .ok (framedItems e₀ segments) := by
  have h := decodeItems_frames_with_eols e₀.toList (segments.map fun p => (p.1, p.2.toList))
    (heols e₀ List.mem_cons_self) (by
      simp only [List.mem_map]
      rintro _ ⟨p, hp, rfl⟩
      exact ⟨hframes p hp, heols p.2 (List.mem_cons_of_mem _ (List.mem_map_of_mem hp))⟩)
  apply decode_of_decodeItems
  simpa [framedItems, Frame.encode, String.toList_join, List.flatMap_map] using h

/-- A heart-beat, a `MESSAGE` whose body holds a NUL and is measured by `content-length`, and a
CRLF and an LF after it. -/
theorem decode_measured_message_between_eols :
    (∀ p ∈ [((⟨.message, [("content-length", " +3")], "a\x00b"⟩ : Frame), "\r\n\n")],
      p.1.WireSafe) ∧
    (∀ e ∈ "\n" :: [((⟨.message, [("content-length", " +3")], "a\x00b"⟩ : Frame), "\r\n\n")].map
      Prod.snd, ∀ c ∈ e.toList, c = '\r' ∨ c = '\n') ∧
    decode ("\n" ++ String.join
        ([((⟨.message, [("content-length", " +3")], "a\x00b"⟩ : Frame), "\r\n\n")].map
          fun p => p.1.encode ++ p.2)) =
      if framedItems "\n" [(⟨.message, [("content-length", " +3")], "a\x00b"⟩, "\r\n\n")] = []
      then .error .empty
      else .ok (framedItems "\n" [(⟨.message, [("content-length", " +3")], "a\x00b"⟩, "\r\n\n")]) :=
  have hframes : ∀ p ∈ [((⟨.message, [("content-length", " +3")], "a\x00b"⟩ : Frame), "\r\n\n")],
      p.1.WireSafe := by decide
  have heols : ∀ e ∈ "\n" :: [((⟨.message, [("content-length", " +3")], "a\x00b"⟩ : Frame),
      "\r\n\n")].map Prod.snd, ∀ c ∈ e.toList, c = '\r' ∨ c = '\n' := by simp
  ⟨hframes, heols, decode_frames_with_eols _ _ hframes heols⟩

end Stomp

end StompConsole
