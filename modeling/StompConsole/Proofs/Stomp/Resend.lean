import Mathlib
import StompConsole.Proofs.Stomp.Wire

/-!
# Sending decoded frames again

The decoder accepts more than the encoder writes: CRLF as well as LF, whitespace and a `+` in
`content-length`, NULs inside measured bodies. Still, every frame it reads is one the encoder can
write back, with a single exception: a line of a connection-opening frame that ends in CR CR LF
loses only one CR, so the raw header value read from it ends in CR, and writing it back loses
that CR too.

Every decoded frame is `Frame.Received`: wire-safe but for raw values that end in CR
(`received_of_decodeItems`). A received frame with no such value is wire-safe
(`Frame.Received.wireSafe`), and items whose frames are all wire-safe are read back from their
wire form (`decodeItems_renderItems`). The main statement is `decoded_items_resend`.
-/

namespace StompConsole

namespace Stomp

open Text

/-! ## Frames the decoder gives -/

/-- **A raw header as one line carries it**: its name has no colon or LF and its value no LF.
Unlike `RawHeaderSafe`, the value may end in CR. -/
def RawHeaderRead (h : String × String) : Prop :=
  ':' ∉ h.1.toList ∧ '\n' ∉ h.1.toList ∧ '\n' ∉ h.2.toList

namespace Frame

/-- **A frame as the decoder gives it**: wire-safe, except that a raw header value may end in
CR. -/
structure Received (f : Frame) : Prop where
  headers : f.command.escapesHeaders = false → ∀ h ∈ f.headers, RawHeaderRead h
  body : f.BodySafe

/-- A raw header value of the frame ends in CR. -/
def RawValueEndsInCR (f : Frame) : Prop :=
  f.command.escapesHeaders = false ∧ ∃ h ∈ f.headers, h.2.toList.getLast? = some '\r'

/-- **The one exception**: a received frame is wire-safe exactly when no raw value ends in CR. -/
theorem Received.wireSafe {f : Frame} (hf : f.Received) (hcr : ¬ f.RawValueEndsInCR) :
    f.WireSafe := by
  refine ⟨fun he h hh => ?_, hf.body⟩
  obtain ⟨hc, hn, hv⟩ := hf.headers he h hh
  exact ⟨hc, hn, hv, fun hlast => hcr ⟨he, h, hh, hlast⟩⟩

end Frame

/-- A header line read off the text, split raw, gives a header that one line carries. -/
theorem rawHeaderRead_of_parseHeader {text line rest : List Char} {h : String × String}
    (hs : splitLine text = some (line, rest)) (hp : parseHeader false line = .ok h) :
    RawHeaderRead h := by
  obtain ⟨raw, hraw, -, rfl⟩ := splitLine_eq_some hs
  obtain ⟨hcolon, hline⟩ := parseHeader_false_eq_ok hp
  -- the line holds no LF, and it is the name, a colon and the value
  have hlf : '\n' ∉ Frame.headerLine false h := hline ▸ not_mem_stripCR hraw
  simp only [Frame.headerLine, Bool.false_eq_true, if_false, List.mem_append, List.mem_cons,
    not_or] at hlf
  exact ⟨hcolon, hlf.1, hlf.2.2⟩

/-- Every header of a raw header block is one that a line carries; the induction follows the
headers read. -/
theorem rawHeaderRead_of_readHeaders :
    ∀ {hs : List (String × String)} {text after : List Char},
      readHeaders false text = .ok (hs, after) → ∀ h ∈ hs, RawHeaderRead h
  | [], _, _, _ => by simp
  | _ :: _, _, _, hr => by
    obtain ⟨line, rest, hsplit, -, hp, hr'⟩ := readHeaders_eq_ok_cons hr
    intro x hx
    rcases List.mem_cons.1 hx with rfl | hx
    · exact rawHeaderRead_of_parseHeader hsplit hp
    · exact rawHeaderRead_of_readHeaders hr' x hx

/-- **Every frame read is received**: its raw headers came from single lines, and its body was
cut where the encoder would end it. -/
theorem received_of_decodeFrame {text after : List Char} {f : Frame}
    (h : decodeFrame text = .ok (f, after)) : f.Received := by
  obtain ⟨line, rest, rest', body, len, -, -, hr, hl, hb, hbody⟩ := decodeFrame_eq_ok h
  refine ⟨fun he => ?_, Frame.bodySafe_of_splitBody hl hb hbody⟩
  rw [he] at hr
  exact rawHeaderRead_of_readHeaders hr

/-- What follows the end-of-line run of a text, with the run's LF count. -/
theorem leadingEols_eq_of_snd {text rest : List Char} (h : (leadingEols text).2 = rest) :
    leadingEols text = ((leadingEols text).1, rest) := by
  rw [← h]

/-- **Every frame of a decoded message is received.** The induction follows the decoder: past
each end-of-line run it reads one frame, then the rest of the message. -/
theorem received_of_decodeItems {text : List Char} :
    ∀ {items : List Incoming}, decodeItems text = .ok items → ∀ f, .frame f ∈ items → f.Received := by
  induction text using decodeItems.induct with
  | case1 x hx =>
    intro items h f hf
    rw [decodeItems_of_rest_nil hx] at h
    obtain rfl := Except.ok.inj h
    simp at hf
  | case2 x c cs hx e he =>
    intro items h
    obtain ⟨g, after, items', hg, -, -⟩ := decodeItems_eq_ok_frame (leadingEols_eq_of_snd hx) h
    rw [he] at hg
    cases hg
  | case3 x c cs hx g after hg e he _ =>
    intro items h
    obtain ⟨g', after', items', hg', hi, -⟩ := decodeItems_eq_ok_frame (leadingEols_eq_of_snd hx) h
    rw [hg] at hg'
    obtain ⟨-, rfl⟩ := Prod.mk.inj (Except.ok.inj hg')
    rw [he] at hi
    cases hi
  | case4 x c cs hx g after hg items' hi ih =>
    intro items h f hf
    obtain ⟨g', after', items'', hg', hi', rfl⟩ :=
      decodeItems_eq_ok_frame (leadingEols_eq_of_snd hx) h
    rw [hg] at hg'
    obtain ⟨rfl, rfl⟩ := Prod.mk.inj (Except.ok.inj hg')
    simp only [List.mem_append, List.mem_replicate, List.mem_cons] at hf
    rcases hf with ⟨-, hf⟩ | hf | hf
    · cases hf
    · cases hf
      exact received_of_decodeFrame hg
    · exact ih hi' f hf

/-! ## Writing items back -/

@[simp] theorem renderItems_nil : renderItems [] = [] := rfl

@[simp] theorem renderItems_heartbeat (items : List Incoming) :
    renderItems (.heartbeat :: items) = '\n' :: renderItems items := rfl

@[simp] theorem renderItems_frame (f : Frame) (items : List Incoming) :
    renderItems (.frame f :: items) = f.render ++ renderItems items := rfl

/-- **An LF in front is one more heart-beat.** -/
theorem decodeItems_lf_cons {text : List Char} {items : List Incoming}
    (h : decodeItems text = .ok items) : decodeItems ('\n' :: text) = .ok (.heartbeat :: items) := by
  have hl : leadingEols ('\n' :: text) = ((leadingEols text).1 + 1, (leadingEols text).2) := by
    simp [leadingEols]
  cases hr : (leadingEols text).2 with
  | nil =>
    rw [decodeItems_of_rest_nil hr] at h
    rw [decodeItems_of_rest_nil (by rw [hl, hr]), hl, ← Except.ok.inj h, List.replicate_succ]
  | cons c cs =>
    obtain ⟨f, after, items', hf, hi, rfl⟩ := decodeItems_eq_ok_frame (leadingEols_eq_of_snd hr) h
    rw [decodeItems_of_frame (hl.trans (by rw [hr])) hf hi, List.replicate_succ, List.cons_append]

/-- **A wire-safe frame in front is read first**, then the rest as before. -/
theorem decodeItems_render_append {f : Frame} (hf : f.WireSafe) {text : List Char}
    {items : List Incoming} (h : decodeItems text = .ok items) :
    decodeItems (f.render ++ text) = .ok (.frame f :: items) := by
  obtain ⟨x, xs, hx, -, -⟩ := Command.name_eq_cons f.command
  -- a written frame starts with its command's first letter
  obtain ⟨c, cs, hcs⟩ : ∃ c cs, f.render ++ text = c :: cs :=
    ⟨x, _, by rw [Frame.render_append, hx, List.cons_append]⟩
  have hl := leadingEols_render_append f text
  have hframe := decodeFrame_render_append hf text
  rw [hcs] at hl hframe ⊢
  simpa using decodeItems_of_frame hl hframe h

/-- **Items whose frames are wire-safe are read back from their wire form**; the induction
follows the items. -/
theorem decodeItems_renderItems :
    ∀ {items : List Incoming}, (∀ f, .frame f ∈ items → f.WireSafe) →
      decodeItems (renderItems items) = .ok items
  | [], _ => decodeItems_of_rest_nil rfl
  | .heartbeat :: rest, h => by
    rw [renderItems_heartbeat]
    exact decodeItems_lf_cons (decodeItems_renderItems fun f hf => h f (List.mem_cons_of_mem _ hf))
  | .frame g :: rest, h => by
    rw [renderItems_frame]
    exact decodeItems_render_append (h g List.mem_cons_self)
      (decodeItems_renderItems fun f hf => h f (List.mem_cons_of_mem _ hf))

/-- A frame read back first from its own wire form was wire-safe. -/
theorem wireSafe_of_decodeItems_render {f : Frame} {items : List Incoming}
    (h : decodeItems f.render = .ok (.frame f :: items)) : f.WireSafe := by
  obtain ⟨x, xs, hx, -, -⟩ := Command.name_eq_cons f.command
  obtain ⟨c, cs, hcs⟩ : ∃ c cs, f.render = c :: cs :=
    ⟨x, _, by rw [← List.append_nil f.render, Frame.render_append, hx, List.cons_append]⟩
  have hl := leadingEols_render_append f []
  rw [List.append_nil, hcs] at hl
  rw [hcs] at h
  obtain ⟨g, after, items', hg, -, hitems⟩ := decodeItems_eq_ok_frame hl h
  -- the first item read is the frame read first, so that frame is `f`
  simp only [List.replicate_zero, List.nil_append, List.cons.injEq, Incoming.frame.injEq] at hitems
  obtain ⟨rfl, -⟩ := hitems
  exact wireSafe_of_decodeFrame (hcs ▸ hg)

/-- A text that starts with a frame and holds nothing after it decodes to that frame alone. -/
theorem decodeItems_single {text : List Char} {f : Frame} (h0 : leadingEols text = (0, text))
    (hf : decodeFrame text = .ok (f, [])) : decodeItems text = .ok [.frame f] := by
  cases text with
  | nil => simp [decodeFrame, splitLine] at hf
  | cons c cs => simpa [leadingEols] using decodeItems_of_frame h0 hf (decodeItems_of_rest_nil rfl)

/-- A `CONNECT` frame whose header line ends in CR CR LF: only one CR is stripped, so the value
read ends in CR. -/
theorem decode_connect_value_cr :
    decode "CONNECT\na:b\r\r\n\n\x00" = .ok [.frame ⟨.connect, [("a", "b\r")], ""⟩] := by
  have h1 : splitLine "CONNECT\na:b\r\r\n\n\x00".toList =
      some ("CONNECT".toList, "a:b\r\r\n\n\x00".toList) := by decide
  have h2 : splitLine "a:b\r\r\n\n\x00".toList = some ("a:b\r".toList, "\n\x00".toList) := by
    decide
  have hc : Command.parse (String.ofList "CONNECT".toList) = some .connect := by decide
  have h3 : readHeaders false "a:b\r\r\n\n\x00".toList = .ok ([("a", "b\r")], "\x00".toList) :=
    readHeaders_cons h2 (by decide) (by decide) (readHeaders_of_blank (by decide))
  have hl : contentLength [("a", "b\r")] = .ok none := by decide
  have h4 : splitBody none "\x00".toList = .ok ([], []) := by decide
  have hframe := decodeFrame_of_parts h1 hc h3 hl h4
  have h0 : leadingEols "CONNECT\na:b\r\r\n\n\x00".toList = (0, "CONNECT\na:b\r\r\n\n\x00".toList) := by
    decide
  rw [decode_of_decodeItems (decodeItems_single h0 hframe)]
  rfl

/-- **Decoded items are sent again unchanged, with one exact exception.** Every frame of a
decoded text is wire-safe but for raw header values that end in CR; when no frame has such a
value, the wire form of the items, each frame encoded and each heart-beat an LF, decodes to the
same items; and the exception happens: a decoded `CONNECT` can hold such a value, and then its
wire form decodes to other items. -/
theorem decoded_items_resend :
    (∀ (t : String) (items : List Incoming), decode t = .ok items →
      (∀ f, .frame f ∈ items → f.Received) ∧
      ((∀ f, .frame f ∈ items → ¬ f.RawValueEndsInCR) →
        decode (String.ofList (renderItems items)) = .ok items)) ∧
    (∃ (t : String) (items : List Incoming) (f : Frame), decode t = .ok items ∧
      .frame f ∈ items ∧ f.RawValueEndsInCR ∧
      decode (String.ofList (renderItems items)) ≠ .ok items) := by
  refine ⟨fun t items h => ?_, ?_⟩
  · have hi := decodeItems_of_decode h
    have hne : items ≠ [] := by
      rintro rfl
      simp [decode, hi] at h
    refine ⟨received_of_decodeItems hi, fun hcr => ?_⟩
    have hsafe : ∀ f, .frame f ∈ items → f.WireSafe := fun f hf =>
      (received_of_decodeItems hi f hf).wireSafe (hcr f hf)
    rw [decode_of_decodeItems (by rw [String.toList_ofList]; exact decodeItems_renderItems hsafe),
      if_neg hne]
  · refine ⟨_, _, ⟨.connect, [("a", "b\r")], ""⟩, decode_connect_value_cr, List.mem_singleton_self _,
      ⟨rfl, _, List.mem_singleton_self _, by decide⟩, fun h => ?_⟩
    -- reading the wire form back as the frame would make it wire-safe, and it is not
    have hi := decodeItems_of_decode h
    rw [String.toList_ofList, renderItems_frame, renderItems_nil, List.append_nil] at hi
    exact absurd (wireSafe_of_decodeItems_render hi) (by decide)

end Stomp

end StompConsole
