import Mathlib
import StompConsole.Stomp.Decode
import StompConsole.Proofs.Stomp.Escape

/-!
# Reading written frames back

The decoder reads a frame in four passes — the command line, the header lines, the body, the
end-of-line runs between frames — and each has its own pair of lemmas here: one that computes
what it reads from text that a frame's writer produced (`splitLine_append`,
`readHeaders_renderHeaders`, `splitBody_some_append`, `decodeFrame_render_append`), and one that
inverts a successful read, saying what the text must have held
(`splitLine_eq_some`, `headerSafe_of_readHeaders`, `splitBody_some_eq_ok`).

Which headers come back as written depends on the command. An escaped header always does; a
raw one (`RawHeaderSafe`) does exactly when its name has no colon or LF and its value no LF and
no trailing CR, since the line splitter, the CR stripper and the colon split would each cut it
elsewhere.
-/

namespace StompConsole

namespace Stomp

open Text

/-! ## Splitting at a separator

Every pass of the decoder splits at the first occurrence of a separator: LF for lines, colon for
headers, NUL for bodies. -/

section Separator

variable {sep x : Char} {l r : List Char}

theorem takeWhile_ne_append (h : sep ∉ l) (r : List Char) :
    (l ++ sep :: r).takeWhile (· != sep) = l := by
  have hp : ∀ c ∈ l, (c != sep) = true := by
    intro c hc
    simpa using fun hc' : c = sep => h (hc' ▸ hc)
  simp [List.takeWhile_append_of_pos hp]

theorem dropWhile_ne_append (h : sep ∉ l) (r : List Char) :
    (l ++ sep :: r).dropWhile (· != sep) = sep :: r := by
  have hp : ∀ c ∈ l, (c != sep) = true := by
    intro c hc
    simpa using fun hc' : c = sep => h (hc' ▸ hc)
  simp [List.dropWhile_append_of_pos hp]

theorem not_mem_takeWhile_ne (sep : Char) (l : List Char) : sep ∉ l.takeWhile (· != sep) := by
  intro hm
  simpa using List.mem_takeWhile_imp hm

/-- Where the scan stops, the separator stands. -/
theorem dropWhile_ne_eq_cons (h : l.dropWhile (· != sep) = x :: r) :
    x = sep ∧ l = l.takeWhile (· != sep) ++ sep :: r := by
  have hx : x = sep := by
    have := @List.head_dropWhile_not _ (· != sep) l (by simp [h])
    simpa [h] using this
  subst hx
  exact ⟨rfl, by rw [← h, List.takeWhile_append_dropWhile]⟩

/-- Two texts that agree up to a first separator agree on what stands before and after it. -/
theorem append_sep_inj {l' r' : List Char} (h : sep ∉ l) (h' : sep ∉ l')
    (he : l ++ sep :: r = l' ++ sep :: r') : l = l' ∧ r = r' := by
  have h1 := congrArg (List.takeWhile (· != sep)) he
  have h2 := congrArg (List.dropWhile (· != sep)) he
  rw [takeWhile_ne_append h, takeWhile_ne_append h'] at h1
  rw [dropWhile_ne_append h, dropWhile_ne_append h'] at h2
  exact ⟨h1, List.cons.inj h2 |>.2⟩

end Separator

/-! ## Lines -/

/-- Stripping a CR changes nothing on a line that does not end in one. -/
theorem stripCR_of_getLast {line : List Char} (h : line.getLast? ≠ some '\r') :
    stripCR line = line := by
  simp [stripCR, h]

/-- A line keeps a trailing CR exactly when it does not end in one. -/
theorem stripCR_eq_self_iff {line : List Char} :
    stripCR line = line ↔ line.getLast? ≠ some '\r' := by
  refine ⟨fun h hcr => ?_, stripCR_of_getLast⟩
  rw [stripCR, if_pos hcr] at h
  have hlen := congrArg List.length h
  have hne : line ≠ [] := by rintro rfl; simp at hcr
  simp only [List.length_dropLast] at hlen
  have := List.length_pos_of_ne_nil hne
  omega

/-- Stripping a CR adds no character. -/
theorem not_mem_stripCR {c : Char} {line : List Char} (h : c ∉ line) : c ∉ stripCR line := by
  unfold stripCR
  split
  · exact fun hm => h (List.dropLast_subset line hm)
  · exact h

/-- **A line is read up to its LF**, less one trailing CR. -/
theorem splitLine_append {line rest : List Char} (h : '\n' ∉ line) :
    splitLine (line ++ '\n' :: rest) = some (stripCR line, rest) := by
  simp [splitLine, dropWhile_ne_append h, takeWhile_ne_append h]

/-- **What a line read says of the text**: the text is an LF-free stretch, the LF, and the rest,
and the line is that stretch less one trailing CR. -/
theorem splitLine_eq_some {text line rest : List Char} (h : splitLine text = some (line, rest)) :
    ∃ raw, '\n' ∉ raw ∧ text = raw ++ '\n' :: rest ∧ line = stripCR raw := by
  unfold splitLine at h
  split at h
  · cases h
  · next x r hd =>
    obtain ⟨rfl, rfl⟩ := Prod.mk.inj (Option.some.inj h)
    exact ⟨_, not_mem_takeWhile_ne _ _, (dropWhile_ne_eq_cons hd).2, rfl⟩

/-! ## Header lines -/

/-- **A raw header that reads back as written**: its name has no colon or LF, its value no LF
and no trailing CR. -/
def RawHeaderSafe (h : String × String) : Prop :=
  ':' ∉ h.1.toList ∧ '\n' ∉ h.1.toList ∧ '\n' ∉ h.2.toList ∧ h.2.toList.getLast? ≠ some '\r'

instance (h : String × String) : Decidable (RawHeaderSafe h) :=
  inferInstanceAs (Decidable (_ ∧ _))

/-- A header that reads back as written under the given escaping: every escaped header does, a
raw one when it is `RawHeaderSafe`. -/
def HeaderSafe (escape : Bool) (h : String × String) : Prop :=
  escape = true ∨ RawHeaderSafe h

/-- A header line ends in its value's last character, or in the colon when the value is
empty. -/
theorem getLast?_colon_append (name value : List Char) :
    (name ++ ':' :: value).getLast? = some (value.getLast?.getD ':') := by
  rw [List.getLast?_append, List.getLast?_cons]
  simp

/-- The written header line holds no LF. -/
theorem lf_not_mem_headerLine {escape : Bool} {h : String × String} (hs : HeaderSafe escape h) :
    '\n' ∉ Frame.headerLine escape h := by
  have hesc : ∀ v, '\n' ∉ escapeChars v := not_mem_escapeChars (Or.inl rfl)
  unfold Frame.headerLine
  split
  · simp only [List.mem_append, List.mem_cons, not_or]
    exact ⟨hesc _, by decide, hesc _⟩
  · next hf =>
    obtain ⟨-, hn, hv, -⟩ := hs.resolve_left hf
    simp only [List.mem_append, List.mem_cons, not_or]
    exact ⟨hn, by decide, hv⟩

/-- The written header line does not end in CR. -/
theorem getLast_headerLine {escape : Bool} {h : String × String} (hs : HeaderSafe escape h) :
    (Frame.headerLine escape h).getLast? ≠ some '\r' := by
  unfold Frame.headerLine
  split
  · rw [getLast?_colon_append]
    intro hl
    -- an escaped value holds no CR, so it cannot end in one
    have hcr := not_mem_escapeChars (Or.inr (Or.inl rfl)) h.2.toList
    cases hv : (escapeChars h.2.toList).getLast? with
    | none => simp [hv] at hl
    | some c => simp only [hv, Option.getD_some, Option.some.injEq] at hl; subst hl
                exact hcr (List.mem_of_getLast? hv)
  · next hf =>
    obtain ⟨-, -, -, hv⟩ := hs.resolve_left hf
    rw [getLast?_colon_append]
    cases hl : h.2.toList.getLast? <;> simp_all

theorem headerLine_ne_nil (escape : Bool) (h : String × String) :
    Frame.headerLine escape h ≠ [] := by
  unfold Frame.headerLine
  split <;> simp

/-- **A written header line parses back to its header.** -/
theorem parseHeader_headerLine {escape : Bool} {h : String × String} (hs : HeaderSafe escape h) :
    parseHeader escape (Frame.headerLine escape h) = .ok h := by
  unfold Frame.headerLine
  split
  · next ht =>
    have hc := not_mem_escapeChars (Or.inr (Or.inr rfl)) h.1.toList
    simp [parseHeader, ht, dropWhile_ne_append hc, takeWhile_ne_append hc,
      unescapeChars_escapeChars]
  · next hf =>
    obtain ⟨hc, -, -, -⟩ := hs.resolve_left hf
    simp [parseHeader, hf, dropWhile_ne_append hc, takeWhile_ne_append hc]

/-- A raw header line parses to the parts around its first colon. -/
theorem parseHeader_false_eq_ok {line : List Char} {h : String × String}
    (hp : parseHeader false line = .ok h) : ':' ∉ h.1.toList ∧ line = Frame.headerLine false h := by
  unfold parseHeader at hp
  split at hp
  · cases hp
  · next x value hd =>
    obtain ⟨rfl, hline⟩ := dropWhile_ne_eq_cons hd
    obtain rfl := (Except.ok.inj hp).symm
    simp only [String.toList_ofList, Frame.headerLine, Bool.false_eq_true, if_false]
    exact ⟨not_mem_takeWhile_ne _ _, hline⟩

/-- **A raw header read back as itself was safe.** The line splits at its first colon, so the
name holds none; the line has no LF, so neither field does; and it is the whole written line,
so no CR was stripped from the value's end. -/
theorem rawHeaderSafe_of_parseHeader {h : String × String} {rest line rest' : List Char}
    (hs : splitLine (Frame.headerLine false h ++ '\n' :: rest) = some (line, rest'))
    (hp : parseHeader false line = .ok h) : RawHeaderSafe h := by
  obtain ⟨raw, hraw, htext, rfl⟩ := splitLine_eq_some hs
  obtain ⟨hcolon, hline⟩ := parseHeader_false_eq_ok hp
  have hlf : '\n' ∉ Frame.headerLine false h := hline ▸ not_mem_stripCR hraw
  have hsame : Frame.headerLine false h = raw := (append_sep_inj hlf hraw htext).1
  have hlast : (Frame.headerLine false h).getLast? ≠ some '\r' := by
    rw [← stripCR_eq_self_iff, hsame]
    exact hline.trans hsame
  simp only [Frame.headerLine, Bool.false_eq_true, if_false, List.mem_append, List.mem_cons,
    not_or, getLast?_colon_append] at hlf hlast
  refine ⟨hcolon, hlf.1, hlf.2.2, fun hv => hlast ?_⟩
  rw [hv, Option.getD_some]

/-! ## The header block -/

/-- The header lines of a frame as written, each with its LF. -/
def headerLines (escape : Bool) (hs : List (String × String)) : List Char :=
  hs.flatMap fun h => Frame.headerLine escape h ++ ['\n']

@[simp] theorem headerLines_nil (escape : Bool) : headerLines escape [] = [] := rfl

theorem headerLines_cons_append (escape : Bool) (h : String × String) (t : List (String × String))
    (rest : List Char) :
    headerLines escape (h :: t) ++ rest = Frame.headerLine escape h ++ '\n' :: (headerLines escape t ++ rest) := by
  simp [headerLines]

/-- A blank line ends the header block. -/
theorem readHeaders_of_blank {escape : Bool} {text rest : List Char}
    (h : splitLine text = some ([], rest)) : readHeaders escape text = .ok ([], rest) := by
  rw [readHeaders]
  split
  · next hn => rw [h] at hn; cases hn
  · next line rest' hs =>
    rw [h] at hs
    obtain ⟨rfl, rfl⟩ := Prod.mk.inj (Option.some.inj hs).symm
    rfl

/-- A header line is read, then the rest of the block. -/
theorem readHeaders_cons {escape : Bool} {text line rest after : List Char}
    {hd : String × String} {hs : List (String × String)} (h : splitLine text = some (line, rest))
    (hne : line ≠ []) (hp : parseHeader escape line = .ok hd)
    (hr : readHeaders escape rest = .ok (hs, after)) :
    readHeaders escape text = .ok (hd :: hs, after) := by
  rw [readHeaders]
  split
  · next hn => rw [h] at hn; cases hn
  · next line' rest' hs' =>
    rw [h] at hs'
    obtain ⟨rfl, rfl⟩ := Prod.mk.inj (Option.some.inj hs').symm
    simp [hne, hp, hr]

/-- **Inverting a header read**: a block read as `hd :: hs` began with a non-blank line that
parses as `hd`, and the rest of it was read as `hs`. -/
theorem readHeaders_eq_ok_cons {escape : Bool} {text after : List Char} {hd : String × String}
    {hs : List (String × String)} (h : readHeaders escape text = .ok (hd :: hs, after)) :
    ∃ line rest, splitLine text = some (line, rest) ∧ line ≠ [] ∧
      parseHeader escape line = .ok hd ∧ readHeaders escape rest = .ok (hs, after) := by
  rw [readHeaders] at h
  split at h
  · cases h
  · next line rest hsplit =>
    refine ⟨line, rest, hsplit, ?_⟩
    split at h
    · cases h
    · next hne =>
      split at h
      · cases h
      · next hd' hp =>
        split at h
        · cases h
        · next hs' after' hr =>
          obtain ⟨⟨rfl, rfl⟩, rfl⟩ := Prod.mk.inj (Except.ok.inj h) |>.imp_left List.cons.inj
          exact ⟨by simpa using hne, hp, hr⟩

/-- **Written headers are read back**, and reading stops at the blank line after them. -/
theorem readHeaders_headerLines {escape : Bool} :
    ∀ {hs : List (String × String)}, (∀ h ∈ hs, HeaderSafe escape h) → ∀ rest : List Char,
      readHeaders escape (headerLines escape hs ++ '\n' :: rest) = .ok (hs, rest)
  | [], _, rest => readHeaders_of_blank (by simpa [stripCR] using @splitLine_append [] rest (by simp))
  | h :: t, hsafe, rest => by
    have hh := hsafe h List.mem_cons_self
    have ht := readHeaders_headerLines (fun x hx => hsafe x (List.mem_cons_of_mem _ hx)) rest
    rw [headerLines_cons_append]
    refine readHeaders_cons ?_ (headerLine_ne_nil _ _) (parseHeader_headerLine hh) ht
    rw [splitLine_append (lf_not_mem_headerLine hh), stripCR_of_getLast (getLast_headerLine hh)]

/-- **Written headers read back as themselves were safe**: under raw writing, each one is
`RawHeaderSafe`. The induction follows the header list, peeling one written line a step. -/
theorem headerSafe_of_readHeaders {escape : Bool} :
    ∀ {hs : List (String × String)} {rest after : List Char},
      readHeaders escape (headerLines escape hs ++ '\n' :: rest) = .ok (hs, after) →
      ∀ h ∈ hs, HeaderSafe escape h
  | [], _, _, _ => by simp
  | h :: t, rest, after, hr => by
    obtain ⟨line, rest', hsplit, -, hp, hr'⟩ := readHeaders_eq_ok_cons hr
    rw [headerLines_cons_append] at hsplit
    have hh : HeaderSafe escape h := by
      cases escape
      · exact Or.inr (rawHeaderSafe_of_parseHeader hsplit hp)
      · exact Or.inl rfl
    -- the first line read is the header's own line, so the rest is the remaining block
    rw [splitLine_append (lf_not_mem_headerLine hh), stripCR_of_getLast (getLast_headerLine hh)]
      at hsplit
    obtain ⟨-, rfl⟩ := Prod.mk.inj (Option.some.inj hsplit)
    intro x hx
    rcases List.mem_cons.1 hx with rfl | hx
    · exact hh
    · exact headerSafe_of_readHeaders hr' x hx

/-! ## The body -/

/-- A string's length in UTF-8 bytes is the sum of its characters' encoded sizes. -/
theorem utf8ByteSize_eq_sum (s : String) : s.utf8ByteSize = (s.toList.map Char.utf8Size).sum := by
  obtain ⟨l, rfl⟩ := s.exists_eq_ofList
  induction l with
  | nil => simp
  | cons c l ih => simp [String.ofList_cons, String.utf8ByteSize_singleton, ih]

/-- **Taking a text's own byte length** takes exactly that text. -/
theorem takeBytes_append : ∀ (body rest : List Char),
    takeBytes (body.map Char.utf8Size).sum (body ++ rest) = some (body, rest)
  | [], rest => by simp [takeBytes]
  | c :: cs, rest => by
    have hpos := c.utf8Size_pos
    have ih := takeBytes_append cs rest
    obtain ⟨k, hk⟩ : ∃ k, (List.map Char.utf8Size (c :: cs)).sum = k + 1 :=
      ⟨_, (Nat.succ_pred_eq_of_pos (by simp; omega)).symm⟩
    have hsum : (List.map Char.utf8Size (c :: cs)).sum = c.utf8Size + (cs.map Char.utf8Size).sum := by
      simp
    rw [hk, List.cons_append, takeBytes, if_pos (by omega), show k + 1 - c.utf8Size =
      (cs.map Char.utf8Size).sum by omega, ih]
    rfl

/-- **What a byte-counted read says of the text**: it is the characters taken, then the rest,
and what was taken has exactly the asked number of bytes. -/
theorem takeBytes_eq_some : ∀ {n : Nat} {cs body rest : List Char},
    takeBytes n cs = some (body, rest) → cs = body ++ rest ∧ (body.map Char.utf8Size).sum = n
  | 0, cs, body, rest, h => by
    simp only [takeBytes, Option.some.injEq, Prod.mk.injEq] at h
    obtain ⟨rfl, rfl⟩ := h
    simp
  | _ + 1, [], _, _, h => by simp [takeBytes] at h
  | n + 1, c :: cs, body, rest, h => by
    rw [takeBytes] at h
    split at h
    · next hle =>
      obtain ⟨⟨b, r⟩, hk, hp⟩ := Option.map_eq_some_iff.1 h
      obtain ⟨rfl, rfl⟩ := Prod.mk.inj hp
      obtain ⟨rfl, hsum⟩ := takeBytes_eq_some hk
      refine ⟨rfl, ?_⟩
      simp only [List.map_cons, List.sum_cons, hsum]
      omega
    · cases h

/-- Without a length, the body runs to the first NUL. -/
theorem splitBody_none_append {body rest : List Char} (h : '\x00' ∉ body) :
    splitBody none (body ++ '\x00' :: rest) = .ok (body, rest) := by
  simp [splitBody, dropWhile_ne_append h, takeWhile_ne_append h]

/-- With the body's own byte length, the body is read whole. -/
theorem splitBody_some_append (body rest : List Char) :
    splitBody (some (body.map Char.utf8Size).sum) (body ++ '\x00' :: rest) = .ok (body, rest) := by
  simp [splitBody, takeBytes_append]

theorem splitBody_none_eq_ok {text body after : List Char}
    (h : splitBody none text = .ok (body, after)) :
    '\x00' ∉ body ∧ text = body ++ '\x00' :: after := by
  simp only [splitBody] at h
  split at h
  · next x r hd =>
    obtain ⟨rfl, rfl⟩ := Prod.mk.inj (Except.ok.inj h)
    exact ⟨not_mem_takeWhile_ne _ _, (dropWhile_ne_eq_cons hd).2⟩
  · cases h

theorem splitBody_some_eq_ok {n : Nat} {text body after : List Char}
    (h : splitBody (some n) text = .ok (body, after)) :
    text = body ++ '\x00' :: after ∧ (body.map Char.utf8Size).sum = n := by
  simp only [splitBody] at h
  split at h
  · next b r hb =>
    obtain ⟨rfl, rfl⟩ := Prod.mk.inj (Except.ok.inj h)
    exact takeBytes_eq_some hb
  · cases h

/-- The content length is read from the header that `Frame.get` finds. -/
theorem contentLength_of_get_none {f : Frame} (h : f.get "content-length" = none) :
    contentLength f.headers = .ok none := by
  simp only [Frame.get, Option.map_eq_none_iff] at h
  simp [contentLength, h]

theorem contentLength_of_get_some {f : Frame} {v : String} {n : Nat}
    (h : f.get "content-length" = some v) (hn : parseUnsigned 64 (trimWhite v.toList) = some n) :
    contentLength f.headers = .ok (some n) := by
  obtain ⟨⟨k, v'⟩, hk, rfl⟩ := Option.map_eq_some_iff.1 h
  simp [contentLength, hk, hn]

theorem get_of_contentLength_none {f : Frame} (h : contentLength f.headers = .ok none) :
    f.get "content-length" = none := by
  unfold contentLength at h
  split at h
  · next hf => simp [Frame.get, hf]
  · split at h <;> cases h

theorem get_of_contentLength_some {f : Frame} {n : Nat}
    (h : contentLength f.headers = .ok (some n)) :
    ∃ v, f.get "content-length" = some v ∧ parseUnsigned 64 (trimWhite v.toList) = some n := by
  unfold contentLength at h
  split at h
  · cases h
  · next k v hf =>
    split at h
    · next m hm =>
      obtain rfl := Option.some.inj (Except.ok.inj h)
      exact ⟨v, by simp [Frame.get, hf], hm⟩
    · cases h

/-! ## Frames -/

theorem Command.parse_name (c : Command) : Command.parse c.name = some c := by
  cases c <;> rfl

theorem Command.lf_not_mem_name (c : Command) : '\n' ∉ c.name.toList := by
  cases c <;> decide

theorem Command.getLast_name (c : Command) : c.name.toList.getLast? ≠ some '\r' := by
  cases c <;> decide

/-- A command's name starts with a letter, so no end-of-line run stands before a frame. -/
theorem Command.name_eq_cons (c : Command) :
    ∃ x xs, c.name.toList = x :: xs ∧ x ≠ '\n' ∧ x ≠ '\r' := by
  cases c <;> exact ⟨_, _, rfl, by decide, by decide⟩

/-- A frame as written: command line, header block, blank line, body and NUL. -/
theorem Frame.render_append (f : Frame) (rest : List Char) :
    f.render ++ rest = f.command.name.toList ++ '\n' ::
      (headerLines f.command.escapesHeaders f.headers ++ '\n' :: (f.body.toList ++ '\x00' :: rest)) := by
  simp [Frame.render, headerLines]

/-- The command line of a written frame is its command's name. -/
theorem splitLine_render_append (f : Frame) (rest : List Char) :
    splitLine (f.render ++ rest) = some (f.command.name.toList,
      headerLines f.command.escapesHeaders f.headers ++ '\n' :: (f.body.toList ++ '\x00' :: rest)) := by
  rw [Frame.render_append, splitLine_append (Command.lf_not_mem_name _),
    stripCR_of_getLast (Command.getLast_name _)]

/-- **One frame is read** from its parts, each pass taking what the previous one left. -/
theorem decodeFrame_of_parts {text line rest rest' body after : List Char} {c : Command}
    {hs : List (String × String)} {len : Option Nat} (h1 : splitLine text = some (line, rest))
    (h2 : Command.parse (String.ofList line) = some c)
    (h3 : readHeaders c.escapesHeaders rest = .ok (hs, rest'))
    (h4 : contentLength hs = .ok len) (h5 : splitBody len rest' = .ok (body, after)) :
    decodeFrame text = .ok (⟨c, hs, String.ofList body⟩, after) := by
  simp [decodeFrame, h1, h2, h3, h4, h5]

/-- **Inverting a frame read**: each pass succeeded on what the previous one left. -/
theorem decodeFrame_eq_ok {text after : List Char} {g : Frame}
    (h : decodeFrame text = .ok (g, after)) :
    ∃ line rest rest' body len, splitLine text = some (line, rest) ∧
      Command.parse (String.ofList line) = some g.command ∧
      readHeaders g.command.escapesHeaders rest = .ok (g.headers, rest') ∧
      contentLength g.headers = .ok len ∧ splitBody len rest' = .ok (body, after) ∧
      g.body = String.ofList body := by
  unfold decodeFrame at h
  split at h
  · cases h
  · next line rest h1 =>
    split at h
    · cases h
    · next c h2 =>
      split at h
      · cases h
      · next hs rest' h3 =>
        split at h
        · cases h
        · next len h4 =>
          split at h
          · cases h
          · next body after' h5 =>
            obtain ⟨rfl, rfl⟩ := Prod.mk.inj (Except.ok.inj h)
            exact ⟨line, rest, rest', body, len, h1, h2, h3, h4, h5, rfl⟩

/-! ## Messages -/

theorem leadingEols_of_head {c : Char} (h1 : c ≠ '\n') (h2 : c ≠ '\r') (cs : List Char) :
    leadingEols (c :: cs) = (0, c :: cs) := by
  simp [leadingEols, h1, h2]

/-- No end-of-line run stands before a written frame. -/
theorem leadingEols_render_append (f : Frame) (rest : List Char) :
    leadingEols (f.render ++ rest) = (0, f.render ++ rest) := by
  obtain ⟨x, xs, hx, h1, h2⟩ := Command.name_eq_cons f.command
  rw [Frame.render_append, hx, List.cons_append, leadingEols_of_head h1 h2]

/-- **An end-of-line run is skipped**, and each LF in it counts. -/
theorem leadingEols_eols_append {e : List Char} (he : ∀ c ∈ e, c = '\r' ∨ c = '\n')
    (rest : List Char) :
    leadingEols (e ++ rest) = ((leadingEols rest).1 + e.count '\n', (leadingEols rest).2) := by
  induction e with
  | nil => simp
  | cons c e ih =>
    have ih := ih fun x hx => he x (List.mem_cons_of_mem _ hx)
    rcases he c List.mem_cons_self with rfl | rfl
    · simp [leadingEols, ih]
    · simp [leadingEols, ih]
      omega

/-- A text of end-of-line characters alone is heart-beats. -/
theorem decodeItems_of_rest_nil {text : List Char} (h : (leadingEols text).2 = []) :
    decodeItems text = .ok (List.replicate (leadingEols text).1 .heartbeat) := by
  rw [decodeItems]
  split
  · rfl
  · next hr => rw [h] at hr; cases hr

/-- **A frame after the heart-beats**, then the items of the rest. -/
theorem decodeItems_of_frame {c : Char} {text cs after : List Char} {n : Nat} {f : Frame}
    {items : List Incoming} (h : leadingEols text = (n, c :: cs))
    (hf : decodeFrame (c :: cs) = .ok (f, after)) (hr : decodeItems after = .ok items) :
    decodeItems text = .ok (List.replicate n .heartbeat ++ .frame f :: items) := by
  rw [decodeItems]
  split
  · next hr' => rw [h] at hr'; cases hr'
  · next c' cs' hr' =>
    rw [h] at hr'
    obtain ⟨rfl, rfl⟩ := List.cons.inj hr'.symm
    split
    · next e he => rw [hf] at he; cases he
    · next f' after' he =>
      rw [hf] at he
      obtain ⟨rfl, rfl⟩ := Prod.mk.inj (Except.ok.inj he).symm
      simp [h, hr]

/-- **Inverting a message read** past the heart-beats: a frame was read there, then the rest. -/
theorem decodeItems_eq_ok_frame {c : Char} {text cs : List Char} {n : Nat} {items : List Incoming}
    (h : leadingEols text = (n, c :: cs)) (hd : decodeItems text = .ok items) :
    ∃ f after items', decodeFrame (c :: cs) = .ok (f, after) ∧ decodeItems after = .ok items' ∧
      items = List.replicate n .heartbeat ++ .frame f :: items' := by
  rw [decodeItems] at hd
  split at hd
  · next hr' => rw [h] at hr'; cases hr'
  · next c' cs' hr' =>
    rw [h] at hr'
    obtain ⟨rfl, rfl⟩ := List.cons.inj hr'.symm
    split at hd
    · cases hd
    · next f after hf =>
      split at hd
      · cases hd
      · next items' hi =>
        refine ⟨f, after, items', hf, hi, ?_⟩
        simpa [h] using (Except.ok.inj hd).symm

/-- Decoding a message is reading its items, refused when there are none. -/
theorem decode_of_decodeItems {text : String} {items : List Incoming}
    (h : decodeItems text.toList = .ok items) :
    decode text = if items = [] then .error .empty else .ok items := by
  unfold decode
  split
  · next hn => rw [h] at hn; obtain rfl := Except.ok.inj hn; rfl
  · next hn =>
    rw [h] at hn ⊢
    cases items with
    | nil => exact absurd rfl hn
    | cons i is => rfl

theorem decodeItems_of_decode {text : String} {items : List Incoming}
    (h : decode text = .ok items) : decodeItems text.toList = .ok items := by
  unfold decode at h
  split at h
  · cases h
  · exact h

end Stomp

end StompConsole
