import StompConsole.Stomp.Frame
import StompConsole.Text.Basic

/-!
# Decoding text messages

One text message carries any number of frames, each possibly preceded by end-of-line characters.
Decoding walks the message left to right:

1. a run of CR and LF before a frame is dropped, and each LF in it is one heart-beat;
2. the command line and the header lines end at an LF, and one CR before that LF is dropped;
3. the command must be one of the fifteen names exactly;
4. a header line splits at its first colon; names and values are unescaped unless the command
   is a connection-opening one;
5. the first `content-length` header, trimmed, must be an unsigned number: the body is then that
   many bytes of UTF-8 and must be followed by NUL; without it, the body runs to the first NUL.

A message with no frame and no heart-beat is refused as empty. Every step consumes at least one
character, which is what makes the walk terminate (`decodeFrame_length_lt`).
-/

namespace StompConsole.Stomp

open Text

/-- Why a text message is not a sequence of frames. -/
inductive StompError where
  /-- The message holds neither a frame nor a heart-beat. -/
  | empty
  /-- The command line names no command. -/
  | unknownCommand (line : String)
  /-- A header line has no colon. -/
  | malformedHeader (line : String)
  /-- A header name or value holds a backslash that starts no escape. -/
  | invalidEscape (field : String)
  /-- The `content-length` header is not an unsigned number. -/
  | invalidContentLength (value : String)
  /-- A line has no LF, or the body has no NUL where it should end. -/
  | unterminated
  deriving DecidableEq, Repr

/-- The text of a decoding error. -/
def StompError.message : StompError → String
  | .empty => "empty frame"
  | .unknownCommand line => "unknown command " ++ quoteString line
  | .malformedHeader line => "malformed header line " ++ quoteString line
  | .invalidEscape field => "invalid escape sequence in header " ++ quoteString field
  | .invalidContentLength value => "invalid content-length " ++ quoteString value
  | .unterminated => "frame is missing its NUL terminator"

/-! ## Lines -/

/-- `line` without one trailing CR. -/
def stripCR (line : List Char) : List Char :=
  if line.getLast? = some '\r' then line.dropLast else line

/-- **One line**: the text before the first LF (without one trailing CR), and the text after
that LF; `none` when there is no LF. -/
def splitLine (text : List Char) : Option (List Char × List Char) :=
  match text.dropWhile (· != '\n') with
  | [] => none
  | _ :: rest => some (stripCR (text.takeWhile (· != '\n')), rest)

/-- What follows a line is shorter than the text. -/
theorem splitLine_length_lt {text line rest : List Char}
    (h : splitLine text = some (line, rest)) : rest.length < text.length := by
  unfold splitLine at h
  have hle := (List.dropWhile_suffix (· != '\n') (l := text)).length_le
  split at h
  · cases h
  · next x r hd =>
    cases h
    rw [hd] at hle
    simp only [List.length_cons] at hle
    omega

/-! ## Headers -/

/-- **One header line**: split at the first colon, then unescaped if `unescape`; the name is
checked before the value. -/
def parseHeader (unescape : Bool) (line : List Char) : Except StompError (String × String) :=
  match line.dropWhile (· != ':') with
  | [] => .error (.malformedHeader (String.ofList line))
  | _ :: value =>
    let name := line.takeWhile (· != ':')
    if unescape then
      match unescapeChars name with
      | none => .error (.invalidEscape (String.ofList name))
      | some n =>
        match unescapeChars value with
        | none => .error (.invalidEscape (String.ofList value))
        | some v => .ok (String.ofList n, String.ofList v)
    else .ok (String.ofList name, String.ofList value)

/-- **The header block**: header lines up to the first empty line, and the text after it. -/
def readHeaders (unescape : Bool) (text : List Char) :
    Except StompError (List (String × String) × List Char) :=
  match h : splitLine text with
  | none => .error .unterminated
  | some (line, rest) =>
    if line.isEmpty then .ok ([], rest)
    else
      match parseHeader unescape line with
      | .error e => .error e
      | .ok header =>
        match readHeaders unescape rest with
        | .error e => .error e
        | .ok (headers, after) => .ok (header :: headers, after)
termination_by text.length
decreasing_by exact splitLine_length_lt h

/-- What follows the header block is shorter than the text (by induction on a bound `n` of the
text's length). -/
theorem readHeaders_length_lt_of_lt {unescape : Bool} :
    ∀ (n : Nat) {text : List Char} {headers : List (String × String)} {after : List Char},
    text.length < n → readHeaders unescape text = .ok (headers, after) →
    after.length < text.length
  | 0, _, _, _, hn, _ => absurd hn (Nat.not_lt_zero _)
  | n + 1, text, headers, after, hn, h => by
    rw [readHeaders] at h
    split at h
    · cases h
    · next line rest hs =>
      have hlt := splitLine_length_lt hs
      split at h
      · cases h; exact hlt
      · split at h
        · cases h
        · split at h
          · cases h
          · next hr =>
            cases h
            have := readHeaders_length_lt_of_lt n (by omega) hr
            omega

/-- What follows the header block is shorter than the text. -/
theorem readHeaders_length_lt {unescape : Bool} {text : List Char}
    {headers : List (String × String)} {after : List Char}
    (h : readHeaders unescape text = .ok (headers, after)) : after.length < text.length :=
  readHeaders_length_lt_of_lt (text.length + 1) (Nat.lt_succ_self _) h

/-! ## Body -/

/-- The `content-length` of a header list: the first such header, trimmed and read as an
unsigned 64-bit number. -/
def contentLength (headers : List (String × String)) : Except StompError (Option Nat) :=
  match headers.find? (·.1 == "content-length") with
  | none => .ok none
  | some (_, v) =>
    match parseUnsigned 64 (trimWhite v.toList) with
    | some n => .ok (some n)
    | none => .error (.invalidContentLength v)

/-- **A byte prefix**: the characters whose UTF-8 encoding is exactly the first `n` bytes, and
the rest; `none` when the text is shorter or byte `n` falls inside a character. -/
def takeBytes : Nat → List Char → Option (List Char × List Char)
  | 0, cs => some ([], cs)
  | _ + 1, [] => none
  | n + 1, c :: cs =>
    if c.utf8Size ≤ n + 1 then
      (takeBytes (n + 1 - c.utf8Size) cs).map fun p => (c :: p.1, p.2)
    else none

theorem takeBytes_length_le :
    ∀ {n : Nat} {cs body rest : List Char}, takeBytes n cs = some (body, rest) →
    rest.length ≤ cs.length
  | 0, cs, body, rest, h => by
    simp only [takeBytes, Option.some.injEq, Prod.mk.injEq] at h
    obtain ⟨-, rfl⟩ := h
    exact Nat.le_refl _
  | _ + 1, [], _, _, h => by simp [takeBytes] at h
  | n + 1, c :: cs, body, rest, h => by
    simp only [takeBytes] at h
    split at h
    · cases hk : takeBytes (n + 1 - c.utf8Size) cs with
      | none => rw [hk] at h; cases h
      | some p =>
        obtain ⟨b, r⟩ := p
        rw [hk] at h
        simp only [Option.map_some, Option.some.injEq, Prod.mk.injEq] at h
        obtain ⟨-, rfl⟩ := h
        have := takeBytes_length_le hk
        simp only [List.length_cons]
        omega
    · cases h

/-- **The body** and the text after its NUL, given the content length if there is one. -/
def splitBody (len : Option Nat) (rest : List Char) : Except StompError (List Char × List Char) :=
  match len with
  | some n =>
    match takeBytes n rest with
    | some (body, '\x00' :: after) => .ok (body, after)
    | _ => .error .unterminated
  | none =>
    match rest.dropWhile (· != '\x00') with
    | _ :: after => .ok (rest.takeWhile (· != '\x00'), after)
    | [] => .error .unterminated

theorem splitBody_length_lt {len : Option Nat} {rest body after : List Char}
    (h : splitBody len rest = .ok (body, after)) : after.length < rest.length := by
  unfold splitBody at h
  split at h
  · split at h
    · next hb =>
      cases h
      have := takeBytes_length_le hb
      simp only [List.length_cons] at this
      omega
    · cases h
  · split at h
    · next hd =>
      cases h
      have := (List.dropWhile_suffix (· != '\x00') (l := rest)).length_le
      rw [hd] at this
      simp only [List.length_cons] at this
      omega
    · cases h

/-! ## Frames and messages -/

/-- **One frame** from the front of `text`, and the text after its NUL. -/
def decodeFrame (text : List Char) : Except StompError (Frame × List Char) :=
  match splitLine text with
  | none => .error .unterminated
  | some (commandLine, rest) =>
    match Command.parse (String.ofList commandLine) with
    | none => .error (.unknownCommand (String.ofList commandLine))
    | some command =>
      match readHeaders command.escapesHeaders rest with
      | .error e => .error e
      | .ok (headers, rest) =>
        match contentLength headers with
        | .error e => .error e
        | .ok len =>
          match splitBody len rest with
          | .error e => .error e
          | .ok (body, after) => .ok (⟨command, headers, String.ofList body⟩, after)

/-- **Progress**: what follows a decoded frame is shorter than the text it came from. -/
theorem decodeFrame_length_lt {text after : List Char} {f : Frame}
    (h : decodeFrame text = .ok (f, after)) : after.length < text.length := by
  unfold decodeFrame at h
  split at h
  · cases h
  · next commandLine rest hs =>
    have h1 := splitLine_length_lt hs
    split at h
    · cases h
    · split at h
      · cases h
      · next headers rest2 hr =>
        have h2 := readHeaders_length_lt hr
        split at h
        · cases h
        · split at h
          · cases h
          · next body after2 hb =>
            cases h
            have h3 := splitBody_length_lt hb
            omega

/-- The run of CR and LF at the front of a text: how many LFs it holds, and what follows it. -/
def leadingEols : List Char → Nat × List Char
  | [] => (0, [])
  | c :: cs =>
    if c = '\n' then ((leadingEols cs).1 + 1, (leadingEols cs).2)
    else if c = '\r' then leadingEols cs
    else (0, c :: cs)

theorem leadingEols_length_le : ∀ cs : List Char, (leadingEols cs).2.length ≤ cs.length
  | [] => Nat.le_refl _
  | c :: cs => by
    have := leadingEols_length_le cs
    simp only [leadingEols]
    split
    · simp only [List.length_cons]; omega
    · split
      · simp only [List.length_cons]; omega
      · exact Nat.le_refl _

/-- **The items of a text**: heart-beats and frames in order, or the first error. -/
def decodeItems (text : List Char) : Except StompError (List Incoming) :=
  let beats := List.replicate (leadingEols text).1 Incoming.heartbeat
  match hr : (leadingEols text).2 with
  | [] => .ok beats
  | c :: cs =>
    match hf : decodeFrame (c :: cs) with
    | .error e => .error e
    | .ok (f, after) =>
      match decodeItems after with
      | .error e => .error e
      | .ok items => .ok (beats ++ .frame f :: items)
termination_by text.length
decreasing_by
  have h1 := decodeFrame_length_lt hf
  have h2 := leadingEols_length_le text
  rw [hr] at h2
  omega

/-- **Decoding a text message**: its heart-beats and frames, in order. A message that holds
neither is refused as `empty`. -/
def decode (text : String) : Except StompError (List Incoming) :=
  match decodeItems text.toList with
  | .ok [] => .error .empty
  | r => r

/-- Whether decoding the encoding of `f` gives back exactly `f`, alone. -/
def Frame.roundTrips (f : Frame) : Bool :=
  match decode f.encode with
  | .ok [.frame g] => g == f
  | _ => false

end StompConsole.Stomp
