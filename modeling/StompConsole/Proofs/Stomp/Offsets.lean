import Mathlib
import StompConsole.Proofs.Stomp.Reading

/-!
# Where the decoder cuts a message

The decoder walks a message by cutting it: at the first LF of each line, at the first NUL of a
body without a length, and at a byte offset taken from the `content-length` header. This file
shows that every cut falls inside the text and between characters, whatever the offset.

* Every round of the message loop leaves a proper suffix of what it started from
  (`decodeFrame_suffix`, with `leadingEols_suffix` for the end-of-line run before a frame).
* A counted body is read exactly when the byte at the offset lies inside the text and is zero
  (`splitBody_some_eq_ok_iff_byte`), and is otherwise refused as unterminated
  (`splitBody_some_eq_error_iff`). No separate test that the offset falls between characters
  is needed: in UTF-8 a zero byte is always a whole NUL character
  (`eq_nul_of_zero_mem_utf8EncodeChar`), so a zero byte at the offset puts a character boundary
  there and one byte later (`exists_split_iff_getElem?_textBytes`).
* The body and what follows are then the bytes before the offset and those after the NUL
  (`textBytes_of_splitBody_some`).

The main statement is `decoder_cuts_within_text`.
-/

namespace StompConsole

namespace Stomp

/-! ## Bytes -/

/-- **The UTF-8 bytes of a text**, as the message carries them. -/
def textBytes (cs : List Char) : List UInt8 := cs.flatMap String.utf8EncodeChar

@[simp] theorem textBytes_nil : textBytes [] = [] := rfl

@[simp] theorem textBytes_cons (c : Char) (cs : List Char) :
    textBytes (c :: cs) = String.utf8EncodeChar c ++ textBytes cs := rfl

@[simp] theorem textBytes_append (l m : List Char) : textBytes (l ++ m) = textBytes l ++ textBytes m := by
  simp [textBytes]

/-- A text's byte count is the sum of its characters' encoded sizes. -/
theorem length_textBytes (cs : List Char) : (textBytes cs).length = (cs.map Char.utf8Size).sum := by
  induction cs with
  | nil => rfl
  | cons c cs ih => simp [ih]

theorem utf8EncodeChar_nul : String.utf8EncodeChar '\x00' = [0] := by decide

/-- **A zero byte is a whole NUL**: the bytes of a longer encoding all have the top bit set, and a
one-byte encoding is the character's own code. -/
theorem eq_nul_of_zero_mem_utf8EncodeChar {c : Char} (h : 0 ∈ String.utf8EncodeChar c) :
    c = '\x00' := by
  unfold String.utf8EncodeChar at h
  simp only at h
  split_ifs at h with h1 h2 h3 <;>
    simp only [List.mem_cons, List.not_mem_nil, or_false, UInt8.ext_iff, UInt8.toNat_ofNat',
      UInt8.toNat_zero] at h
  · apply Char.toNat_inj.1
    show c.val.toNat = 0
    omega
  all_goals omega

/-- **A zero byte marks a NUL between characters**: byte `n` of a text is zero exactly when the
text is some characters of `n` bytes, a NUL, and the rest. The induction walks the characters,
taking the first one's bytes off the offset. -/
theorem exists_split_iff_getElem?_textBytes {cs : List Char} {n : Nat} :
    (∃ body after, cs = body ++ '\x00' :: after ∧ (textBytes body).length = n) ↔
      (textBytes cs)[n]? = some 0 := by
  constructor
  · rintro ⟨body, after, rfl, rfl⟩
    simp [utf8EncodeChar_nul]
  · induction cs generalizing n with
    | nil => simp
    | cons c cs ih =>
      intro h
      rw [textBytes_cons] at h
      by_cases hn : n < (String.utf8EncodeChar c).length
      · -- the zero byte lies in the first character, which is then a one-byte NUL
        rw [List.getElem?_append_left hn] at h
        have hc := eq_nul_of_zero_mem_utf8EncodeChar (List.mem_of_getElem? h)
        subst hc
        rw [utf8EncodeChar_nul, List.length_singleton] at hn
        exact ⟨[], cs, rfl, by simp only [textBytes_nil, List.length_nil]; omega⟩
      · rw [List.getElem?_append_right (by omega)] at h
        obtain ⟨body, after, rfl, hlen⟩ := ih h
        refine ⟨c :: body, after, rfl, ?_⟩
        simp only [textBytes_cons, List.length_append, hlen]
        omega

/-! ## The counted body -/

/-- A counted body is cut where its bytes end, before a NUL. -/
theorem splitBody_some_eq_ok_iff {n : Nat} {rest body after : List Char} :
    splitBody (some n) rest = .ok (body, after) ↔
      rest = body ++ '\x00' :: after ∧ (textBytes body).length = n := by
  rw [length_textBytes]
  constructor
  · exact splitBody_some_eq_ok
  · rintro ⟨rfl, rfl⟩
    exact splitBody_some_append body after

/-- **The byte test alone decides a counted body**: it is read exactly when the byte at the offset
lies inside the text and is zero. -/
theorem splitBody_some_eq_ok_iff_byte {n : Nat} {rest : List Char} :
    (∃ body after, splitBody (some n) rest = .ok (body, after)) ↔
      n < (textBytes rest).length ∧ (textBytes rest)[n]? = some 0 := by
  simp only [splitBody_some_eq_ok_iff]
  rw [exists_split_iff_getElem?_textBytes]
  constructor
  · intro h
    exact ⟨(List.getElem?_eq_some_iff.1 h).1, h⟩
  · exact fun h => h.2

/-- A counted body that is not read is refused as unterminated, and for no other reason. -/
theorem splitBody_some_eq_error {n : Nat} {rest : List Char} {e : StompError}
    (h : splitBody (some n) rest = .error e) : e = .unterminated := by
  simp only [splitBody] at h
  split at h
  · cases h
  · exact (Except.error.inj h).symm

/-- **A counted body is refused exactly when the byte test fails**: the byte at the offset lies
past the end of the text or is not zero. The read either succeeds or is refused as unterminated. -/
theorem splitBody_some_eq_error_iff {n : Nat} {rest : List Char} {e : StompError} :
    splitBody (some n) rest = .error e ↔
      e = .unterminated ∧ ((textBytes rest).length ≤ n ∨ (textBytes rest)[n]? ≠ some 0) := by
  have hbyte := (@splitBody_some_eq_ok_iff_byte n rest).not
  constructor
  · intro h
    refine ⟨splitBody_some_eq_error h, ?_⟩
    have hno : ¬ ∃ body after, splitBody (some n) rest = .ok (body, after) := by
      rintro ⟨body, after, hb⟩
      rw [hb] at h
      cases h
    simpa only [not_and_or, not_lt] using hbyte.1 hno
  · rintro ⟨rfl, hfail⟩
    cases hs : splitBody (some n) rest with
    | error e' => rw [splitBody_some_eq_error hs]
    | ok p =>
      obtain ⟨body, after⟩ := p
      obtain ⟨hlt, hz⟩ := splitBody_some_eq_ok_iff_byte.1 ⟨body, after, hs⟩
      rcases hfail with hle | hne
      · omega
      · exact absurd hz hne

/-- **The body and what follows are byte slices**: the bytes before the offset, and those after
the NUL at it. -/
theorem textBytes_of_splitBody_some {n : Nat} {rest body after : List Char}
    (h : splitBody (some n) rest = .ok (body, after)) :
    textBytes body = (textBytes rest).take n ∧ textBytes after = (textBytes rest).drop (n + 1) := by
  obtain ⟨rfl, rfl⟩ := splitBody_some_eq_ok_iff.1 h
  simp [utf8EncodeChar_nul, List.drop_append]

/-! ## Progress -/

/-- The end-of-line run before a frame is cut from the front. -/
theorem leadingEols_suffix : ∀ text : List Char, (leadingEols text).2 <:+ text
  | [] => List.suffix_refl _
  | c :: cs => by
    have ih := leadingEols_suffix cs
    simp only [leadingEols]
    split
    · exact ih.trans (List.suffix_cons c cs)
    · split
      · exact ih.trans (List.suffix_cons c cs)
      · exact List.suffix_refl _

theorem splitLine_suffix {text line rest : List Char} (h : splitLine text = some (line, rest)) :
    rest <:+ text := by
  obtain ⟨raw, -, rfl, -⟩ := splitLine_eq_some h
  exact (List.suffix_cons _ _).trans (List.suffix_append raw _)

/-- The header block is cut from the front, one line a round. -/
theorem readHeaders_suffix {escape : Bool} {text after : List Char} {hs : List (String × String)}
    (h : readHeaders escape text = .ok (hs, after)) : after <:+ text := by
  fun_induction readHeaders escape text generalizing hs with
  | case1 => cases h
  | case2 x line rest hsplit =>
    obtain ⟨-, rfl⟩ := Prod.mk.inj (Except.ok.inj h)
    exact splitLine_suffix hsplit
  | case3 => cases h
  | case4 => cases h
  | case5 x line rest hsplit _ _ _ _ _ hr ih =>
    obtain ⟨-, rfl⟩ := Prod.mk.inj (Except.ok.inj h)
    exact (ih hr).trans (splitLine_suffix hsplit)

theorem splitBody_suffix {len : Option Nat} {rest body after : List Char}
    (h : splitBody len rest = .ok (body, after)) : after <:+ rest := by
  have hr : rest = body ++ '\x00' :: after := by
    cases len with
    | none => exact (splitBody_none_eq_ok h).2
    | some n => exact (splitBody_some_eq_ok h).1
  rw [hr]
  exact (List.suffix_cons _ _).trans (List.suffix_append body _)

/-- **A frame is cut from the front**: what follows it is a proper suffix of the text. -/
theorem decodeFrame_suffix {text after : List Char} {f : Frame}
    (h : decodeFrame text = .ok (f, after)) : after <:+ text ∧ after.length < text.length := by
  obtain ⟨line, rest, rest', body, len, h1, -, h3, -, h5, -⟩ := decodeFrame_eq_ok h
  exact ⟨(splitBody_suffix h5).trans ((readHeaders_suffix h3).trans (splitLine_suffix h1)),
    decodeFrame_length_lt h⟩

/-- **Every cut of the decoder falls inside the text and between characters.**

* A round of the message loop (the end-of-line run, then a frame) leaves a proper suffix of the
  text it started from, so the loop ends.
* A line is cut at an LF: the text is an LF-free stretch, the LF and the rest, and the line is
  that stretch less one trailing CR.
* A body counted by `n` bytes, for any `n`, is refused (as unterminated, and only so) exactly
  when byte `n` of the text lies past its end or is not zero; there is no third condition on
  where characters begin.
* A counted body that is read has exactly the bytes before the offset, and what follows it
  exactly the bytes after the NUL. -/
theorem decoder_cuts_within_text :
    (∀ text c cs f after, (leadingEols text).2 = c :: cs → decodeFrame (c :: cs) = .ok (f, after) →
      after <:+ text ∧ after.length < text.length) ∧
    (∀ text line rest, splitLine text = some (line, rest) →
      ∃ raw, '\n' ∉ raw ∧ text = raw ++ '\n' :: rest ∧ line = stripCR raw) ∧
    (∀ n rest e, splitBody (some n) rest = .error e ↔
      e = .unterminated ∧ ((textBytes rest).length ≤ n ∨ (textBytes rest)[n]? ≠ some 0)) ∧
    (∀ n rest body after, splitBody (some n) rest = .ok (body, after) →
      textBytes body = (textBytes rest).take n ∧
        textBytes after = (textBytes rest).drop (n + 1)) := by
  refine ⟨fun text c cs f after he hf => ?_, fun _ _ _ => splitLine_eq_some,
    fun _ _ _ => splitBody_some_eq_error_iff, fun _ _ _ _ => textBytes_of_splitBody_some⟩
  obtain ⟨hsuf, hlt⟩ := decodeFrame_suffix hf
  have hrun := leadingEols_suffix text
  rw [he] at hrun
  exact ⟨hsuf.trans hrun, lt_of_lt_of_le hlt hrun.length_le⟩

/-- A length that ends inside a two-byte character is refused, though its byte count is within the
text; the length of the whole character is read. -/
example : splitBody (some 1) ['é', '\x00'] = .error .unterminated ∧
    splitBody (some 2) ['é', '\x00'] = .ok (['é'], []) := by decide

end Stomp

end StompConsole
