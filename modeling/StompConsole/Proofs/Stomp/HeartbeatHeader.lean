import Mathlib
import StompConsole.Stomp.Frame

/-!
# Reading and writing the heart-beat header

A `heart-beat` value is two intervals separated by a comma. This file states the reader's grammar
in its own terms and proves the reader follows it (`parse_eq_some_iff`): the text splits at its
first comma, and each side is white space, an optional `+`, one or more ASCII digits, and white
space again, with a value below `2 ^ 64`; what follows the first comma may hold no second one.
The writer prints both intervals in decimal with a comma between them, which is in that grammar,
so every pair of 64-bit intervals reads back as itself (`parse_toHeader`).
-/

namespace StompConsole

namespace Text

open Unicode

/-! ## Unsigned numbers -/

/-- **A decimal number as written**: an optional `+`, then one or more ASCII digits, whose
decimal value is `n`. -/
def DecimalText (cs : List Char) (n : Nat) : Prop :=
  ∃ ds, (cs = ds ∨ cs = '+' :: ds) ∧ ds ≠ [] ∧ (∀ c ∈ ds, c.isDigit) ∧
    n = Nat.ofDigitChars 10 ds 0

theorem digitsValue_eq_some_iff (ds : List Char) (n : Nat) :
    digitsValue ds = some n ↔ ds ≠ [] ∧ (∀ c ∈ ds, c.isDigit) ∧ n = Nat.ofDigitChars 10 ds 0 := by
  unfold digitsValue
  by_cases h : ds ≠ [] ∧ ds.all Char.isDigit = true
  · rw [if_pos h]
    have hall : ∀ c ∈ ds, c.isDigit := by simpa using h.2
    constructor
    · intro hn
      exact ⟨h.1, hall, (Option.some.inj hn).symm⟩
    · rintro ⟨-, -, rfl⟩
      rfl
  · rw [if_neg h]
    simp only [reduceCtorEq, false_iff, not_and]
    intro hne hall _
    exact h ⟨hne, by simpa using hall⟩

/-- A plus sign is no digit. -/
theorem plus_not_isDigit : ¬ ('+' : Char).isDigit := by decide

/-- The reader's steps: a leading plus sign is dropped, then digits are read, and their value must
be below the bound. -/
theorem parseUnsigned_plus (bits : Nat) (ds : List Char) :
    parseUnsigned bits ('+' :: ds) =
      (digitsValue ds).bind fun m => if m < 2 ^ bits then some m else none := by
  simp only [parseUnsigned, Nat.pow_eq]
  cases digitsValue ds <;> rfl

theorem parseUnsigned_of_head {bits : Nat} {cs : List Char} (hh : cs.head? ≠ some '+') :
    parseUnsigned bits cs = (digitsValue cs).bind fun m => if m < 2 ^ bits then some m else none := by
  unfold parseUnsigned
  split
  · simp at hh
  · simp only [Nat.pow_eq]
    cases digitsValue cs <;> rfl

theorem bind_bound_eq_some_iff {bits : Nat} {o : Option Nat} {n : Nat} :
    (o.bind fun m => if m < 2 ^ bits then some m else none) = some n ↔ o = some n ∧ n < 2 ^ bits := by
  cases o with
  | none => simp
  | some m =>
    by_cases hm : m < 2 ^ bits
    · simp only [Option.bind_some, hm, if_true, Option.some.injEq]
      exact ⟨fun h => ⟨h, h ▸ hm⟩, And.left⟩
    · simp only [Option.bind_some, hm, if_false, reduceCtorEq, Option.some.injEq, false_iff, not_and]
      rintro rfl
      exact hm

/-- After a plus sign come the digits. -/
theorem decimalText_plus_iff {ds : List Char} {n : Nat} :
    DecimalText ('+' :: ds) n ↔ ds ≠ [] ∧ (∀ c ∈ ds, c.isDigit) ∧ n = Nat.ofDigitChars 10 ds 0 := by
  constructor
  · rintro ⟨ds', (rfl | hds), hne, hall, hn⟩
    · exact absurd (hall '+' (by simp)) plus_not_isDigit
    · obtain rfl := (List.cons.inj hds).2
      exact ⟨hne, hall, hn⟩
  · exact fun h => ⟨ds, Or.inr rfl, h⟩

/-- Without a plus sign first, the whole text is the digits. -/
theorem decimalText_iff_of_head {cs : List Char} {n : Nat} (hh : cs.head? ≠ some '+') :
    DecimalText cs n ↔ cs ≠ [] ∧ (∀ c ∈ cs, c.isDigit) ∧ n = Nat.ofDigitChars 10 cs 0 := by
  constructor
  · rintro ⟨ds, (rfl | rfl), hne, hall, hn⟩
    · exact ⟨hne, hall, hn⟩
    · simp at hh
  · exact fun h => ⟨cs, Or.inl rfl, h⟩

/-- **The number reader**: it accepts exactly a decimal number as written whose value fits in
`bits` bits. -/
theorem parseUnsigned_eq_some_iff (bits : Nat) (cs : List Char) (n : Nat) :
    parseUnsigned bits cs = some n ↔ DecimalText cs n ∧ n < 2 ^ bits := by
  -- a leading plus sign, or digits from the first character on
  by_cases hplus : cs.head? = some '+'
  · obtain ⟨ds, rfl⟩ := List.head?_eq_some_iff.1 hplus
    rw [parseUnsigned_plus, bind_bound_eq_some_iff, digitsValue_eq_some_iff, decimalText_plus_iff]
  · rw [parseUnsigned_of_head hplus, bind_bound_eq_some_iff, digitsValue_eq_some_iff,
      decimalText_iff_of_head hplus]

/-! ## White space around a number -/

/-- `cs` is `core` with white space on either side. -/
def Padded (cs core : List Char) : Prop :=
  ∃ lead trail, cs = lead ++ core ++ trail ∧ (∀ c ∈ lead, isWhiteSpace c) ∧
    ∀ c ∈ trail, isWhiteSpace c

/-- Trimming strips white space and nothing else. -/
theorem padded_trimWhite (cs : List Char) : Padded cs (trimWhite cs) := by
  -- white space is dropped from the front, and then from the back of what is left
  let rest := cs.dropWhile isWhiteSpace
  let back := rest.reverse.takeWhile isWhiteSpace
  have hcs : cs = cs.takeWhile isWhiteSpace ++ rest := (List.takeWhile_append_dropWhile).symm
  have hrest : rest = trimWhite cs ++ back.reverse := by
    have h := (List.takeWhile_append_dropWhile (p := isWhiteSpace) (l := rest.reverse)).symm
    calc rest = rest.reverse.reverse := (List.reverse_reverse _).symm
      _ = (back ++ rest.reverse.dropWhile isWhiteSpace).reverse := congrArg List.reverse h
      _ = trimWhite cs ++ back.reverse := by rw [List.reverse_append]; rfl
  refine ⟨cs.takeWhile isWhiteSpace, back.reverse, ?_, fun c hc => ?_, fun c hc => ?_⟩
  · rw [List.append_assoc, ← hrest]
    exact hcs
  · exact List.mem_takeWhile_imp hc
  · exact List.mem_takeWhile_imp (List.mem_reverse.1 hc)

/-- Around a core that starts and ends with something other than white space, trimming leaves
exactly the core. -/
theorem trimWhite_of_padded {cs core : List Char} (hp : Padded cs core)
    (hcore : ∀ c ∈ core, isWhiteSpace c = false) : trimWhite cs = core := by
  obtain ⟨lead, trail, rfl, hlead, htrail⟩ := hp
  cases core with
  | nil =>
    have hall : ∀ c ∈ lead ++ trail, isWhiteSpace c := by
      intro c hc
      rcases List.mem_append.1 hc with hc | hc
      · exact hlead c hc
      · exact htrail c hc
    simp [trimWhite, List.dropWhile_eq_nil_iff.2 hall]
  | cons c cs =>
    have hc : ¬ isWhiteSpace c := by simp [hcore c (by simp)]
    have hlast : ¬ isWhiteSpace ((c :: cs).getLast (by simp)) := by
      simp [hcore _ (List.getLast_mem _)]
    have hfront : (lead ++ (c :: cs) ++ trail).dropWhile isWhiteSpace = c :: cs ++ trail := by
      rw [List.append_assoc, List.dropWhile_append_of_pos hlead, List.cons_append,
        List.dropWhile_cons_of_neg hc]
    -- from the back, the trailing white space goes and the core's last character stops the drop
    obtain ⟨init, x, hx⟩ : ∃ init x, c :: cs = init ++ [x] :=
      ⟨(c :: cs).dropLast, (c :: cs).getLast (by simp), (List.dropLast_append_getLast _).symm⟩
    have hx' : ¬ isWhiteSpace x := by
      have : (c :: cs).getLast (by simp) = x := by simp [hx]
      exact this ▸ hlast
    have hback : (c :: cs ++ trail).reverse.dropWhile isWhiteSpace = (c :: cs).reverse := by
      rw [List.reverse_append, List.dropWhile_append_of_pos (by simpa using htrail), hx,
        List.reverse_append, List.reverse_singleton, List.singleton_append,
        List.dropWhile_cons_of_neg hx']
    rw [trimWhite, hfront, hback, List.reverse_reverse]

/-- Digits and the plus sign are not white space. -/
theorem isWhiteSpace_of_isDigit {c : Char} (h : c.isDigit) : isWhiteSpace c = false := by
  rw [Char.isDigit_iff_toNat] at h
  simp only [isWhiteSpace, inRanges, whiteSpaceRanges, List.any_cons, List.any_nil]
  simp only [Char.reduceToNat] at h
  simp only [Bool.or_eq_false_iff, Bool.and_eq_false_iff, decide_eq_false_iff_not, not_le,
    and_true]
  omega

theorem DecimalText.not_whiteSpace {cs : List Char} {n : Nat} (h : DecimalText cs n) :
    ∀ c ∈ cs, isWhiteSpace c = false := by
  obtain ⟨ds, hcs, -, hall, -⟩ := h
  have hds : ∀ c ∈ ds, isWhiteSpace c = false := fun c hc => isWhiteSpace_of_isDigit (hall c hc)
  rcases hcs with rfl | rfl
  · exact hds
  · intro c hc
    rcases List.mem_cons.1 hc with rfl | hc
    · decide
    · exact hds c hc

end Text

namespace Stomp

namespace Heartbeat

open Text Unicode

/-- **One interval of the header**: a 64-bit decimal number as written, with white space on
either side. -/
def FieldText (cs : List Char) (n : Nat) : Prop :=
  ∃ core, Padded cs core ∧ DecimalText core n ∧ n < 2 ^ 64

theorem parseField_eq_some_iff (cs : List Char) (n : Nat) :
    parseField cs = some n ↔ FieldText cs n := by
  rw [parseField, parseUnsigned_eq_some_iff]
  constructor
  · rintro ⟨ht, hn⟩
    exact ⟨trimWhite cs, padded_trimWhite cs, ht, hn⟩
  · rintro ⟨core, hp, ht, hn⟩
    rw [trimWhite_of_padded hp ht.not_whiteSpace]
    exact ⟨ht, hn⟩

/-- The reader splits the text at its first comma. -/
theorem span_of_first_comma {cs a b : List Char} (hcs : cs = a ++ ',' :: b) (ha : ',' ∉ a) :
    cs.span (· != ',') = (a, ',' :: b) := by
  have hall : ∀ c ∈ a, (c != ',') = true := by
    intro c hc
    have : c ≠ ',' := fun h => ha (h ▸ hc)
    simpa using this
  subst hcs
  rw [List.span_eq_takeWhile_dropWhile, List.takeWhile_append_of_pos hall,
    List.dropWhile_append_of_pos hall]
  simp

/-- What the split gives back: the part before the first comma, and the rest from that comma. -/
theorem eq_of_span {cs a rest : List Char} (h : cs.span (· != ',') = (a, rest)) :
    cs = a ++ rest ∧ ',' ∉ a ∧ ∀ c r, rest = c :: r → c = ',' := by
  rw [List.span_eq_takeWhile_dropWhile, Prod.mk.injEq] at h
  obtain ⟨rfl, rfl⟩ := h
  refine ⟨List.takeWhile_append_dropWhile.symm, fun hc => ?_, fun c r hr => ?_⟩
  · have := List.mem_takeWhile_imp hc
    simp at this
  · have := List.head?_dropWhile_not (· != ',') cs
    simp only [hr, List.head?_cons, bne_eq_false_iff_eq] at this
    exact this

/-- **Reading a heart-beat header.** The reader accepts a text exactly when it has a comma, and
the text before the first comma and the text after it are each a 64-bit decimal number (an
optional `+` and ASCII digits) with white space on either side; the intervals are those two
numbers, outgoing first. -/
theorem parse_eq_some_iff (v : String) (h : Heartbeat) :
    parse v = some h ↔ ∃ a b, v.toList = a ++ ',' :: b ∧ ',' ∉ a ∧
      FieldText a h.outgoing ∧ FieldText b h.incoming := by
  constructor
  · intro hp
    unfold parse at hp
    split at hp
    · next a _ b hspan =>
      obtain ⟨hv, ha, hcomma⟩ := eq_of_span hspan
      obtain rfl := hcomma _ _ rfl
      cases hx : parseField a with
      | none => simp [hx] at hp
      | some x =>
        cases hy : parseField b with
        | none => simp [hx, hy] at hp
        | some y =>
          simp only [hx, hy, Option.some.injEq] at hp
          subst hp
          exact ⟨a, b, hv, ha, (parseField_eq_some_iff a x).1 hx, (parseField_eq_some_iff b y).1 hy⟩
    · cases hp
  · rintro ⟨a, b, hv, ha, hx, hy⟩
    unfold parse
    rw [span_of_first_comma hv ha]
    dsimp only
    rw [(parseField_eq_some_iff a _).2 hx,
      (parseField_eq_some_iff b _).2 hy]

/-- The decimal digits of a number, as written, are a decimal number as written. -/
theorem decimalText_toDigits (n : Nat) : DecimalText (Nat.toDigits 10 n) n :=
  ⟨_, Or.inl rfl, Nat.toDigits_ne_nil, fun _ hc => Nat.isDigit_of_mem_toDigits (by decide)
    (by decide) hc, Nat.ofDigitChars_ten_toDigits.symm⟩

/-- **Every pair of 64-bit intervals reads back as itself.** -/
theorem parse_toHeader (a b : UInt64) :
    parse (toHeader ⟨a.toNat, b.toNat⟩) = some ⟨a.toNat, b.toNat⟩ := by
  have hfield : ∀ x : UInt64, FieldText (Nat.toDigits 10 x.toNat) x.toNat := fun x =>
    ⟨_, ⟨[], [], by simp, by simp, by simp⟩, decimalText_toDigits _, x.toNat_lt⟩
  have hcomma : ',' ∉ Nat.toDigits 10 a.toNat := fun h => by
    have := Nat.isDigit_of_mem_toDigits (by decide) (by decide) h
    exact absurd this (by decide)
  refine (parse_eq_some_iff _ _).2 ⟨_, _, ?_, hcomma, hfield a, hfield b⟩
  simp [toHeader]

/-- **The heart-beat header, read and written.** A text reads as intervals exactly when it splits at
its first comma into two 64-bit decimal numbers, each an optional `+` and ASCII digits with white
space around it, and the intervals are their values; and every pair of 64-bit intervals, written,
reads back as itself. -/
theorem parse_fields_and_written_header :
    (∀ (v : String) (h : Heartbeat), parse v = some h ↔ ∃ a b, v.toList = a ++ ',' :: b ∧
      ',' ∉ a ∧ FieldText a h.outgoing ∧ FieldText b h.incoming) ∧
    ∀ a b : UInt64, parse (toHeader ⟨a.toNat, b.toNat⟩) = some ⟨a.toNat, b.toNat⟩ :=
  ⟨parse_eq_some_iff, parse_toHeader⟩

example : parse " 10 , +20 " = some ⟨10, 20⟩ := by decide

example : parse "1,2,3" = none := by decide

end Heartbeat

end Stomp

end StompConsole
