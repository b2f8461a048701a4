import Mathlib
import StompConsole.Stomp.Frame

/-!
# Header escaping — the laws

Unescaping undoes escaping (`unescapeChars_escapeChars`), and an escaped field holds none of
the three characters that structure a header block: LF and CR, which end a line, and the
colon, which ends a header's name (`not_mem_escapeChars`). These two facts are all the frame
decoder needs to read an escaped header line back as the header it was written from.

Reading is also pinned down on every text, written or not. `Unescapes` is the escape grammar: a
plain character stands for itself and each of the four escapes for its character. `BadEscape`
says where that grammar breaks, scanning left to right with each backslash taking the character
after it: a backslash at the very end, or before a letter that is no escape. Unescaping refuses
exactly the texts with a bad escape and reads every other one as the grammar says
(`unescapeHeader_inverts_and_refuses`).
-/

namespace StompConsole

namespace Stomp

/-- Unescaping an ordinary character keeps it and goes on. -/
theorem unescapeChars_cons_of_ne {c : Char} (h : c ≠ '\\') (cs : List Char) :
    unescapeChars (c :: cs) = (c :: ·) <$> unescapeChars cs := by
  rw [unescapeChars.eq_4]
  · rintro e cs' rfl; exact absurd rfl h
  · rintro rfl; exact absurd rfl h

/-- Unescaping an escape pair reads its meaning and goes on. -/
theorem unescapeChars_escape {e c : Char} (h : escapeMeaning e = some c) (cs : List Char) :
    unescapeChars ('\\' :: e :: cs) = (c :: ·) <$> unescapeChars cs := by
  rw [unescapeChars]
  cases unescapeChars cs <;> simp [h]

/-- **Unescaping undoes escaping**, character by character. -/
theorem unescapeChars_escapeChars : ∀ s : List Char, unescapeChars (escapeChars s) = some s
  | [] => rfl
  | c :: cs => by
    have ih := unescapeChars_escapeChars cs
    -- the four escaped characters, then every other one
    by_cases h1 : c = '\\'
    · subst h1; simp [escapeChars, unescapeChars_escape, escapeMeaning, ih]
    by_cases h2 : c = '\n'
    · subst h2; simp [escapeChars, unescapeChars_escape, escapeMeaning, ih]
    by_cases h3 : c = '\r'
    · subst h3; simp [escapeChars, unescapeChars_escape, escapeMeaning, ih]
    by_cases h4 : c = ':'
    · subst h4; simp [escapeChars, unescapeChars_escape, escapeMeaning, ih]
    simp [escapeChars, h1, h2, h3, h4, unescapeChars_cons_of_ne h1, ih]

/-- **An escaped field has no line break and no colon.** -/
theorem not_mem_escapeChars {c : Char} (hc : c = '\n' ∨ c = '\r' ∨ c = ':') :
    ∀ s : List Char, c ∉ escapeChars s
  | [] => List.not_mem_nil
  | d :: ds => by
    simp only [escapeChars, List.mem_append, not_or]
    refine ⟨?_, not_mem_escapeChars hc ds⟩
    -- the characters written for `d` are a backslash and a letter, or `d` itself when it needs
    -- no escape
    rcases hc with rfl | rfl | rfl <;> split_ifs <;> grind

/-! ## The escape grammar -/

/-- **The escape grammar**: a field as written, and the text it stands for. -/
inductive Unescapes : List Char → List Char → Prop
  /-- Nothing stands for nothing. -/
  | nil : Unescapes [] []
  /-- A character other than a backslash stands for itself. -/
  | plain {c : Char} {t m : List Char} : c ≠ '\\' → Unescapes t m → Unescapes (c :: t) (c :: m)
  /-- `\\` stands for a backslash. -/
  | backslash {t m : List Char} : Unescapes t m → Unescapes ('\\' :: '\\' :: t) ('\\' :: m)
  /-- `\n` stands for LF. -/
  | lineFeed {t m : List Char} : Unescapes t m → Unescapes ('\\' :: 'n' :: t) ('\n' :: m)
  /-- `\r` stands for CR. -/
  | carriageReturn {t m : List Char} : Unescapes t m → Unescapes ('\\' :: 'r' :: t) ('\r' :: m)
  /-- `\c` stands for a colon. -/
  | colon {t m : List Char} : Unescapes t m → Unescapes ('\\' :: 'c' :: t) (':' :: m)

/-- **A backslash that starts no escape**, found scanning left to right with each backslash
taking the character after it. -/
inductive BadEscape : List Char → Prop
  /-- A backslash at the very end. -/
  | last : BadEscape ['\\']
  /-- A backslash before a character that is no escape letter. -/
  | unknown {x : Char} {t : List Char} :
      x ≠ '\\' → x ≠ 'n' → x ≠ 'r' → x ≠ 'c' → BadEscape ('\\' :: x :: t)
  /-- Further on, past a plain character. -/
  | afterPlain {c : Char} {t : List Char} : c ≠ '\\' → BadEscape t → BadEscape (c :: t)
  /-- Further on, past a whole escape. -/
  | afterEscape {x : Char} {t : List Char} :
      (x = '\\' ∨ x = 'n' ∨ x = 'r' ∨ x = 'c') → BadEscape t → BadEscape ('\\' :: x :: t)

/-- The escape table: `\\`, `\n`, `\r` and `\c`, and nothing else. -/
theorem escapeMeaning_eq_some_iff {e c : Char} : escapeMeaning e = some c ↔
    (e = '\\' ∧ c = '\\') ∨ (e = 'n' ∧ c = '\n') ∨ (e = 'r' ∧ c = '\r') ∨ (e = 'c' ∧ c = ':') := by
  unfold escapeMeaning
  split_ifs <;> grind

theorem escapeMeaning_eq_none_iff {e : Char} :
    escapeMeaning e = none ↔ e ≠ '\\' ∧ e ≠ 'n' ∧ e ≠ 'r' ∧ e ≠ 'c' := by
  unfold escapeMeaning
  split_ifs <;> simp_all

namespace Unescapes

variable {c e : Char} {t m : List Char}

theorem cons_iff (hc : c ≠ '\\') : Unescapes (c :: t) m ↔ ∃ m', m = c :: m' ∧ Unescapes t m' := by
  constructor
  · rintro (_ | ⟨-, h⟩ | h | h | h | h)
    · exact ⟨_, rfl, h⟩
    all_goals exact absurd rfl hc
  · rintro ⟨m', rfl, h⟩
    exact plain hc h

/-- An escape pair stands for the escape table's character. -/
theorem escape_iff : Unescapes ('\\' :: e :: t) m ↔
    ∃ c m', escapeMeaning e = some c ∧ m = c :: m' ∧ Unescapes t m' := by
  constructor
  · rintro (_ | ⟨hc, -⟩ | h | h | h | h)
    · exact absurd rfl hc
    all_goals exact ⟨_, _, by decide, rfl, h⟩
  · rintro ⟨c, m', he, rfl, h⟩
    rcases escapeMeaning_eq_some_iff.1 he with ⟨rfl, rfl⟩ | ⟨rfl, rfl⟩ | ⟨rfl, rfl⟩ | ⟨rfl, rfl⟩
    · exact backslash h
    · exact lineFeed h
    · exact carriageReturn h
    · exact colon h

theorem not_last : ¬ Unescapes ['\\'] m := by
  rintro (_ | ⟨hc, -⟩)
  exact hc rfl

end Unescapes

namespace BadEscape

variable {c e : Char} {t : List Char}

theorem not_nil : ¬ BadEscape [] := nofun

theorem cons_iff (hc : c ≠ '\\') : BadEscape (c :: t) ↔ BadEscape t := by
  constructor
  · rintro (_ | _ | ⟨-, h⟩ | _)
    · exact absurd rfl hc
    · exact absurd rfl hc
    · exact h
    · exact absurd rfl hc
  · exact afterPlain hc

/-- An escape pair is bad itself, or the badness lies further on. -/
theorem escape_iff : BadEscape ('\\' :: e :: t) ↔ escapeMeaning e = none ∨ BadEscape t := by
  rw [escapeMeaning_eq_none_iff]
  constructor
  · rintro (_ | ⟨h1, h2, h3, h4⟩ | ⟨hc, -⟩ | ⟨-, h⟩)
    · exact .inl ⟨h1, h2, h3, h4⟩
    · exact absurd rfl hc
    · exact .inr h
  · rintro (⟨h1, h2, h3, h4⟩ | h)
    · exact unknown h1 h2 h3 h4
    · by_cases he : e = '\\' ∨ e = 'n' ∨ e = 'r' ∨ e = 'c'
      · exact afterEscape he h
      · simp only [not_or] at he
        exact unknown he.1 he.2.1 he.2.2.1 he.2.2.2

end BadEscape

/-- A character that `unescapeChars` reads as plain is no backslash. -/
theorem ne_backslash_of_unescapeChars_cases {c : Char} {cs : List Char}
    (h1 : ∀ e cs', c = '\\' → cs = e :: cs' → False) (h2 : c = '\\' → cs = [] → False) :
    c ≠ '\\' := by
  rintro rfl
  cases cs with
  | nil => exact h2 rfl rfl
  | cons e cs' => exact h1 e cs' rfl rfl

/-- **Unescaping reads the escape grammar.** The induction follows the reader's own cases. -/
theorem unescapeChars_eq_some_iff {t m : List Char} : unescapeChars t = some m ↔ Unescapes t m := by
  fun_induction unescapeChars t generalizing m with
  | case1 =>
    constructor
    · rintro ⟨⟩; exact .nil
    · rintro ⟨⟩; rfl
  | case2 e cs c rest hrest he ih =>
    rw [Unescapes.escape_iff]
    constructor
    · rintro ⟨⟩
      exact ⟨c, rest, he, rfl, ih.1 hrest⟩
    · rintro ⟨c', m', he', rfl, hm'⟩
      have hm : some rest = some m' := hrest.symm.trans (ih.2 hm')
      rw [he] at he'
      rw [Option.some.inj he', Option.some.inj hm]
  | case3 e cs hno ih =>
    -- the reader refused: the pair is no escape, or the rest does not read
    simp only [reduceCtorEq, false_iff, Unescapes.escape_iff, not_exists, not_and]
    rintro c m' he rfl hm'
    exact hno c m' he (ih.2 hm')
  | case4 =>
    simp only [reduceCtorEq, false_iff]
    exact Unescapes.not_last
  | case5 c cs h1 h2 ih =>
    have hc := ne_backslash_of_unescapeChars_cases h1 h2
    rw [Unescapes.cons_iff hc]
    cases hcs : unescapeChars cs with
    | none =>
      simp only [Option.map_eq_map, Option.map_none, reduceCtorEq, false_iff, not_exists, not_and]
      rintro m' rfl hm'
      rw [ih.2 hm'] at hcs
      cases hcs
    | some r =>
      simp only [Option.map_eq_map, Option.map_some, Option.some.injEq]
      constructor
      · rintro rfl
        exact ⟨r, rfl, ih.1 hcs⟩
      · rintro ⟨m', rfl, hm'⟩
        rw [ih.2 hm'] at hcs
        rw [Option.some.inj hcs]

/-- **Unescaping refuses exactly the texts with a bad escape.** -/
theorem unescapeChars_eq_none_iff {t : List Char} : unescapeChars t = none ↔ BadEscape t := by
  fun_induction unescapeChars t with
  | case1 => simp only [reduceCtorEq, false_iff]; exact BadEscape.not_nil
  | case2 e cs c rest hrest he ih =>
    simp only [reduceCtorEq, false_iff, BadEscape.escape_iff, he, not_or]
    exact ⟨nofun, fun h => by rw [← ih] at h; simp [hrest] at h⟩
  | case3 e cs hno ih =>
    simp only [true_iff, BadEscape.escape_iff]
    -- the pair is no escape, or else the rest does not read
    cases he : escapeMeaning e with
    | none => exact .inl rfl
    | some c =>
      cases hcs : unescapeChars cs with
      | none => exact .inr (ih.1 hcs)
      | some rest => exact absurd hcs (fun h => hno c rest he h)
  | case4 => simp only [true_iff]; exact BadEscape.last
  | case5 c cs h1 h2 ih =>
    rw [BadEscape.cons_iff (ne_backslash_of_unescapeChars_cases h1 h2), ← ih]
    cases unescapeChars cs <;> simp

/-- **Unescaping inverts escaping, and refuses exactly the bad escapes.** Every field is read
back from its escaped form. Any text is refused exactly when, scanning it left to right with
each backslash taking the character after it, some backslash stands last or before a letter
that is no escape; every other text reads as what its escapes and plain characters stand for. -/
theorem unescapeHeader_inverts_and_refuses :
    (∀ s, unescapeHeader (escapeHeader s) = some s) ∧
    (∀ t, unescapeHeader t = none ↔ BadEscape t.toList) ∧
    (∀ t m, unescapeHeader t = some m ↔ Unescapes t.toList m.toList) := by
  refine ⟨fun s => ?_, fun t => ?_, fun t m => ?_⟩
  · simp [unescapeHeader, escapeHeader, unescapeChars_escapeChars]
  · simp [unescapeHeader, unescapeChars_eq_none_iff]
  · rw [← unescapeChars_eq_some_iff]
    simp only [unescapeHeader, Option.map_eq_map, Option.map_eq_some_iff]
    constructor
    · rintro ⟨m', hm', rfl⟩
      simpa using hm'
    · intro h
      exact ⟨m.toList, h, String.ofList_toList⟩

/-- An escaped backslash before `c` is a backslash and a `c`; an escaped colon is a colon. -/
example : unescapeHeader "\\\\c" = some "\\c" ∧ unescapeHeader "\\c" = some ":" := by decide

end Stomp

end StompConsole
