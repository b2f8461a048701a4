import Mathlib
import StompConsole.Json.Read

/-!
# String literals and integers, written and read

The scanner reads back what the compact writer writes, token by token. A string literal is read
back as the string it was written from, whatever it holds: the writer escapes the quote, the
backslash and the controls below U+0020, NUL among them (as a letter or as `\u00xx`), and leaves
every other character as it is, DEL, U+2028 and characters beyond the BMP included; the scanner
reads each of these back (`scanString_escapeJsonChar`, `scanString_quoted`). An integer below
`2 ^ 64` is read back as itself (`scanNumber_toDigits`).

What follows a token decides where the number scanner stops, so the lemmas take the rest of the
text as an argument and ask only that it start with something that ends a value: a comma, a
closing bracket or brace, or nothing at all (`Closes`).
-/

namespace StompConsole.Json

/-! ## White space and the text after a value -/

/-- The text after a value inside an array or an object, or after the whole text. -/
def Closes (rest : List Char) : Prop :=
  ∀ c ∈ rest.head?, c = ',' ∨ c = ']' ∨ c = '}'

theorem closes_nil : Closes [] := by simp [Closes]

theorem closes_comma (rest : List Char) : Closes (',' :: rest) := by simp [Closes]

theorem closes_bracket (rest : List Char) : Closes (']' :: rest) := by simp [Closes]

theorem closes_brace (rest : List Char) : Closes ('}' :: rest) := by simp [Closes]

/-- Every character above the space is no white space. -/
theorem isJsonSpace_of_lt {c : Char} (h : 32 < c.toNat) : isJsonSpace c = false := by
  simp only [isJsonSpace, Bool.or_eq_false_iff, decide_eq_false_iff_not]
  refine ⟨⟨⟨?_, ?_⟩, ?_⟩, ?_⟩ <;> rintro rfl <;> simp at h

/-- White space is skipped only where there is some. -/
theorem skipSpace_of_not_space {c : Char} (hc : isJsonSpace c = false) (cs : List Char) (p : Pos) :
    skipSpace (c :: cs) p = ⟨c :: cs, p⟩ := by
  simp [skipSpace, hc]

/-! ## String literals -/

/-- A hexadecimal digit written is read back as its value. -/
theorem hexDigit_read : ∀ n, n < 16 → isHexDigit (hexDigit n) = true ∧ hexValue (hexDigit n) = n := by
  intro n hn
  interval_cases n <;> decide

/-- A control character is read back from its `\u00xx` escape. -/
theorem hex4_control {c : Char} (hc : c.toNat < 0x20) :
    hex4 '0' '0' (hexDigit (c.toNat / 16)) (hexDigit (c.toNat % 16)) = some c.toNat := by
  obtain ⟨hd₁, hv₁⟩ := hexDigit_read (c.toNat / 16) (by omega)
  obtain ⟨hd₂, hv₂⟩ := hexDigit_read (c.toNat % 16) (by omega)
  have h0 : isHexDigit '0' = true ∧ hexValue '0' = 0 := by decide
  simp only [hex4, hd₁, hd₂, hv₁, hv₂, h0, Bool.and_true, if_true]
  congr 1
  omega

/-- A letter escape is read as the character it stands for. -/
theorem scanString_escape {e x : Char} (he : simpleEscape e = some x) (hu : e ≠ 'u')
    (rest : List Char) (p : Pos) (acc : List Char) :
    scanString ('\\' :: e :: rest) p acc = scanString rest ((p.next '\\').next e) (x :: acc) := by
  rw [scanString.eq_6 _ _ _ _ hu, he]

/-- **One escaped character is read back**, and the scan goes on past it. -/
theorem scanString_escapeJsonChar (c : Char) (rest : List Char) (p : Pos) (acc : List Char) :
    ∃ p', scanString (escapeJsonChar c ++ rest) p acc = scanString rest p' (c :: acc) := by
  unfold escapeJsonChar
  -- the seven characters with a letter escape, a control written in hexadecimal, and the rest
  split_ifs with h₁ h₂ h₃ h₄ h₅ h₆ h₇ h₈
  all_goals try (subst_vars; exact ⟨_, scanString_escape (by decide) (by decide) rest p acc⟩)
  · refine ⟨((p.next '\\').next 'u').nextAll
      ['0', '0', hexDigit (c.toNat / 16), hexDigit (c.toNat % 16)], ?_⟩
    simp only [List.cons_append, List.nil_append]
    rw [scanString.eq_4, hex4_control h₈]
    have hs : ¬ (0xDC00 ≤ c.toNat ∧ c.toNat ≤ 0xDFFF) := by omega
    have hl : c.toNat < 0xD800 ∨ 0xDBFF < c.toNat := by omega
    simp only [hs, hl, if_false, if_true, Char.ofNat_toNat]
  · exact ⟨_, by rw [List.singleton_append, scanString.eq_7 _ _ _ _ h₁ h₂, if_neg h₈]⟩

/-- **A string literal's contents are read back**: the escaped characters of `cs`, then the
closing quote, give `cs` after whatever was read before. -/
theorem scanString_quoted (cs rest : List Char) (p : Pos) (acc : List Char) :
    ∃ p', scanString (cs.flatMap escapeJsonChar ++ '"' :: rest) p acc =
      .ok (String.ofList (acc.reverse ++ cs), ⟨rest, p'⟩) := by
  induction cs generalizing p acc with
  | nil => exact ⟨p.next '"', by simp [scanString]⟩
  | cons c cs ih =>
    -- the first character's escape is read, then the rest of the literal
    obtain ⟨p₁, h₁⟩ := scanString_escapeJsonChar c (cs.flatMap escapeJsonChar ++ '"' :: rest) p acc
    obtain ⟨p₂, h₂⟩ := ih p₁ (c :: acc)
    refine ⟨p₂, ?_⟩
    rw [List.flatMap_cons, List.append_assoc, h₁, h₂]
    simp

theorem quoteJson_append (s : String) (rest : List Char) :
    quoteJson s ++ rest = '"' :: (s.toList.flatMap escapeJsonChar ++ '"' :: rest) := by
  simp [quoteJson]

/-- The literal of `s`, its opening quote read, gives `s`. -/
theorem scanString_quoteJson (s : String) (rest : List Char) (p : Pos) :
    ∃ p', Json.scanString (s.toList.flatMap escapeJsonChar ++ '"' :: rest) p [] =
      .ok (s, ⟨rest, p'⟩) := by
  obtain ⟨p', h⟩ := scanString_quoted s.toList rest p []
  exact ⟨p', by simpa using h⟩

/-! ## Integers -/

/-- A digit that keeps the number within the limit is no overflow. -/
theorem wouldOverflow_of_le {n d limit : Nat} (h : n * 10 + d ≤ limit) :
    wouldOverflow n d limit = false := by
  unfold wouldOverflow
  simp only [Bool.and_eq_false_iff, decide_eq_false_iff_not, Bool.or_eq_false_iff, not_lt,
    not_le, ge_iff_le]
  omega

/-- Reading digits one by one accumulates their decimal value, as long as it fits. -/
theorem integerDigits_digits (positive : Bool) (rest : List Char) :
    ∀ (ds : List Char) (acc : Nat) (p : Pos), (∀ c ∈ ds, c.isDigit) →
      Nat.ofDigitChars 10 ds acc ≤ maxU64 →
      ∃ p', integerDigits positive acc (ds ++ rest) p =
        integerDigits positive (Nat.ofDigitChars 10 ds acc) rest p'
  | [], acc, p, _, _ => ⟨p, rfl⟩
  | d :: ds, acc, p, hd, hle => by
    have hdig : d.isDigit := hd d (by simp)
    have hstep : Nat.ofDigitChars 10 (d :: ds) acc =
        Nat.ofDigitChars 10 ds (acc * 10 + digitOf d) := by
      rw [Nat.ofDigitChars_cons, digitOf, Nat.mul_comm]
      rfl
    -- the value so far never exceeds the final one
    have hge : acc * 10 + digitOf d ≤ Nat.ofDigitChars 10 ds (acc * 10 + digitOf d) := by
      rw [Nat.ofDigitChars_eq_ofDigitChars_zero]
      have : 0 < 10 ^ ds.length := by positivity
      nlinarith
    rw [hstep] at hle
    obtain ⟨p', h⟩ := integerDigits_digits positive rest ds (acc * 10 + digitOf d) (p.next d)
      (fun c hc => hd c (by simp [hc])) hle
    refine ⟨p', ?_⟩
    rw [List.cons_append, integerDigits, if_pos hdig, wouldOverflow_of_le (by omega), hstep]
    exact h

/-- A number's text ends where a value ends. -/
theorem afterInteger_of_closes {rest : List Char} (hr : Closes rest) (positive : Bool) (n : Nat)
    (p : Pos) : afterInteger positive n ⟨rest, p⟩ = .ok (integerNumber positive n, ⟨rest, p⟩) := by
  cases rest with
  | nil => rfl
  | cons c r =>
    rcases hr c rfl with rfl | rfl | rfl <;> rfl

theorem integerDigits_of_closes {rest : List Char} (hr : Closes rest) (positive : Bool) (n : Nat)
    (p : Pos) : integerDigits positive n rest p = .ok (integerNumber positive n, ⟨rest, p⟩) := by
  cases rest with
  | nil => exact afterInteger_of_closes hr positive n p
  | cons c r =>
    have hc : ¬ c.isDigit := by rcases hr c rfl with rfl | rfl | rfl <;> decide
    rw [integerDigits, if_neg hc]
    exact afterInteger_of_closes hr positive n p

/-- A positive number is written without a leading zero. -/
theorem toDigits_head_ne_zero {n : Nat} (hn : 0 < n) :
    ∃ d ds, Nat.toDigits 10 n = d :: ds ∧ d ≠ '0' := by
  induction n using Nat.strong_induction_on with
  | _ n ih =>
    by_cases hlt : n < 10
    · refine ⟨_, [], Nat.toDigits_of_lt_base hlt, ?_⟩
      interval_cases n <;> decide
    · obtain ⟨d, ds, hds, hd⟩ := ih (n / 10) (by omega) (by omega)
      refine ⟨d, ds ++ [(n % 10).digitChar], ?_, hd⟩
      rw [Nat.toDigits_of_base_le (by decide) (by omega), hds, List.cons_append]

/-- **An integer below `2 ^ 64` is read back as itself.** -/
theorem scanNumber_toDigits {n : Nat} (hn : n ≤ maxU64) {rest : List Char} (hr : Closes rest)
    (p : Pos) :
    ∃ p', scanNumber true ⟨Nat.toDigits 10 n ++ rest, p⟩ = .ok (.unsigned n, ⟨rest, p'⟩) := by
  rcases Nat.eq_zero_or_pos n with rfl | hpos
  · -- zero is the one number written with a leading zero
    refine ⟨p.next '0', ?_⟩
    rw [Nat.toDigits_zero]
    cases rest with
    | nil => rfl
    | cons c r =>
      have hc : ¬ c.isDigit := by rcases hr c rfl with rfl | rfl | rfl <;> decide
      simp only [scanNumber, List.cons_append, List.nil_append, if_true, hc]
      exact afterInteger_of_closes hr true 0 _
  · obtain ⟨d, ds, hds, hd⟩ := toDigits_head_ne_zero hpos
    have hall : ∀ c ∈ d :: ds, c.isDigit := fun c hc =>
      Nat.isDigit_of_mem_toDigits (by decide) (by decide) (hds ▸ hc)
    have hval : Nat.ofDigitChars 10 ds (digitOf d) = n := by
      have h := Nat.ofDigitChars_ten_toDigits (n := n)
      rw [hds, Nat.ofDigitChars_cons] at h
      simpa [digitOf] using h
    obtain ⟨p', h⟩ := integerDigits_digits true rest ds (digitOf d) (p.next d)
      (fun c hc => hall c (by simp [hc])) (hval ▸ hn)
    refine ⟨p', ?_⟩
    rw [hds, List.cons_append, scanNumber]
    simp only [if_neg hd, if_pos (hall d (by simp))]
    rw [h, hval, integerDigits_of_closes hr]
    rfl

/-- The digits of a number, as written, start with a digit. -/
theorem toDigits_eq_cons (n : Nat) : ∃ d ds, Nat.toDigits 10 n = d :: ds ∧ d.isDigit := by
  obtain ⟨d, ds, hds⟩ : ∃ d ds, Nat.toDigits 10 n = d :: ds :=
    ⟨_, _, (List.cons_head_tail Nat.toDigits_ne_nil).symm⟩
  exact ⟨d, ds, hds, Nat.isDigit_of_mem_toDigits (by decide) (by decide) (hds ▸ List.mem_cons_self ..)⟩

/-- A digit comes after the space character, so it is no white space and opens a value. -/
theorem space_lt_of_isDigit {d : Char} (hd : d.isDigit = true) : 32 < d.toNat := by
  rw [Char.isDigit_iff_toNat] at hd
  simp only [Char.reduceToNat] at hd
  omega

end StompConsole.Json
