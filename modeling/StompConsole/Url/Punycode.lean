/-!
# Punycode

The bootstring encoding of RFC 3492 with the parameters of IDNA: an internationalized domain
label is written as its ASCII characters, a hyphen if there were any, and then, for the other
code points in increasing order, the gaps between successive insertions as variable-length base
36 numbers whose digit thresholds follow an adapting bias.

Every loop has a measure: the bias adaptation divides `delta`, digit encoding divides `q` by at
least 35, the main encoding loop consumes the sorted list of code points still to insert, and
decoding consumes its input.
-/

namespace StompConsole.Url.Punycode

/-- The character of a base 36 digit: `a`–`z` for 0–25, `0`–`9` for 26–35. -/
def digitChar (d : Nat) : Char :=
  if d < 26 then Char.ofNat (0x61 + d) else Char.ofNat (0x30 + d - 26)

/-- The value of a base 36 digit, accepting both cases. -/
def digitValue (c : Char) : Option Nat :=
  let n := c.toNat
  if 0x61 ≤ n ∧ n ≤ 0x7A then some (n - 0x61)
  else if 0x41 ≤ n ∧ n ≤ 0x5A then some (n - 0x41)
  else if 0x30 ≤ n ∧ n ≤ 0x39 then some (n - 0x30 + 26)
  else none

/-- The digit threshold at position `k` under `bias`, between 1 and 26. -/
def threshold (k bias : Nat) : Nat :=
  if k ≤ bias then 1 else if bias + 26 ≤ k then 26 else k - bias

theorem one_le_threshold (k bias : Nat) : 1 ≤ threshold k bias := by
  unfold threshold; split <;> (try split) <;> omega

theorem threshold_le (k bias : Nat) : threshold k bias ≤ 26 := by
  unfold threshold; split <;> (try split) <;> omega

/-- The scaling loop of bias adaptation. -/
def adaptScale (delta k : Nat) : Nat × Nat :=
  if 455 < delta then adaptScale (delta / 35) (k + 36) else (delta, k)
termination_by delta
decreasing_by omega

/-- **Bias adaptation** after an insertion. -/
def adapt (delta points : Nat) (first : Bool) : Nat :=
  let d := if first then delta / 700 else delta / 2
  let d := d + d / points
  let (d, k) := adaptScale d 0
  k + 36 * d / (d + 38)

/-- **The digits of one gap** `q`, least significant first. -/
def encodeNumber (bias k q : Nat) : List Char :=
  let t := threshold k bias
  if q < t then [digitChar q]
  else digitChar (t + (q - t) % (36 - t)) :: encodeNumber bias (k + 36) ((q - t) / (36 - t))
termination_by q
decreasing_by
  have h1 := one_le_threshold k bias
  have h2 := threshold_le k bias
  have : (q - threshold k bias) / (36 - threshold k bias) ≤ q - threshold k bias :=
    Nat.div_le_self _ _
  omega

/-- The state of encoding: output so far, the running gap, the bias, and how many code points
are handled. -/
structure Encoder where
  out : List Char
  delta : Nat
  bias : Nat
  handled : Nat

/-- One pass over the input for the code point `m`: smaller ones raise the gap, and each
occurrence of `m` writes the gap and resets it. -/
def Encoder.visit (basic m : Nat) (e : Encoder) (c : Char) : Encoder :=
  if c.toNat < m then { e with delta := e.delta + 1 }
  else if c.toNat = m then
    { out := e.out ++ encodeNumber e.bias 36 e.delta, delta := 0,
      bias := adapt e.delta (e.handled + 1) (e.handled == basic), handled := e.handled + 1 }
  else e

/-- The main loop over the distinct non-ASCII code points, in increasing order. -/
def encodeLoop (input : List Char) (basic : Nat) : List Nat → Nat → Encoder → Encoder
  | [], _, e => e
  | m :: ms, n, e =>
    let e := { e with delta := e.delta + (m - n) * (e.handled + 1) }
    let e := input.foldl (Encoder.visit basic m) e
    encodeLoop input basic ms (m + 1) { e with delta := e.delta + 1 }

/-- Insert into a sorted list without duplicates. -/
def insertSorted (x : Nat) : List Nat → List Nat
  | [] => [x]
  | y :: ys => if x < y then x :: y :: ys else if x = y then y :: ys else y :: insertSorted x ys

/-- **Encoding a label**, without the `xn--` prefix. -/
def encode (input : List Char) : List Char :=
  let basicChars := input.filter (·.toNat < 0x80)
  let extended := (input.filter (0x80 ≤ ·.toNat)).foldr (fun c acc => insertSorted c.toNat acc) []
  let e := encodeLoop input basicChars.length extended 128
    ⟨[], 0, 72, basicChars.length⟩
  basicChars ++ (if basicChars.isEmpty then [] else ['-']) ++ e.out

/-- Read one variable-length number: the increased `i` and the remaining input. -/
def decodeNumber (bias : Nat) : List Char → Nat → Nat → Nat → Option (Nat × List Char)
  | [], _, _, _ => none
  | c :: rest, k, w, i =>
    match digitValue c with
    | none => none
    | some d =>
      let i := i + d * w
      let t := threshold k bias
      if d < t then some (i, rest) else decodeNumber bias rest (k + 36) (w * (36 - t)) i

theorem decodeNumber_length {bias : Nat} :
    ∀ {input : List Char} {k w i : Nat} {r : Nat × List Char},
    decodeNumber bias input k w i = some r → r.2.length < input.length
  | [], _, _, _, _, h => by simp [decodeNumber] at h
  | c :: rest, k, w, i, r, h => by
    simp only [decodeNumber] at h
    split at h
    · cases h
    · split at h
      · cases h; simp
      · have := decodeNumber_length h
        simp only [List.length_cons]; omega

/-- Insert `c` at position `i`. -/
def insertAt (c : Char) : Nat → List Char → List Char
  | 0, cs => c :: cs
  | _ + 1, [] => [c]
  | i + 1, d :: ds => d :: insertAt c i ds

/-- The main decoding loop: each number moves the insertion point and code point. -/
def decodeLoop (input : List Char) (out : List Char) (n i bias : Nat) : Option (List Char) :=
  if input.isEmpty then some out
  else
    match h : decodeNumber bias input 36 1 i with
    | none => none
    | some (i', rest) =>
      let len := out.length + 1
      let bias := adapt (i' - i) len (i == 0)
      let n := n + i' / len
      let i := i' % len
      if n > 0x10FFFF ∨ (0xD800 ≤ n ∧ n ≤ 0xDFFF) then none
      else decodeLoop rest (insertAt (Char.ofNat n) i out) n (i + 1) bias
termination_by input.length
decreasing_by exact decodeNumber_length h

/-- **Decoding a label**, without its `xn--` prefix: `none` when it is not valid punycode. -/
def decode (input : List Char) : Option (List Char) :=
  let (basicPart, extended) :=
    match input.reverse.dropWhile (· != '-') with
    | [] => ([], input)
    | _ :: before => (before.reverse, input.drop (before.length + 1))
  if basicPart.all (·.toNat < 0x80) then decodeLoop extended basicPart 128 0 72 else none

end StompConsole.Url.Punycode
