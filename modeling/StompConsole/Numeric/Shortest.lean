import StompConsole.Numeric.Binary

/-!
# Shortest decimal digits

A finite nonzero datum `x` is printed with the fewest significant decimal digits that read back
as `x`. The reals that round to `x` form an interval around it, reaching halfway to each
neighbour, closed when the significand is even (ties to even would pick `x`) and open otherwise.
The digits are found by scaling `x` and the two ends of that interval to exact integers and then
dropping decimal digits from all three while the interval still holds a shorter number; the
value kept is the candidate closest to `x`, an exact tie being broken by the `Tie` rule.

`Shortest.digits` returns `(d, k)` with `x ≈ d * 10 ^ k`, `d` having no trailing zero. Two
layouts turn them into text: `scientific` (positional between `1e-5` and `1e16`, else with an
exponent, always showing a decimal point) and `positional` (never an exponent, no fraction when
there is none).
-/

namespace StompConsole.Numeric

/-- How an exact tie between two shortest candidates is broken. -/
inductive Tie where
  /-- Keep the candidate whose last digit is even. -/
  | even
  /-- Keep the larger candidate. -/
  | up
  deriving DecidableEq, Repr

namespace Shortest

/-- The state of the digit-dropping walk: the scaled value, the two ends of its interval, how
many digits were dropped, the last dropped digit of the value, and whether every digit dropped
before it (of the value) and every digit dropped (of the lower end) was zero. -/
structure Walk where
  value : Nat
  upper : Nat
  lower : Nat
  dropped : Nat
  lastDigit : Nat
  valueExact : Bool
  lowerExact : Bool

/-- Drop one decimal digit from all three numbers. -/
def Walk.step (w : Walk) : Walk :=
  { value := w.value / 10, upper := w.upper / 10, lower := w.lower / 10,
    dropped := w.dropped + 1, lastDigit := w.value % 10,
    valueExact := w.valueExact && w.lastDigit == 0,
    lowerExact := w.lowerExact && w.lower % 10 == 0 }

/-- Drop digits while a shorter number still lies strictly above the lower end. -/
def dropWhileRoom (w : Walk) : Walk :=
  if h : w.lower / 10 < w.upper / 10 then dropWhileRoom w.step
  else w
termination_by w.upper
decreasing_by
  simp only [Walk.step]
  omega

/-- Drop digits while the lower end, which is itself admissible, ends in zero. -/
def dropWhileLowerZero (w : Walk) : Walk :=
  if h : w.lower ≠ 0 ∧ w.lower % 10 = 0 then dropWhileLowerZero w.step
  else w
termination_by w.lower
decreasing_by
  simp only [Walk.step]
  omega

/-- **The shortest digits** of a finite nonzero datum: `(d, k)` with the datum read back from
`d * 10 ^ k`. -/
def digits {F : Format} (tie : Tie) (x : BinFloat F) : Nat × Int :=
  let e2 : Int := x.quantum - 2
  let m2 := x.significand
  let closed := m2 % 2 == 0
  let mv := 4 * m2
  let lowerGap := if x.fraction ≠ 0 ∨ x.exponent ≤ 1 then 2 else 1
  let (scale, e10) : Nat × Int :=
    if 0 ≤ e2 then (Nat.pow 2 e2.toNat, 0) else (Nat.pow 5 (-e2).toNat, e2)
  let upper := (mv + 2) * scale
  let w : Walk :=
    { value := mv * scale, upper := if closed then upper else upper - 1,
      lower := (mv - lowerGap) * scale, dropped := 0, lastDigit := 0,
      valueExact := true, lowerExact := closed }
  let w := dropWhileRoom w
  let w := if w.lowerExact then dropWhileLowerZero w else w
  let last :=
    if tie = .even ∧ w.valueExact ∧ w.lastDigit = 5 ∧ w.value % 2 = 0 then 4 else w.lastDigit
  let roundUp := (w.value = w.lower ∧ (!closed || !w.lowerExact)) ∨ 5 ≤ last
  (if roundUp then w.value + 1 else w.value, e10 + w.dropped)

end Shortest

/-- The decimal digits of a natural number. -/
def decimalDigits (n : Nat) : List Char := Nat.toDigits 10 n

/-- `n` zeros. -/
def zeros (n : Nat) : List Char := List.replicate n '0'

/-- The exponent part `e-7` or `e+21`. A non-negative exponent keeps its `+`: serde_json writes
`1e21` as `1e+21` and `2 ^ 64` as `1.8446744073709552e+19`, in a value's text and in the
`floating point` a type error names alike. -/
def exponentText (e : Int) : List Char :=
  'e' :: (if e < 0 then '-' :: decimalDigits e.natAbs else '+' :: decimalDigits e.toNat)

/-- **The scientific layout** of digits `ds` scaled by `10 ^ k`: positional, with at least one
digit after the point, when the decimal point falls within the 16 digits left of the units or
fewer than 5 places right of it; otherwise one digit, the rest after a point, and an
exponent. -/
def scientificLayout (ds : List Char) (k : Int) : List Char :=
  let n : Int := ds.length
  let kk := n + k
  if 0 ≤ k ∧ kk ≤ 16 then ds ++ zeros k.toNat ++ ['.', '0']
  else if 0 < kk ∧ kk ≤ 16 then ds.take kk.toNat ++ '.' :: ds.drop kk.toNat
  else if -5 < kk ∧ kk ≤ 0 then '0' :: '.' :: zeros (-kk).toNat ++ ds
  else if ds.length = 1 then ds ++ exponentText (kk - 1)
  else ds.take 1 ++ '.' :: ds.drop 1 ++ exponentText (kk - 1)

/-- **The positional layout** of digits `ds` scaled by `10 ^ k`: never an exponent, and no
fractional part when the number is whole. -/
def positionalLayout (ds : List Char) (k : Int) : List Char :=
  let n : Int := ds.length
  let point := n + k
  if point ≤ 0 then '0' :: '.' :: zeros (-point).toNat ++ ds
  else if point < n then ds.take point.toNat ++ '.' :: ds.drop point.toNat
  else ds ++ zeros (point - n).toNat

namespace BinFloat

variable {F : Format}

/-- A finite datum in the scientific layout: `0.0`, `100000.0`, `1e-7`, `1.5e+300`. -/
def scientificText (x : BinFloat F) : String :=
  let sign := if x.negative then ['-'] else []
  if x.isZero then String.ofList (sign ++ ['0', '.', '0'])
  else
    let (d, k) := Shortest.digits .even x
    String.ofList (sign ++ scientificLayout (decimalDigits d) k)

/-- A finite datum in the positional layout: `0`, `2.5`, `0.001`, `18446745000000000`. -/
def positionalText (x : BinFloat F) : String :=
  let sign := if x.negative then ['-'] else []
  if x.isZero then String.ofList (sign ++ ['0'])
  else
    let (d, k) := Shortest.digits .up x
    String.ofList (sign ++ positionalLayout (decimalDigits d) k)

end BinFloat

end StompConsole.Numeric
