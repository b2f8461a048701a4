/-!
# Binary floating point

The two IEEE 754 binary interchange formats the library reads and prints, `binary64` (for JSON
numbers) and `binary32` (for delays shown in seconds), modelled exactly. A datum is the bit-level
triple (sign, biased exponent field, fraction field); its magnitude is the natural number
`significand * 2 ^ quantum`. Every operation here computes its exact result as a fraction of
natural numbers and then rounds it once, to nearest with ties to even, overflowing to infinity:
that is what the hardware does, and it makes every result reproducible bit for bit.
-/

namespace StompConsole.Numeric

/-- An IEEE 754 binary interchange format, given by the widths of its fields. -/
structure Format where
  /-- Bits of the stored fraction; a normal number has one more, implicit, leading bit. -/
  fractionBits : Nat
  /-- Bits of the biased exponent field. -/
  exponentBits : Nat
  deriving DecidableEq, Repr

/-- Double precision: 52 fraction bits, 11 exponent bits. -/
def binary64 : Format := ⟨52, 11⟩

/-- Single precision: 23 fraction bits, 8 exponent bits. -/
def binary32 : Format := ⟨23, 8⟩

namespace Format

/-- The exponent bias. -/
def bias (F : Format) : Nat := Nat.pow 2 (F.exponentBits - 1) - 1

/-- The all-ones exponent field, which marks infinity. -/
def maxField (F : Format) : Nat := Nat.pow 2 F.exponentBits - 1

/-- The implicit leading bit of a normal significand. -/
def hidden (F : Format) : Nat := Nat.pow 2 F.fractionBits

/-- The weight of the last bit of a subnormal number (and of the smallest normal ones). -/
def minQuantum (F : Format) : Int := 1 - (F.bias : Int) - F.fractionBits

end Format

/-- A datum of format `F`: sign, biased exponent field and fraction field. NaN never arises in
this library and is not represented; an all-ones exponent field means infinity. -/
structure BinFloat (F : Format) where
  negative : Bool
  exponent : Nat
  fraction : Nat
  deriving DecidableEq, Repr

namespace BinFloat

variable {F : Format}

/-- Positive zero. -/
def zero : BinFloat F := ⟨false, 0, 0⟩

/-- Whether the datum is an infinity. -/
def isInfinite (x : BinFloat F) : Bool := x.exponent == F.maxField

/-- Whether the datum is a zero of either sign. -/
def isZero (x : BinFloat F) : Bool := x.exponent == 0 && x.fraction == 0

/-- The integer significand of a finite datum. -/
def significand (x : BinFloat F) : Nat :=
  if x.exponent = 0 then x.fraction else F.hidden + x.fraction

/-- The power of two that the significand is scaled by. -/
def quantum (x : BinFloat F) : Int :=
  if x.exponent = 0 then F.minQuantum else (x.exponent : Int) - F.bias - F.fractionBits

/-- The magnitude of a finite datum as a fraction `(numerator, denominator)`. -/
def magnitude (x : BinFloat F) : Nat × Nat :=
  if 0 ≤ x.quantum then (x.significand * Nat.pow 2 x.quantum.toNat, 1)
  else (x.significand, Nat.pow 2 (-x.quantum).toNat)

/-- The datum with the opposite sign. -/
def neg (x : BinFloat F) : BinFloat F := { x with negative := !x.negative }

end BinFloat

/-- Whether `num / den ≥ 2 ^ k`. -/
def atLeastPow2 (num den : Nat) (k : Int) : Bool :=
  if 0 ≤ k then num ≥ den * Nat.pow 2 k.toNat else num * Nat.pow 2 (-k).toNat ≥ den

/-- `n / d` rounded to the nearest natural number, ties to the even one. -/
def divRoundEven (n d : Nat) : Nat :=
  let q := n / d
  let r := n % d
  if 2 * r > d ∨ (2 * r = d ∧ q % 2 = 1) then q + 1 else q

/-- **Rounding** the exact magnitude `num / den` (with `den > 0`) into `F`, to nearest with ties to
even: the scale is chosen so that the significand has the format's precision, or is the
subnormal scale when the magnitude is that small; a magnitude beyond the largest finite one
becomes infinity. -/
def round (F : Format) (negative : Bool) (num den : Nat) : BinFloat F :=
  if num = 0 then ⟨negative, 0, 0⟩
  else
    let k0 : Int := (Nat.log2 num : Int) - Nat.log2 den
    -- the binary order of magnitude: `2 ^ k ≤ num / den < 2 ^ (k + 1)`
    let k := if atLeastPow2 num den k0 then k0 else k0 - 1
    let q := max (k - F.fractionBits) F.minQuantum
    let s :=
      if 0 ≤ q then divRoundEven num (den * Nat.pow 2 q.toNat)
      else divRoundEven (num * Nat.pow 2 (-q).toNat) den
    -- rounding up may carry into a new leading bit
    let (s, q) := if s = 2 * F.hidden then (F.hidden, q + 1) else (s, q)
    if s < F.hidden then ⟨negative, 0, s⟩
    else
      let e := q + F.bias + F.fractionBits
      if (F.maxField : Int) ≤ e then ⟨negative, F.maxField, 0⟩
      else ⟨negative, e.toNat, s - F.hidden⟩

namespace BinFloat

variable {F : Format}

/-- The datum nearest to a natural number. -/
def ofNat (F : Format) (n : Nat) : BinFloat F := round F false n 1

/-- The rounded product of two finite data. -/
def mul (x y : BinFloat F) : BinFloat F :=
  round F (x.negative != y.negative) (x.magnitude.1 * y.magnitude.1)
    (x.magnitude.2 * y.magnitude.2)

/-- The rounded quotient of two finite data, the divisor nonzero. -/
def div (x y : BinFloat F) : BinFloat F :=
  round F (x.negative != y.negative) (x.magnitude.1 * y.magnitude.2)
    (x.magnitude.2 * y.magnitude.1)

/-- The rounded sum of two finite non-negative data. -/
def addNonneg (x y : BinFloat F) : BinFloat F :=
  round F false (x.magnitude.1 * y.magnitude.2 + y.magnitude.1 * x.magnitude.2)
    (x.magnitude.2 * y.magnitude.2)

end BinFloat

end StompConsole.Numeric
