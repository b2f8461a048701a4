import StompConsole.Json.Error

/-!
# Scanning JSON text

The lexical layer of the reader: a cursor over the unread characters that knows its byte index,
line and line start; white space; the words `null`, `true`, `false`; string literals with their
escapes; and numbers.

Positions follow one rule with two readings. An error found *at* the cursor is reported at the
cursor (`Pos.here`); an error about the next character is reported one byte past the cursor
(`Pos.ahead`), which may fall inside a multi-byte character, and which is on the next line when
that character is LF.

Numbers are read as the reader of the broker's payloads reads them: digits accumulate into an
unsigned 64-bit significand; digits that no longer fit are dropped and counted into the decimal
exponent; a fraction or an exponent makes the number a double, computed as the significand
(rounded to a double) multiplied or divided by a power of ten (itself a double); an infinite
product is an error.
-/

namespace StompConsole.Json

open Numeric

/-! ## Positions -/

/-- How far the reader has come: bytes consumed, current line, and the byte index where the
current line starts. -/
structure Pos where
  index : Nat
  line : Nat
  lineStart : Nat
  deriving DecidableEq, Repr

/-- The position before any text. -/
def Pos.origin : Pos := ⟨0, 1, 0⟩

/-- The position after reading `ch`. -/
def Pos.next (p : Pos) (ch : Char) : Pos :=
  let index := p.index + ch.utf8Size
  if ch = '\n' then ⟨index, p.line + 1, index⟩ else ⟨index, p.line, p.lineStart⟩

/-- The position after reading all of `cs`. -/
def Pos.nextAll (p : Pos) (cs : List Char) : Pos := cs.foldl Pos.next p

/-- The line and column of the reader. -/
def Pos.here (p : Pos) : Position := ⟨p.line, p.index - p.lineStart⟩

/-- The line and column one byte past the reader, given the next character if any. -/
def Pos.ahead (p : Pos) : Option Char → Position
  | none => p.here
  | some ch => if ch = '\n' then ⟨p.line + 1, 0⟩ else ⟨p.line, p.index + 1 - p.lineStart⟩

/-- The line and column `n` bytes past the reader over `cs`, stopping at the end of the text. -/
def positionAfterBytes : Nat → List Char → Pos → Position
  | 0, _, p => p.here
  | _ + 1, [], p => p.here
  | n + 1, ch :: cs, p =>
    if ch.utf8Size ≤ n + 1 then positionAfterBytes (n + 1 - ch.utf8Size) cs (p.next ch)
    else ⟨p.line, p.index + (n + 1) - p.lineStart⟩

/-- The number of UTF-8 bytes of `cs`. -/
def utf8Length (cs : List Char) : Nat := (cs.map Char.utf8Size).foldl (· + ·) 0

/-- The unread text and the reader's position. -/
structure Cursor where
  rest : List Char
  pos : Pos
  deriving Repr

/-- A cursor at the start of `text`. -/
def Cursor.start (text : String) : Cursor := ⟨text.toList, Pos.origin⟩

/-- The next character, if any. -/
def Cursor.peek (c : Cursor) : Option Char := c.rest.head?

/-- The cursor after one more character. -/
def Cursor.advance (c : Cursor) : Cursor :=
  match c.rest with
  | [] => c
  | ch :: cs => ⟨cs, c.pos.next ch⟩

/-- An error at the cursor. -/
def Cursor.errorHere (c : Cursor) (code : ErrorCode) : Error := ⟨code, some c.pos.here⟩

/-- An error one byte past the cursor. -/
def Cursor.errorAhead (c : Cursor) (code : ErrorCode) : Error := ⟨code, some (c.pos.ahead c.peek)⟩

/-- An error that has no position yet gets the cursor's. -/
def Cursor.fix (c : Cursor) (e : Error) : Error :=
  match e.position with
  | some _ => e
  | none => ⟨e.code, some c.pos.here⟩

/-! ## White space and words -/

/-- Whether `ch` is JSON white space. -/
def isJsonSpace (ch : Char) : Bool := ch = ' ' || ch = '\n' || ch = '\t' || ch = '\r'

/-- Skip white space. -/
def skipSpace : List Char → Pos → Cursor
  | [], p => ⟨[], p⟩
  | ch :: cs, p => if isJsonSpace ch then skipSpace cs (p.next ch) else ⟨ch :: cs, p⟩

/-- The cursor after white space. -/
def Cursor.skipSpace (c : Cursor) : Cursor := Json.skipSpace c.rest c.pos

/-- **The rest of a word** (`ull`, `rue`, `alse`), its first letter already read. -/
def expectWord : List Char → Cursor → Except Error Cursor
  | [], c => .ok c
  | w :: ws, c =>
    match c.rest with
    | [] => .error (c.errorHere .eofWhileParsingValue)
    | ch :: cs =>
      if ch = w then expectWord ws ⟨cs, c.pos.next ch⟩
      else .error (c.errorAhead .expectedSomeIdent)

/-! ## Strings -/

/-- Whether `ch` is a hexadecimal digit. -/
def isHexDigit (ch : Char) : Bool :=
  ('0' ≤ ch && ch ≤ '9') || ('a' ≤ ch && ch ≤ 'f') || ('A' ≤ ch && ch ≤ 'F')

/-- The value of a hexadecimal digit. -/
def hexValue (ch : Char) : Nat :=
  if ch ≤ '9' then ch.toNat - 48 else if ch ≤ 'F' then ch.toNat - 55 else ch.toNat - 87

/-- The value of four hexadecimal digits. -/
def hex4 (a b c d : Char) : Option Nat :=
  if isHexDigit a && isHexDigit b && isHexDigit c && isHexDigit d then
    some (((hexValue a * 16 + hexValue b) * 16 + hexValue c) * 16 + hexValue d)
  else none

/-- The character a one-letter escape stands for. -/
def simpleEscape (e : Char) : Option Char :=
  if e = '"' then some '"'
  else if e = '\\' then some '\\'
  else if e = '/' then some '/'
  else if e = 'b' then some '\x08'
  else if e = 'f' then some '\x0c'
  else if e = 'n' then some '\n'
  else if e = 'r' then some '\r'
  else if e = 't' then some '\t'
  else none

/-- The error for a `\u` escape with fewer than four characters left: a bad escape if four bytes
remain, else the end of the text. -/
def shortHexError (hs : List Char) (p : Pos) : Error :=
  if 4 ≤ utf8Length hs then ⟨.invalidEscape, some (positionAfterBytes 4 hs p)⟩
  else ⟨.eofWhileParsingString, some (p.nextAll hs).here⟩

/-- **A string literal's contents**, the opening quote already read: characters up to the
closing quote, with escapes decoded. A `\u` escape of a leading surrogate must be followed by a
`\u` escape of a trailing one; control characters must be escaped. -/
def scanString : List Char → Pos → List Char → Except Error (String × Cursor)
  | [], p, _ => .error ⟨.eofWhileParsingString, some p.here⟩
  | '"' :: cs, p, acc => .ok (String.ofList acc.reverse, ⟨cs, p.next '"'⟩)
  | '\\' :: cs, p, acc =>
    let p1 := p.next '\\'
    match cs with
    | [] => .error ⟨.eofWhileParsingString, some p1.here⟩
    | 'u' :: hs =>
      let p2 := p1.next 'u'
      match hs with
      | a :: b :: c :: d :: tail =>
        match hex4 a b c d with
        | none => .error ⟨.invalidEscape, some (positionAfterBytes 4 hs p2)⟩
        | some n =>
          let p3 := p2.nextAll [a, b, c, d]
          if 0xDC00 ≤ n ∧ n ≤ 0xDFFF then .error ⟨.loneLeadingSurrogateInHexEscape, some p3.here⟩
          else if n < 0xD800 ∨ 0xDBFF < n then scanString tail p3 (Char.ofNat n :: acc)
          else
            match tail with
            | [] => .error ⟨.eofWhileParsingString, some p3.here⟩
            | '\\' :: tail2 =>
              let p4 := p3.next '\\'
              match tail2 with
              | [] => .error ⟨.eofWhileParsingString, some p4.here⟩
              | 'u' :: hs2 =>
                let p5 := p4.next 'u'
                match hs2 with
                | a2 :: b2 :: c2 :: d2 :: tail3 =>
                  match hex4 a2 b2 c2 d2 with
                  | none => .error ⟨.invalidEscape, some (positionAfterBytes 4 hs2 p5)⟩
                  | some n2 =>
                    let p6 := p5.nextAll [a2, b2, c2, d2]
                    if n2 < 0xDC00 ∨ 0xDFFF < n2 then
                      .error ⟨.loneLeadingSurrogateInHexEscape, some p6.here⟩
                    else
                      let code := ((n - 0xD800) * 0x400 + (n2 - 0xDC00)) + 0x10000
                      scanString tail3 p6 (Char.ofNat code :: acc)
                | _ => .error (shortHexError hs2 p5)
              | x :: _ => .error ⟨.unexpectedEndOfHexEscape, some (p4.ahead (some x))⟩
            | x :: _ => .error ⟨.unexpectedEndOfHexEscape, some (p3.ahead (some x))⟩
      | _ => .error (shortHexError hs p2)
    | e :: es =>
      match simpleEscape e with
      | some x => scanString es (p1.next e) (x :: acc)
      | none => .error ⟨.invalidEscape, some (p1.ahead (some e))⟩
  | ch :: cs, p, acc =>
    if ch.toNat < 0x20 then .error ⟨.controlCharacterWhileParsingString, some (p.next ch).here⟩
    else scanString cs (p.next ch) (ch :: acc)

/-- A string literal's contents, from a cursor just past the opening quote. -/
def Cursor.scanString (c : Cursor) : Except Error (String × Cursor) :=
  Json.scanString c.rest c.pos []

/-! ## Numbers -/

/-- The largest unsigned 64-bit integer. -/
def maxU64 : Nat := Nat.pow 2 64 - 1

/-- The largest signed 32-bit integer. -/
def maxI32 : Nat := Nat.pow 2 31 - 1

/-- Whether appending digit `d` to `n` would pass `limit`. -/
def wouldOverflow (n d limit : Nat) : Bool :=
  n ≥ limit / 10 && (n > limit / 10 || d > limit % 10)

/-- The value of a decimal digit. -/
def digitOf (ch : Char) : Nat := ch.toNat - 48

/-- `n` clamped to the signed 32-bit range. -/
def saturate32 (n : Int) : Int := max (-2147483648) (min n 2147483647)

/-- The double nearest to `10 ^ k`. -/
def pow10 (k : Nat) : BinFloat binary64 := BinFloat.ofNat binary64 (Nat.pow 10 k)

/-- Scaling by `10 ^ exponent`, in double arithmetic: one multiplication or division by a power
of ten up to `10 ^ 308`, after dividing by `10 ^ 308` as often as needed for smaller
exponents; `none` when the result is infinite. -/
def scaleByPow10 (f : BinFloat binary64) (exponent : Int) : Option (BinFloat binary64) :=
  if exponent.natAbs ≤ 308 then
    if 0 ≤ exponent then
      let g := f.mul (pow10 exponent.toNat)
      if g.isInfinite then none else some g
    else some (f.div (pow10 exponent.natAbs))
  else if f.isZero then some f
  else if 0 ≤ exponent then none
  else scaleByPow10 (f.div (pow10 308)) (exponent + 308)
termination_by exponent.natAbs
decreasing_by omega

/-- **The double of a decimal** `± significand * 10 ^ exponent`, or `none` when it is
infinite. -/
def floatFromParts (positive : Bool) (significand : Nat) (exponent : Int) :
    Option (BinFloat binary64) :=
  (scaleByPow10 (BinFloat.ofNat binary64 significand) exponent).map fun f =>
    if positive then f else f.neg

/-- The double of a decimal at the cursor, or the out-of-range error there. -/
def finishFloat (positive : Bool) (significand : Nat) (exponent : Int) (c : Cursor) :
    Except Error (Number × Cursor) :=
  match floatFromParts positive significand exponent with
  | some f => .ok (.float f, c)
  | none => .error (c.errorHere .numberOutOfRange)

/-- Skip decimal digits. -/
def skipDigits : List Char → Pos → Cursor
  | [], p => ⟨[], p⟩
  | ch :: cs, p => if ch.isDigit then skipDigits cs (p.next ch) else ⟨ch :: cs, p⟩

/-- An exponent too large for 32 bits: an error if it would make a nonzero number infinite,
else the number is zero. -/
def exponentOverflow (positive zeroSignificand positiveExp : Bool) (c : Cursor) :
    Except Error (Number × Cursor) :=
  if !zeroSignificand && positiveExp then .error (c.errorHere .numberOutOfRange)
  else
    let c := skipDigits c.rest c.pos
    .ok (.float (if positive then BinFloat.zero else BinFloat.zero.neg), c)

/-- The digits of an exponent after its first. -/
def exponentDigits (positive : Bool) (significand : Nat) (startingExp : Int) (positiveExp : Bool)
    (exp : Nat) : List Char → Pos → Except Error (Number × Cursor)
  | [], p =>
    let e := if positiveExp then startingExp + exp else startingExp - exp
    finishFloat positive significand (saturate32 e) ⟨[], p⟩
  | ch :: cs, p =>
    if ch.isDigit then
      let p' := p.next ch
      if wouldOverflow exp (digitOf ch) maxI32 then
        exponentOverflow positive (significand == 0) positiveExp ⟨cs, p'⟩
      else exponentDigits positive significand startingExp positiveExp (exp * 10 + digitOf ch) cs p'
    else
      let e := if positiveExp then startingExp + exp else startingExp - exp
      finishFloat positive significand (saturate32 e) ⟨ch :: cs, p⟩

/-- **An exponent part**, the cursor on its `e` or `E`. -/
def scanExponent (positive : Bool) (significand : Nat) (startingExp : Int) (c : Cursor) :
    Except Error (Number × Cursor) :=
  let c := c.advance
  let (positiveExp, c) :=
    match c.rest with
    | '+' :: _ => (true, c.advance)
    | '-' :: _ => (false, c.advance)
    | _ => (true, c)
  match c.rest with
  | [] => .error (c.errorHere .eofWhileParsingValue)
  | ch :: cs =>
    if ch.isDigit then
      exponentDigits positive significand startingExp positiveExp (digitOf ch) cs (c.pos.next ch)
    else .error (c.errorAhead .invalidNumber)

/-- After the digits of a number: an exponent part, or the end of the number. -/
def exponentOrEnd (positive : Bool) (significand : Nat) (exponent : Int) (c : Cursor) :
    Except Error (Number × Cursor) :=
  match c.peek with
  | some 'e' | some 'E' => scanExponent positive significand exponent c
  | _ => finishFloat positive significand exponent c

/-- Fraction digits that no longer fit the significand are dropped. -/
def fractionOverflow (positive : Bool) (significand : Nat) (exponent : Int) (c : Cursor) :
    Except Error (Number × Cursor) :=
  exponentOrEnd positive significand exponent (skipDigits c.rest c.pos)

/-- The digits of a fraction. -/
def fractionDigits (positive : Bool) (significand : Nat) (count : Nat) (expBefore : Int) :
    List Char → Pos → Except Error (Number × Cursor)
  | ch :: cs, p =>
    if ch.isDigit then
      if wouldOverflow significand (digitOf ch) maxU64 then
        fractionOverflow positive significand (expBefore - count) ⟨ch :: cs, p⟩
      else fractionDigits positive (significand * 10 + digitOf ch) (count + 1) expBefore cs (p.next ch)
    else if count = 0 then .error (Cursor.errorAhead ⟨ch :: cs, p⟩ .invalidNumber)
    else exponentOrEnd positive significand (expBefore - count) ⟨ch :: cs, p⟩
  | [], p =>
    if count = 0 then .error (Cursor.errorHere ⟨[], p⟩ .eofWhileParsingValue)
    else exponentOrEnd positive significand (expBefore - count) ⟨[], p⟩

/-- **A fraction**, the cursor on its decimal point. -/
def scanFraction (positive : Bool) (significand : Nat) (expBefore : Int) (c : Cursor) :
    Except Error (Number × Cursor) :=
  let c := c.advance
  fractionDigits positive significand 0 expBefore c.rest c.pos

/-- An integer too long for 64 bits: the remaining digits only raise the exponent. -/
def longInteger (positive : Bool) (significand : Nat) (exponent : Nat) :
    List Char → Pos → Except Error (Number × Cursor)
  | [], p => finishFloat positive significand exponent ⟨[], p⟩
  | ch :: cs, p =>
    if ch.isDigit then longInteger positive significand (exponent + 1) cs (p.next ch)
    else if ch = '.' then scanFraction positive significand exponent ⟨ch :: cs, p⟩
    else if ch = 'e' ∨ ch = 'E' then scanExponent positive significand exponent ⟨ch :: cs, p⟩
    else finishFloat positive significand exponent ⟨ch :: cs, p⟩

/-- An integer without fraction or exponent: unsigned when positive; when negative, an integer
unless it is zero (which is the double `-0.0`) or below `-2 ^ 63` (a double then). -/
def integerNumber (positive : Bool) (significand : Nat) : Number :=
  if positive then .unsigned significand
  else if significand = 0 ∨ Nat.pow 2 63 < significand then
    .float (BinFloat.ofNat binary64 significand).neg
  else .negative (-(significand : Int))

/-- After the integer digits: a fraction, an exponent part, or the end of an integer. -/
def afterInteger (positive : Bool) (significand : Nat) (c : Cursor) :
    Except Error (Number × Cursor) :=
  match c.peek with
  | some '.' => scanFraction positive significand 0 c
  | some 'e' | some 'E' => scanExponent positive significand 0 c
  | _ => .ok (integerNumber positive significand, c)

/-- The integer digits after the first. -/
def integerDigits (positive : Bool) (significand : Nat) :
    List Char → Pos → Except Error (Number × Cursor)
  | [], p => afterInteger positive significand ⟨[], p⟩
  | ch :: cs, p =>
    if ch.isDigit then
      if wouldOverflow significand (digitOf ch) maxU64 then
        longInteger positive significand 0 (ch :: cs) p
      else integerDigits positive (significand * 10 + digitOf ch) cs (p.next ch)
    else afterInteger positive significand ⟨ch :: cs, p⟩

/-- **A number**, its minus sign (if `positive` is false) already read. A leading zero may not be
followed by another digit. -/
def scanNumber (positive : Bool) (c : Cursor) : Except Error (Number × Cursor) :=
  match c.rest with
  | [] => .error (c.errorHere .eofWhileParsingValue)
  | ch :: cs =>
    let p := c.pos.next ch
    if ch = '0' then
      match cs with
      | d :: _ =>
        if d.isDigit then .error (Cursor.errorAhead ⟨cs, p⟩ .invalidNumber)
        else afterInteger positive 0 ⟨cs, p⟩
      | [] => afterInteger positive 0 ⟨cs, p⟩
    else if ch.isDigit then integerDigits positive (digitOf ch) cs p
    else .error (c.errorAhead .invalidNumber)

end StompConsole.Json
