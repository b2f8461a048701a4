import StompConsole.Toml.Document
import StompConsole.Url.Encoding

/-!
# Reading TOML

A reader for TOML 1.0 documents: comments, bare, quoted and dotted keys, `[table]` and
`[[array of tables]]` headers, the four kinds of string, integers in decimal, hexadecimal, octal
and binary, floats, booleans, offset and local date-times, dates and times, arrays and inline
tables. Every text that is not a valid document is refused; what a document means is left to
`Document`.

Readers take the text still to read and give back what they read with the text after it. The
nested readers carry a fuel bound, which the whole text's length more than covers: every call
consumes a character.
-/

namespace StompConsole.Toml

open Url

/-- A reader: what it read and the text after it, or why the text is refused. -/
abbrev Reader (α : Type) := List Char → Except String (α × List Char)

/-- Spaces and tabs. -/
def isBlank (c : Char) : Bool := c == ' ' || c == '\t'

/-- Skip spaces and tabs. -/
def skipBlank (cs : List Char) : List Char := cs.dropWhile isBlank

/-- A line break at the front (LF or CRLF), and the text after it. -/
def lineBreak : List Char → Option (List Char)
  | '\n' :: r => some r
  | '\r' :: '\n' :: r => some r
  | _ => none

/-- Whether a character may appear in a comment or a single-line string: tab, or anything from
space on but DEL. -/
def isTextChar (c : Char) : Bool := c == '\t' || (c.toNat ≥ 0x20 && c.toNat != 0x7F)

/-- Skip a comment if one starts here: `#` and the rest of its line. -/
def skipComment (cs : List Char) : Except String (List Char) :=
  match cs with
  | '#' :: r =>
    let (body, rest) := r.span fun c => c != '\n' && c != '\r'
    if body.all isTextChar then .ok rest else .error "control character in comment"
  | _ => .ok cs

/-- **The end of a line**: blanks, an optional comment, and a line break or the end of the text. -/
def lineEnd (cs : List Char) : Except String (List Char) := do
  let cs ← skipComment (skipBlank cs)
  match cs with
  | [] => return []
  | _ => match lineBreak cs with
    | some r => return r
    | none => throw "expected a new line"

/-- Skip blanks, comments and line breaks, as between the items of an array. -/
def skipLayout : Nat → List Char → Except String (List Char)
  | 0, cs => .ok cs
  | fuel + 1, cs => do
    let cs ← skipComment (skipBlank cs)
    match lineBreak cs with
    | some r => skipLayout fuel r
    | none => return cs

/-! ## Strings -/

/-- The value of hexadecimal digits. -/
def hexNumber (cs : List Char) : Option Nat :=
  cs.foldl (fun acc c => acc.bind fun n => (hexDigitValue c).map (16 * n + ·)) (some 0)

/-- A scalar value from its code, refusing surrogates and codes past `10FFFF`. -/
def scalar (n : Nat) : Except String Char :=
  if n < 0xD800 ∨ (0xDFFF < n ∧ n ≤ 0x10FFFF) then .ok (Char.ofNat n) else .error "invalid escape"

/-- **An escape sequence** after its backslash. -/
def escape : Reader Char
  | 'b' :: r => .ok ('\x08', r)
  | 't' :: r => .ok ('\t', r)
  | 'n' :: r => .ok ('\n', r)
  | 'f' :: r => .ok ('\x0C', r)
  | 'r' :: r => .ok ('\r', r)
  | '"' :: r => .ok ('"', r)
  | '\\' :: r => .ok ('\\', r)
  | 'u' :: r =>
    match hexNumber (r.take 4) with
    | some n => if (r.take 4).length = 4 then (scalar n).map (·, r.drop 4) else .error "short escape"
    | none => .error "invalid escape"
  | 'U' :: r =>
    match hexNumber (r.take 8) with
    | some n => if (r.take 8).length = 8 then (scalar n).map (·, r.drop 8) else .error "short escape"
    | none => .error "invalid escape"
  | _ => .error "invalid escape"

/-- The rest of a basic string after its opening quote; `acc` holds what was read, last first. -/
def basicString : Nat → List Char → List Char → Except String (String × List Char)
  | 0, _, _ => .error "string too long"
  | _, [], _ => .error "unterminated string"
  | fuel + 1, c :: r, acc =>
    if c == '"' then .ok (String.ofList acc.reverse, r)
    else if c == '\\' then do
      let (e, r) ← escape r
      basicString fuel r (e :: acc)
    else if isTextChar c then basicString fuel r (c :: acc)
    else .error "control character in string"

/-- The rest of a literal string after its opening quote. -/
def literalString (cs : List Char) : Except String (String × List Char) :=
  let (body, rest) := cs.span fun c => c != '\''
  match rest with
  | '\'' :: r =>
    if body.all isTextChar then .ok (String.ofList body, r) else .error "control character in string"
  | _ => .error "unterminated string"

/-- Skip a line break right after the opening delimiter of a multi-line string. -/
def skipFirstBreak (cs : List Char) : List Char := (lineBreak cs).getD cs

/-- Skip the white space and line breaks after a line-ending backslash. -/
def skipTrimmed : Nat → List Char → List Char
  | 0, cs => cs
  | fuel + 1, cs =>
    match lineBreak cs with
    | some r => skipTrimmed fuel r
    | none => match cs with
      | c :: r => if isBlank c then skipTrimmed fuel r else cs
      | [] => cs

/-- The rest of a multi-line string after its opening delimiter, `q` being its quote. A run of
three to five quotes closes it, the quotes past three belonging to the string; `escapes` tells
whether backslashes start escapes. -/
def multiLineString (q : Char) (escapes : Bool) : Nat → List Char → List Char →
    Except String (String × List Char)
  | 0, _, _ => .error "string too long"
  | _, [], _ => .error "unterminated string"
  | fuel + 1, c :: r, acc =>
    if c == q then
      let run := (c :: r).takeWhile (· == q)
      let n := run.length
      if n < 3 then multiLineString q escapes fuel ((c :: r).drop n) (run ++ acc)
      else if n ≤ 5 then .ok (String.ofList ((List.replicate (n - 3) q) ++ acc).reverse, (c :: r).drop n)
      else .error "too many quotes"
    else if escapes && c == '\\' then
      let afterBlank := skipBlank r
      match lineBreak afterBlank with
      | some _ => multiLineString q escapes fuel (skipTrimmed (afterBlank.length + 1) afterBlank) acc
      | none => do
        let (e, r) ← escape r
        multiLineString q escapes fuel r (e :: acc)
    else match lineBreak (c :: r) with
      | some rest => multiLineString q escapes fuel rest ('\n' :: acc)
      | none =>
        if isTextChar c then multiLineString q escapes fuel r (c :: acc)
        else .error "control character in string"

/-! ## Keys -/

/-- Whether a character may appear in a bare key. -/
def isBareKeyChar (c : Char) : Bool :=
  ('a' ≤ c && c ≤ 'z') || ('A' ≤ c && c ≤ 'Z') || ('0' ≤ c && c ≤ '9') || c == '_' || c == '-'

/-- **One key**: bare, or a single-line quoted string. -/
def simpleKey (cs : List Char) : Except String (String × List Char) :=
  match cs with
  | '"' :: r => basicString (r.length + 1) r []
  | '\'' :: r => literalString r
  | _ =>
    let (k, rest) := cs.span isBareKeyChar
    if k.isEmpty then .error "expected a key" else .ok (String.ofList k, rest)

/-- **A dotted key**: keys separated by dots, blanks allowed around them; the blanks after it are
skipped. -/
def dottedKey : Nat → Reader (List String)
  | 0, _ => .error "key too long"
  | fuel + 1, cs => do
    let (k, rest) ← simpleKey cs
    let rest := skipBlank rest
    match rest with
    | '.' :: r =>
      let (ks, rest) ← dottedKey fuel (skipBlank r)
      return (k :: ks, rest)
    | _ => return ([k], rest)

/-! ## Numbers and dates -/

/-- Whether digits are written with single underscores between them only. -/
def underscoredDigits (isDigit : Char → Bool) (cs : List Char) : Bool :=
  match cs with
  | [] => false
  | c :: _ =>
    isDigit c && cs.getLast?.all isDigit &&
      (cs.zip (cs.drop 1)).all fun (a, b) => (isDigit a || isDigit b) && (a != '_' || b != '_') &&
        (isDigit a || a == '_') && (isDigit b || b == '_')

/-- The value of decimal digits, underscores skipped. -/
def digitsNumber (radix : Nat) (cs : List Char) : Nat :=
  cs.foldl (fun n c => if c == '_' then n else radix * n + (hexDigitValue c).getD 0) 0

/-- Whether unsigned decimal digits have no leading zero. -/
def noLeadingZero (cs : List Char) : Bool :=
  match cs with
  | '0' :: _ :: _ => false
  | _ => true

/-- The largest integer. -/
def maxInteger : Nat := Nat.pow 2 63 - 1

/-- **An integer**, or `none` when the text is not one. -/
def integerOf (cs : List Char) : Option Int :=
  let digitOk (radix : Nat) (c : Char) : Bool := (hexDigitValue c).any (· < radix)
  let based (radix : Nat) (ds : List Char) : Option Int :=
    if underscoredDigits (digitOk radix) ds then
      let n := digitsNumber radix ds
      if n ≤ maxInteger then some n else none
    else none
  match cs with
  | '0' :: 'x' :: ds => based 16 ds
  | '0' :: 'o' :: ds => based 8 ds
  | '0' :: 'b' :: ds => based 2 ds
  | _ =>
    let (negative, ds) := match cs with
      | '-' :: ds => (true, ds)
      | '+' :: ds => (false, ds)
      | _ => (false, cs)
    if underscoredDigits Char.isDigit ds && noLeadingZero ds then
      let n := digitsNumber 10 ds
      if negative then (if n ≤ maxInteger + 1 then some (-(n : Int)) else none)
      else if n ≤ maxInteger then some n else none
    else none

/-- Whether the text is a float. -/
def isFloat (cs : List Char) : Bool :=
  let unsigned := match cs with
    | '-' :: ds | '+' :: ds => ds
    | _ => cs
  if unsigned == "inf".toList || unsigned == "nan".toList then true
  else
    let (intPart, rest) := unsigned.span fun (c : Char) => c.isDigit || c == '_'
    let intOk := underscoredDigits Char.isDigit intPart && noLeadingZero intPart
    let (frac, rest) := match rest with
      | '.' :: r => let (f, r) := r.span fun (c : Char) => c.isDigit || c == '_'; (some f, r)
      | _ => (none, rest)
    let fracOk := frac.all (underscoredDigits Char.isDigit)
    let expOk : Option Bool := match rest with
      | 'e' :: r | 'E' :: r =>
        let e := match r with
          | '+' :: d | '-' :: d => d
          | _ => r
        some (underscoredDigits Char.isDigit e)
      | [] => none
      | _ => some false
    intOk && fracOk && (frac.isSome || expOk.isSome) && expOk.getD true

/-- Whether two characters are a number below `limit` written with two digits. -/
def twoDigitsBelow (limit : Nat) : List Char → Bool
  | [a, b] => a.isDigit && b.isDigit && (a.toNat - 48) * 10 + (b.toNat - 48) < limit
  | _ => false

/-- The number written by digits. -/
def digitValueOf (cs : List Char) : Nat := cs.foldl (fun n c => 10 * n + (c.toNat - 48)) 0

/-- How many days a month of a year has. -/
def daysInMonth (year month : Nat) : Nat :=
  if month = 2 then
    if year % 4 = 0 ∧ (year % 100 ≠ 0 ∨ year % 400 = 0) then 29 else 28
  else if month = 4 ∨ month = 6 ∨ month = 9 ∨ month = 11 then 30
  else 31

/-- Whether the text is a date `YYYY-MM-DD` that exists. -/
def isDate (cs : List Char) : Bool :=
  match cs with
  | [y1, y2, y3, y4, '-', m1, m2, '-', d1, d2] =>
    [y1, y2, y3, y4, m1, m2, d1, d2].all Char.isDigit &&
      let y := digitValueOf [y1, y2, y3, y4]
      let m := digitValueOf [m1, m2]
      let d := digitValueOf [d1, d2]
      1 ≤ m && m ≤ 12 && 1 ≤ d && d ≤ daysInMonth y m
  | _ => false

/-- Whether the text is a time `HH:MM:SS` with optional fraction. -/
def isTime (cs : List Char) : Bool :=
  match cs with
  | h1 :: h2 :: ':' :: m1 :: m2 :: ':' :: s1 :: s2 :: rest =>
    twoDigitsBelow 24 [h1, h2] && twoDigitsBelow 60 [m1, m2] && twoDigitsBelow 61 [s1, s2] &&
      match rest with
      | [] => true
      | '.' :: f => !f.isEmpty && f.all Char.isDigit
      | _ => false
  | _ => false

/-- Whether the text is a time with an offset (`Z` or `±HH:MM`). -/
def isOffsetTime (cs : List Char) : Bool :=
  match cs.reverse with
  | 'Z' :: t | 'z' :: t => isTime t.reverse
  | m2 :: m1 :: ':' :: h2 :: h1 :: s :: t =>
    (s == '+' || s == '-') && twoDigitsBelow 24 [h1, h2] && twoDigitsBelow 60 [m1, m2] &&
      isTime t.reverse
  | _ => false

/-- **Whether the text is a date-time**, a date or a time. -/
def isDateTime (cs : List Char) : Bool :=
  isDate cs || isTime cs ||
    let separator := cs.getD 10 'x'
    (cs.length > 11 && isDate (cs.take 10) &&
      (separator == 'T' || separator == 't' || separator == ' ') &&
      (isTime (cs.drop 11) || isOffsetTime (cs.drop 11)))

/-- Whether a character may continue a number or a date. -/
def isNumberChar (c : Char) : Bool :=
  c.isAlphanum || c == '_' || c == '+' || c == '-' || c == '.' || c == ':'

/-- **A number or a date**, read as the longest run of the characters they are written with; a
date may be followed by a space and a time. -/
def numberOrDate (cs : List Char) : Except String (Value × List Char) :=
  let (token, rest) := cs.span isNumberChar
  let (token, rest) :=
    if isDate token then
      match rest with
      | ' ' :: a :: b :: ':' :: _ =>
        if a.isDigit && b.isDigit then
          let (time, rest') := (rest.drop 1).span isNumberChar
          (token ++ ' ' :: time, rest')
        else (token, rest)
      | _ => (token, rest)
    else (token, rest)
  if isDateTime token then .ok (.datetime (String.ofList token), rest)
  else match integerOf token with
    | some n => .ok (.integer n, rest)
    | none =>
      if isFloat token then .ok (.float (String.ofList token), rest)
      else .error "invalid value"

/-! ## Values -/

mutual

/-- **A value.** -/
def value : Nat → Reader Value
  | 0, _ => .error "value too deep"
  | fuel + 1, cs =>
    match cs with
    | '"' :: '"' :: '"' :: r =>
      let r := skipFirstBreak r
      (multiLineString '"' true (r.length + 1) r []).map fun (s, r) => (.string s, r)
    | '"' :: r => (basicString (r.length + 1) r []).map fun (s, r) => (.string s, r)
    | '\'' :: '\'' :: '\'' :: r =>
      let r := skipFirstBreak r
      (multiLineString '\'' false (r.length + 1) r []).map fun (s, r) => (.string s, r)
    | '\'' :: r => (literalString r).map fun (s, r) => (.string s, r)
    | '[' :: r => arrayItems fuel r []
    | '{' :: r => inlineEntries fuel (skipBlank r) [] true
    | 't' :: 'r' :: 'u' :: 'e' :: r => .ok (.boolean true, r)
    | 'f' :: 'a' :: 'l' :: 's' :: 'e' :: r => .ok (.boolean false, r)
    | _ => numberOrDate cs

/-- The items of an array after its opening bracket; `acc` holds the items read, last first. -/
def arrayItems : Nat → List Char → List Value → Except String (Value × List Char)
  | 0, _, _ => .error "array too long"
  | fuel + 1, cs, acc => do
    let cs ← skipLayout (cs.length + 1) cs
    match cs with
    | ']' :: r => return (.array acc.reverse, r)
    | _ =>
      let (v, r) ← value fuel cs
      let r ← skipLayout (r.length + 1) r
      match r with
      | ',' :: r => arrayItems fuel r (v :: acc)
      | ']' :: r => return (.array (v :: acc).reverse, r)
      | _ => throw "expected , or ]"

/-- The entries of an inline table after its opening brace (and blanks); `first` tells whether
no entry was read yet. -/
def inlineEntries : Nat → List Char → List (List String × Value) → Bool →
    Except String (Value × List Char)
  | 0, _, _, _ => .error "inline table too long"
  | fuel + 1, cs, acc, first =>
    match cs with
    | '}' :: r => if first then .ok (.inlineTable [], r) else .error "trailing comma"
    | _ => do
      let (keys, r) ← dottedKey (cs.length + 1) cs
      let r ← match r with
        | '=' :: r => pure (skipBlank r)
        | _ => throw "expected ="
      let (v, r) ← value fuel r
      let acc := (keys, v) :: acc
      match skipBlank r with
      | ',' :: r => inlineEntries fuel (skipBlank r) acc false
      | '}' :: r => return (.inlineTable acc.reverse, r)
      | _ => throw "expected , or \x7d"

end

end StompConsole.Toml

namespace StompConsole.Toml

/-- Whether the entries of an inline table define no key twice. -/
def checkEntries (entries : List (List String × Value)) : Except String Unit := do
  let _ ← entries.foldlM (fun (d : Document) (keys, v) => d.setValue [] keys v) {}
  return ()

/-- Check the inline tables of a value, all the way down. -/
def checkValue : Value → Except String Unit
  | .array items => checkItems items
  | .inlineTable entries => do
    checkEntries entries
    checkPairs entries
  | _ => .ok ()
where
  /-- Check every item of an array. -/
  checkItems : List Value → Except String Unit
    | [] => .ok ()
    | v :: vs => do checkValue v; checkItems vs
  /-- Check every value of an inline table. -/
  checkPairs : List (List String × Value) → Except String Unit
    | [] => .ok ()
    | (_, v) :: rest => do checkValue v; checkPairs rest

/-- The keys of a header after its opening bracket(s), up to the closing `close`. -/
def headerKeys (close : List Char) (cs : List Char) : Except String (List String × List Char) := do
  let (keys, rest) ← dottedKey (cs.length + 1) (skipBlank cs)
  if rest.take close.length == close then return (keys, rest.drop close.length)
  else throw "unterminated header"

/-- Read the statements of a document: `d` is what was defined so far and `current` the table
that key/value pairs go to. -/
def statements : Nat → List Char → Document → Path → Except String Document
  | 0, _, _, _ => .error "document too long"
  | fuel + 1, cs, d, current =>
    match skipBlank cs with
    | [] => .ok d
    | '[' :: '[' :: r => do
      let (keys, r) ← headerKeys "]]".toList r
      let (d, p) ← d.openArrayTable keys
      statements fuel (← lineEnd r) d p
    | '[' :: r => do
      let (keys, r) ← headerKeys "]".toList r
      let (d, p) ← d.openTable keys
      statements fuel (← lineEnd r) d p
    | line =>
      if line.head?.any fun c => c == '#' || c == '\n' || c == '\r' then do
        statements fuel (← lineEnd line) d current
      else do
        let (keys, r) ← dottedKey (line.length + 1) line
        let r ← match r with
          | '=' :: r => pure (skipBlank r)
          | _ => throw "expected ="
        let (v, r) ← value (2 * r.length + 2) r
        checkValue v
        let d ← d.setValue current keys v
        statements fuel (← lineEnd r) d current

/-- **Read a TOML document**, a leading byte order mark allowed. -/
def read (text : String) : Except String Document :=
  let cs := match text.toList with
    | c :: r => if c.toNat == 0xFEFF then r else c :: r
    | [] => []
  statements (cs.length + 1) cs {} []

end StompConsole.Toml
