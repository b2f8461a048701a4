import StompConsole.Json.Scan

/-!
# Reading JSON

The reader is recursive descent over a `Cursor`. Reading a value looks at the first character
after white space: a word, a number, a string, or an array or object, whose elements are read by
the same function one level deeper. Nesting is limited to 128 levels; the 128th opening bracket
is refused. After the top-level value only white space may follow.

Besides general values, three shapes are read directly from text, with the messages a typed
reader gives when the text holds something else: an array of strings, a single string, and a
pair of an unsigned 16-bit integer and a string. Their type errors name what was found
("invalid type: map, expected a sequence") and are placed where the reader stood when it gave
up; a pair with too few elements is reported after its closing bracket.

Loops over the elements of one array or object take a fuel argument, the number of characters
left when the loop starts: every element consumes at least one character, so the fuel never runs
out on real input.
-/

namespace StompConsole.Json

open Numeric

/-- The nesting limit. -/
def maxDepth : Nat := 128

/-- The error for the text after a sequence's elements: `]` closes it; anything else is a
trailing comma or trailing characters. -/
def closeSeq (c : Cursor) : Except Error Cursor :=
  let c := c.skipSpace
  match c.rest with
  | ']' :: _ => .ok c.advance
  | ',' :: _ =>
    let c := c.advance.skipSpace
    match c.rest with
    | ']' :: _ => .error (c.errorAhead .trailingComma)
    | _ => .error (c.errorAhead .trailingCharacters)
  | _ :: _ => .error (c.errorAhead .trailingCharacters)
  | [] => .error (c.errorAhead .eofWhileParsingList)

/-- Whether a sequence has another element: `none` at its closing bracket, else the cursor on
the element. The first element needs no comma; a comma followed by the closing bracket is a
trailing comma. -/
def nextElement (first : Bool) (c : Cursor) : Except Error (Option Cursor) :=
  let c := c.skipSpace
  match c.rest with
  | [] => .error (c.errorAhead .eofWhileParsingList)
  | ']' :: _ => .ok none
  | ch :: _ =>
    if first then .ok (some c)
    else if ch = ',' then
      let c := c.advance.skipSpace
      match c.rest with
      | ']' :: _ => .error (c.errorAhead .trailingComma)
      | _ :: _ => .ok (some c)
      | [] => .error (c.errorAhead .eofWhileParsingValue)
    else .error (c.errorAhead .expectedListCommaOrEnd)

/-- The key of an object's next member: `none` at its closing brace, else the key and the cursor
after it. -/
def nextKey (first : Bool) (c : Cursor) : Except Error (Option (String × Cursor)) :=
  let c := c.skipSpace
  let start : Except Error (Option Cursor) :=
    match c.rest with
    | '}' :: _ => .ok none
    | ch :: _ =>
      if ch = ',' ∧ !first then .ok (some c.advance.skipSpace)
      else if first then .ok (some c)
      else .error (c.errorAhead .expectedObjectCommaOrEnd)
    | [] => .error (c.errorAhead .eofWhileParsingObject)
  match start with
  | .error e => .error e
  | .ok none => .ok none
  | .ok (some c) =>
    match c.rest with
    | '"' :: _ =>
      match c.advance.scanString with
      | .ok (key, c) => .ok (some (key, c))
      | .error e => .error e
    | '}' :: _ => .error (c.errorAhead .trailingComma)
    | _ :: _ => .error (c.errorAhead .keyMustBeAString)
    | [] => .error (c.errorAhead .eofWhileParsingValue)

/-- The colon between a key and its value. -/
def expectColon (c : Cursor) : Except Error Cursor :=
  let c := c.skipSpace
  match c.rest with
  | ':' :: _ => .ok c.advance
  | _ :: _ => .error (c.errorAhead .expectedColon)
  | [] => .error (c.errorAhead .eofWhileParsingObject)

/-- The closing brace of an object. -/
def closeMap (c : Cursor) : Except Error Cursor :=
  let c := c.skipSpace
  match c.rest with
  | '}' :: _ => .ok c.advance
  | ',' :: _ => .error (c.errorAhead .trailingComma)
  | _ :: _ => .error (c.errorAhead .trailingCharacters)
  | [] => .error (c.errorAhead .eofWhileParsingObject)

mutual

/-- **A value** at nesting budget `depth`. -/
def readValue (depth : Nat) (c : Cursor) : Except Error (Value × Cursor) :=
  let c := c.skipSpace
  match c.rest with
  | [] => .error (c.errorAhead .eofWhileParsingValue)
  | ch :: _ =>
    if ch = 'n' then (expectWord ['u', 'l', 'l'] c.advance).map fun c => (.null, c)
    else if ch = 't' then (expectWord ['r', 'u', 'e'] c.advance).map fun c => (.bool true, c)
    else if ch = 'f' then
      (expectWord ['a', 'l', 's', 'e'] c.advance).map fun c => (.bool false, c)
    else if ch = '-' then (scanNumber false c.advance).map fun (n, c) => (.number n, c)
    else if ch.isDigit then (scanNumber true c).map fun (n, c) => (.number n, c)
    else if ch = '"' then c.advance.scanString.map fun (s, c) => (.string s, c)
    else if ch = '[' then
      if h : depth ≤ 1 then .error (c.errorAhead .recursionLimitExceeded)
      else
        let c := c.advance
        match readItems (depth - 1) c.rest.length true [] c with
        | .error e => .error e
        | .ok (items, c) =>
          match closeSeq c with
          | .error e => .error e
          | .ok c => .ok (.array items, c)
    else if ch = '{' then
      if h : depth ≤ 1 then .error (c.errorAhead .recursionLimitExceeded)
      else
        let c := c.advance
        match readMembers (depth - 1) c.rest.length true [] c with
        | .error e => .error e
        | .ok (members, c) =>
          match closeMap c with
          | .error e => .error e
          | .ok c => .ok (.object members, c)
    else .error (c.errorAhead .expectedSomeValue)
termination_by (depth, 0, 0)

/-- The elements of an array at nesting budget `depth`, up to its closing bracket. -/
def readItems (depth fuel : Nat) (first : Bool) (acc : List Value) (c : Cursor) :
    Except Error (List Value × Cursor) :=
  match nextElement first c with
  | .error e => .error e
  | .ok none => .ok (acc.reverse, c)
  | .ok (some c) =>
    match readValue depth c with
    | .error e => .error e
    | .ok (v, c) =>
      match fuel with
      | 0 => .error (c.errorHere .eofWhileParsingList)
      | fuel + 1 => readItems depth fuel false (v :: acc) c
termination_by (depth, 1, fuel)

/-- The members of an object at nesting budget `depth`, up to its closing brace. -/
def readMembers (depth fuel : Nat) (first : Bool) (acc : List (String × Value)) (c : Cursor) :
    Except Error (List (String × Value) × Cursor) :=
  match nextKey first c with
  | .error e => .error e
  | .ok none => .ok (acc, c)
  | .ok (some (key, c)) =>
    match expectColon c with
    | .error e => .error e
    | .ok c =>
      match readValue depth c with
      | .error e => .error e
      | .ok (v, c) =>
        match fuel with
        | 0 => .error (c.errorHere .eofWhileParsingObject)
        | fuel + 1 => readMembers depth fuel false (insertMember key v acc) c
termination_by (depth, 1, fuel)

end

/-- Only white space may follow the value. -/
def expectEnd (c : Cursor) : Except Error Unit :=
  let c := c.skipSpace
  match c.rest with
  | [] => .ok ()
  | _ :: _ => .error (c.errorAhead .trailingCharacters)

/-- **Reading a JSON text** as a value. -/
def parseValue (text : String) : Except Error Value :=
  match readValue maxDepth (Cursor.start text) with
  | .error e => .error e
  | .ok (v, c) => (expectEnd c).map fun _ => v

/-! ## Typed reading -/

/-- The error for text at the cursor that is not of the `expected` type: what it is, read far
enough to name it, placed where the reader stands afterwards. -/
def invalidTypeAt (expected : String) (c : Cursor) : Error :=
  let named (r : Except Error Cursor) (u : Unexpected) : Error :=
    match r with
    | .error e => e
    | .ok c => c.fix ⟨invalidType u expected, none⟩
  match c.rest with
  | 'n' :: _ => named (expectWord ['u', 'l', 'l'] c.advance) .null
  | 't' :: _ => named (expectWord ['r', 'u', 'e'] c.advance) (.bool true)
  | 'f' :: _ => named (expectWord ['a', 'l', 's', 'e'] c.advance) (.bool false)
  | '-' :: _ =>
    match scanNumber false c.advance with
    | .error e => e
    | .ok (n, c) => c.fix ⟨invalidType n.unexpected expected, none⟩
  | '"' :: _ =>
    match c.advance.scanString with
    | .error e => e
    | .ok (s, c) => c.fix ⟨invalidType (.str s) expected, none⟩
  | '[' :: _ => c.fix ⟨invalidType .seq expected, none⟩
  | '{' :: _ => c.fix ⟨invalidType .map expected, none⟩
  | ch :: _ =>
    if ch.isDigit then
      match scanNumber true c with
      | .error e => e
      | .ok (n, c) => c.fix ⟨invalidType n.unexpected expected, none⟩
    else c.errorAhead .expectedSomeValue
  | [] => c.errorAhead .expectedSomeValue

/-- **A string**, or the type error for what stands there instead. -/
def readString (c : Cursor) : Except Error (String × Cursor) :=
  let c := c.skipSpace
  match c.rest with
  | [] => .error (c.errorAhead .eofWhileParsingValue)
  | '"' :: _ => c.advance.scanString
  | _ :: _ => .error (invalidTypeAt "a string" c)

/-- The `u16` reading of a number. -/
def Number.toU16 : Number → Except ErrorCode Nat
  | .unsigned n => if n ≤ 65535 then .ok n else .error (invalidValue (.unsigned n) "u16")
  | .negative n => .error (invalidValue (.signed n) "u16")
  | .float x => .error (invalidType (.float x) "u16")

/-- **An unsigned 16-bit integer**, or the error for what stands there instead. -/
def readU16 (c : Cursor) : Except Error (Nat × Cursor) :=
  let c := c.skipSpace
  let number : Except Error (Number × Cursor) :=
    match c.rest with
    | '-' :: _ => scanNumber false c.advance
    | ch :: _ => if ch.isDigit then scanNumber true c else .error (invalidTypeAt "u16" c)
    | [] => .error (c.errorAhead .eofWhileParsingValue)
  match number with
  | .error e => .error e
  | .ok (n, c) =>
    match n.toU16 with
    | .ok v => .ok (v, c)
    | .error code => .error (c.fix ⟨code, none⟩)

/-- The strings of an array, up to its closing bracket. -/
def readStringItems (fuel : Nat) (first : Bool) (acc : List String) (c : Cursor) :
    Except Error (List String × Cursor) :=
  match nextElement first c with
  | .error e => .error e
  | .ok none => .ok (acc.reverse, c)
  | .ok (some c) =>
    match readString c with
    | .error e => .error e
    | .ok (s, c) =>
      match fuel with
      | 0 => .error (c.errorHere .eofWhileParsingList)
      | fuel + 1 => readStringItems fuel false (s :: acc) c

/-- **An array of strings**, or the error for what stands there instead. -/
def readStringArray (c : Cursor) : Except Error (List String × Cursor) :=
  let c := c.skipSpace
  match c.rest with
  | [] => .error (c.errorAhead .eofWhileParsingValue)
  | '[' :: _ =>
    let c := c.advance
    match readStringItems c.rest.length true [] c with
    | .error e => .error e
    | .ok (items, c) => (closeSeq c).map fun c => (items, c)
  | _ :: _ => .error (invalidTypeAt "a sequence" c)

/-- The description of the pair shape in errors. -/
def pairExpected : String := "a tuple of size 2"

/-- Where a pair with a missing element leaves the reader: past its closing bracket. -/
def pastClosingBracket (c : Cursor) : Cursor := c.skipSpace.advance

/-- **A pair of an unsigned 16-bit integer and a string**, as a two-element array. A missing
element is reported after the closing bracket has been read. -/
def readCodeReason (c : Cursor) : Except Error ((Nat × String) × Cursor) :=
  let c := c.skipSpace
  match c.rest with
  | [] => .error (c.errorAhead .eofWhileParsingValue)
  | '[' :: _ =>
    let c := c.advance
    match nextElement true c with
    | .error e => .error e
    | .ok none => .error ((pastClosingBracket c).fix ⟨invalidLength 0 pairExpected, none⟩)
    | .ok (some c) =>
      match readU16 c with
      | .error e => .error e
      | .ok (code, c) =>
        match nextElement false c with
        | .error e => .error e
        | .ok none => .error ((pastClosingBracket c).fix ⟨invalidLength 1 pairExpected, none⟩)
        | .ok (some c) =>
          match readString c with
          | .error e => .error e
          | .ok (reason, c) => (closeSeq c).map fun c => ((code, reason), c)
  | _ :: _ => .error (invalidTypeAt pairExpected c)

/-- **Reading a whole text** with a typed reader: the value, then only white space. -/
def readAll {α : Type} (reader : Cursor → Except Error (α × Cursor)) (text : String) :
    Except Error α :=
  match reader (Cursor.start text) with
  | .error e => .error e
  | .ok (v, c) => (expectEnd c).map fun _ => v

end StompConsole.Json
