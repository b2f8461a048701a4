import StompConsole.Numeric.Shortest

/-!
# JSON values and their compact text

A JSON value as the broker's payloads carry it. Numbers keep the three shapes the reader
produces: an unsigned integer below `2 ^ 64`, a negative integer of at least `-2 ^ 63`, or a
finite double. Objects keep their members sorted by key, each key once; inserting a key that is
already there replaces its value, so the last of duplicate keys wins.

The compact text writes no white space, escapes only the quote, the backslash and the control
characters below U+0020 (as `\b \f \n \r \t` or `\u00xx` in lower-case hexadecimal), and leaves
every other character as it is.
-/

namespace StompConsole.Json

open Numeric

/-- A JSON number. -/
inductive Number where
  /-- An integer in `0 .. 2 ^ 64 - 1`. -/
  | unsigned (n : Nat)
  /-- A negative integer in `-2 ^ 63 .. -1`. -/
  | negative (n : Int)
  /-- Any other number, as the nearest double; never infinite. -/
  | float (x : BinFloat binary64)
  deriving DecidableEq, Repr

/-- A JSON value. -/
inductive Value where
  | null
  | bool (b : Bool)
  | number (n : Number)
  | string (s : String)
  | array (items : List Value)
  /-- Members sorted by key, each key once. -/
  | object (members : List (String × Value))
  deriving Repr, Inhabited

/-- Lexicographic order of character lists by code point, which is also the byte order of
their UTF-8 encodings. -/
def compareChars : List Char → List Char → Ordering
  | [], [] => .eq
  | [], _ :: _ => .lt
  | _ :: _, [] => .gt
  | a :: as, b :: bs =>
    if a.toNat < b.toNat then .lt
    else if b.toNat < a.toNat then .gt
    else compareChars as bs

/-- The order of object keys. -/
def compareKeys (a b : String) : Ordering := compareChars a.toList b.toList

/-- **Member insertion**: `(k, v)` put in key order, replacing the value of an equal key. -/
def insertMember (k : String) (v : Value) : List (String × Value) → List (String × Value)
  | [] => [(k, v)]
  | (k', v') :: ms =>
    match compareKeys k k' with
    | .lt => (k, v) :: (k', v') :: ms
    | .eq => (k, v) :: ms
    | .gt => (k', v') :: insertMember k v ms

namespace Value

/-- The value of member `k` of an object; `none` for a missing key or a non-object. -/
def get (v : Value) (k : String) : Option Value :=
  match v with
  | .object ms => (ms.find? (·.1 == k)).map (·.2)
  | _ => none

/-- Whether the value is `null`. -/
def isNull : Value → Bool
  | .null => true
  | _ => false

/-- Whether the value is an object. -/
def isObject : Value → Bool
  | .object _ => true
  | _ => false

end Value

/-! ## Compact text -/

/-- A lower-case hexadecimal digit. -/
def hexDigit (n : Nat) : Char :=
  if n < 10 then Char.ofNat (48 + n) else Char.ofNat (87 + n)

/-- How one character of a string is written between the quotes. -/
def escapeJsonChar (c : Char) : List Char :=
  if c = '"' then ['\\', '"']
  else if c = '\\' then ['\\', '\\']
  else if c = '\x08' then ['\\', 'b']
  else if c = '\x0c' then ['\\', 'f']
  else if c = '\n' then ['\\', 'n']
  else if c = '\r' then ['\\', 'r']
  else if c = '\t' then ['\\', 't']
  else if c.toNat < 0x20 then
    ['\\', 'u', '0', '0', hexDigit (c.toNat / 16), hexDigit (c.toNat % 16)]
  else [c]

/-- **A string literal**: `s` between double quotes, each character escaped. -/
def quoteJson (s : String) : List Char :=
  '"' :: s.toList.flatMap escapeJsonChar ++ ['"']

/-- The text of a number: integers in decimal, doubles in the scientific layout. -/
def Number.text : Number → String
  | .unsigned n => toString n
  | .negative n => toString n
  | .float x => x.scientificText

mutual

/-- **The compact text** of a value. -/
def Value.render : Value → List Char
  | .null => "null".toList
  | .bool true => "true".toList
  | .bool false => "false".toList
  | .number n => n.text.toList
  | .string s => quoteJson s
  | .array items => '[' :: renderItems items ++ [']']
  | .object members => '{' :: renderMembers members ++ ['}']

/-- The items of an array, separated by commas. -/
def renderItems : List Value → List Char
  | [] => []
  | [v] => v.render
  | v :: vs => v.render ++ ',' :: renderItems vs

/-- The members of an object, separated by commas. -/
def renderMembers : List (String × Value) → List Char
  | [] => []
  | [(k, v)] => quoteJson k ++ ':' :: v.render
  | (k, v) :: ms => quoteJson k ++ ':' :: v.render ++ ',' :: renderMembers ms

end

/-- The compact text of a value, as a string. -/
def Value.compact (v : Value) : String := String.ofList v.render

/-- The compact text of an array of strings. -/
def stringArrayText (items : List String) : String :=
  Value.compact (.array (items.map .string))

end StompConsole.Json
