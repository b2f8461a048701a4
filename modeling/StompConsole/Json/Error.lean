import StompConsole.Json.Value
import StompConsole.Text.Basic

/-!
# Reading errors

A reading error is a cause and, for errors found in the text, the line and column where the
reader stood. Lines count from 1; columns count bytes from the start of the line, from 0. Errors
about the *meaning* of well-formed text — a value of the wrong type, a number out of range, an
array of the wrong length — carry their message as data; they get the position of the reader
when they surface, and none at all when the input was a value rather than text.
-/

namespace StompConsole.Json

open Numeric Text

/-- A place in the text: line from 1, column in bytes from 0. -/
structure Position where
  line : Nat
  column : Nat
  deriving DecidableEq, Repr

/-- Why a text is not the JSON that was asked for. -/
inductive ErrorCode where
  | eofWhileParsingList
  | eofWhileParsingObject
  | eofWhileParsingString
  | eofWhileParsingValue
  | expectedColon
  | expectedListCommaOrEnd
  | expectedObjectCommaOrEnd
  | expectedSomeIdent
  | expectedSomeValue
  | invalidEscape
  | invalidNumber
  | numberOutOfRange
  | controlCharacterWhileParsingString
  | keyMustBeAString
  | loneLeadingSurrogateInHexEscape
  | trailingComma
  | trailingCharacters
  | unexpectedEndOfHexEscape
  | recursionLimitExceeded
  /-- Well-formed text of the wrong shape; the message says how. -/
  | data (message : String)
  deriving DecidableEq, Repr

/-- The text of an error cause. -/
def ErrorCode.text : ErrorCode → String
  | .eofWhileParsingList => "EOF while parsing a list"
  | .eofWhileParsingObject => "EOF while parsing an object"
  | .eofWhileParsingString => "EOF while parsing a string"
  | .eofWhileParsingValue => "EOF while parsing a value"
  | .expectedColon => "expected `:`"
  | .expectedListCommaOrEnd => "expected `,` or `]`"
  | .expectedObjectCommaOrEnd => "expected `,` or `\x7d`"
  | .expectedSomeIdent => "expected ident"
  | .expectedSomeValue => "expected value"
  | .invalidEscape => "invalid escape"
  | .invalidNumber => "invalid number"
  | .numberOutOfRange => "number out of range"
  | .controlCharacterWhileParsingString =>
    "control character (\\u0000-\\u001F) found while parsing a string"
  | .keyMustBeAString => "key must be a string"
  | .loneLeadingSurrogateInHexEscape => "lone leading surrogate in hex escape"
  | .trailingComma => "trailing comma"
  | .trailingCharacters => "trailing characters"
  | .unexpectedEndOfHexEscape => "unexpected end of hex escape"
  | .recursionLimitExceeded => "recursion limit exceeded"
  | .data message => message

/-- A reading error: its cause, and where it was found if it was found in text. -/
structure Error where
  code : ErrorCode
  position : Option Position
  deriving DecidableEq, Repr

/-- The text of a reading error: the cause, then ` at line L column C` when it has a place. -/
def Error.message (e : Error) : String :=
  match e.position with
  | some p => e.code.text ++ " at line " ++ toString p.line ++ " column " ++ toString p.column
  | none => e.code.text

/-- What was found where something else was expected, as error messages name it. -/
inductive Unexpected where
  | null
  | bool (b : Bool)
  | unsigned (n : Nat)
  | signed (n : Int)
  | float (x : BinFloat binary64)
  | str (s : String)
  | seq
  | map
  deriving DecidableEq, Repr

/-- How an unexpected value is named: "null", "boolean `true`", "integer `7`", "floating point
`500.0`", "string \"x\"", "sequence", "map". -/
def Unexpected.text : Unexpected → String
  | .null => "null"
  | .bool b => "boolean `" ++ toString b ++ "`"
  | .unsigned n => "integer `" ++ toString n ++ "`"
  | .signed n => "integer `" ++ toString n ++ "`"
  | .float x => "floating point `" ++ x.scientificText ++ "`"
  | .str s => "string " ++ quoteString s
  | .seq => "sequence"
  | .map => "map"

/-- What a number is, as an unexpected value. -/
def Number.unexpected : Number → Unexpected
  | .unsigned n => .unsigned n
  | .negative n => .signed n
  | .float x => .float x

/-- What a value is, as an unexpected value. -/
def Value.unexpected : Value → Unexpected
  | .null => .null
  | .bool b => .bool b
  | .number n => n.unexpected
  | .string s => .str s
  | .array _ => .seq
  | .object _ => .map

/-- A value of the wrong type. -/
def invalidType (u : Unexpected) (expected : String) : ErrorCode :=
  .data ("invalid type: " ++ u.text ++ ", expected " ++ expected)

/-- A value of the right type but out of range. -/
def invalidValue (u : Unexpected) (expected : String) : ErrorCode :=
  .data ("invalid value: " ++ u.text ++ ", expected " ++ expected)

/-- A sequence with too few elements. -/
def invalidLength (n : Nat) (expected : String) : ErrorCode :=
  .data ("invalid length " ++ toString n ++ ", expected " ++ expected)

end StompConsole.Json
