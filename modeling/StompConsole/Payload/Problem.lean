import StompConsole.Json.Read
import StompConsole.Text.Basic

/-!
# Problem details and notifications

The broker publishes two kinds of payload. On the error topic, each body is a JSON object whose
`message` member holds RFC 7807 problem details; on the notification topic, any JSON value.

An error-topic body is accepted in steps, and the first step that fails names the error:

1. the body must be JSON;
2. `message` must be present and not null;
3. `message` must be an object;
4. `message.detail` must be present and not null;
5. each member of `message`, in key order, must have its field's type: `detail`, `instance`,
   `title` and `type` strings (the last three may be null), `status` an integer in `0 .. 65535`
   (or null); other members are ignored;
6. `detail` must hold a non-space character;
7. `status`, if given, must be in `100 .. 599`.
-/

namespace StompConsole.Payload

open Json

/-- Problem details (RFC 7807), as published on the error topic. -/
structure ProblemDetails where
  detail : String
  /-- The URI of this occurrence of the problem (the `instance` member). -/
  occurrence : Option String := none
  status : Option Nat := none
  title : Option String := none
  /-- The URI of the problem type (the `type` member). -/
  problemType : Option String := none
  deriving DecidableEq, Repr

/-- The type used when the server leaves `type` out or blank. -/
def defaultProblemType : String := "about:blank"

/-- Why a payload was refused. -/
inductive PayloadError where
  /-- The body is not JSON; the reader's message. -/
  | invalidJson (message : String)
  /-- A required member is missing or null. -/
  | missingField (field : String)
  /-- A member is of the wrong type or out of range. -/
  | invalid (field : String) (reason : String)
  deriving DecidableEq, Repr

/-- The text of a payload error. -/
def PayloadError.message : PayloadError → String
  | .invalidJson m => "body is not valid JSON: " ++ m
  | .missingField f => "missing field `" ++ f ++ "`"
  | .invalid f reason => "invalid field `" ++ f ++ "`: " ++ reason

namespace ProblemDetails

/-- The problem type, `about:blank` when absent or blank. -/
def effectiveType (d : ProblemDetails) : String :=
  match d.problemType with
  | some t => if (Text.trimWhite t.toList).isEmpty then defaultProblemType else t
  | none => defaultProblemType

/-- **Validation**: the detail must not be blank, and a status must be in `100 .. 599`. -/
def validate (d : ProblemDetails) : Except PayloadError Unit :=
  if (Text.trimWhite d.detail.toList).isEmpty then
    .error (.invalid "message.detail" "must not be blank")
  else
    match d.status with
    | some s =>
      if 100 ≤ s ∧ s ≤ 599 then .ok ()
      else .error (.invalid "message.status" (toString s ++ " is not between 100 and 599"))
    | none => .ok ()

/-- The JSON object of the details: members in field order (which is also key order), absent
fields left out. -/
def toValue (d : ProblemDetails) : Value :=
  let opt (k : String) (v : Option Value) : List (String × Value) :=
    match v with
    | some v => [(k, v)]
    | none => []
  .object ([("detail", .string d.detail)] ++
    opt "instance" (d.occurrence.map .string) ++
    opt "status" (d.status.map fun s => .number (.unsigned s)) ++
    opt "title" (d.title.map .string) ++
    opt "type" (d.problemType.map .string))

/-- The compact JSON text of the details. -/
def serialize (d : ProblemDetails) : String := d.toValue.compact

end ProblemDetails

/-! ## Reading the fields of a value -/

/-- A string field. -/
def stringField : Value → Except ErrorCode String
  | .string s => .ok s
  | v => .error (invalidType v.unexpected "a string")

/-- An optional string field: null is absent. -/
def optionalStringField : Value → Except ErrorCode (Option String)
  | .null => .ok none
  | v => (stringField v).map some

/-- An optional `u16` field: null is absent. -/
def optionalStatusField : Value → Except ErrorCode (Option Nat)
  | .null => .ok none
  | .number n => (n.toU16).map some
  | v => .error (invalidType v.unexpected "u16")

/-- **Problem details from an object's members**, in key order: each known member must have its
field's type; unknown members are ignored; `detail` is required. -/
def detailsOfMembers (members : List (String × Value)) : Except ErrorCode ProblemDetails :=
  go members none {detail := ""}
where
  go : List (String × Value) → Option String → ProblemDetails → Except ErrorCode ProblemDetails
    | [], some detail, d => .ok { d with detail := detail }
    | [], none, _ => .error (.data "missing field `detail`")
    | (k, v) :: ms, detail, d =>
      if k = "detail" then
        match stringField v with
        | .ok s => go ms (some s) d
        | .error e => .error e
      else if k = "instance" then
        match optionalStringField v with
        | .ok s => go ms detail { d with occurrence := s }
        | .error e => .error e
      else if k = "status" then
        match optionalStatusField v with
        | .ok s => go ms detail { d with status := s }
        | .error e => .error e
      else if k = "title" then
        match optionalStringField v with
        | .ok s => go ms detail { d with title := s }
        | .error e => .error e
      else if k = "type" then
        match optionalStringField v with
        | .ok s => go ms detail { d with problemType := s }
        | .error e => .error e
      else go ms detail d

/-- **Decoding an error-topic body** into validated problem details. -/
def decodeErrorNotice (body : String) : Except PayloadError ProblemDetails :=
  match parseValue body with
  | .error e => .error (.invalidJson e.message)
  | .ok value =>
    match value.get "message" with
    | none => .error (.missingField "message")
    | some .null => .error (.missingField "message")
    | some (.object members) =>
      match (Value.object members).get "detail" with
      | none => .error (.missingField "message.detail")
      | some .null => .error (.missingField "message.detail")
      | some _ =>
        match detailsOfMembers members with
        | .error code => .error (.invalid "message" code.text)
        | .ok d => (d.validate).map fun _ => d
    | some _ => .error (.invalid "message" "expected an object")

/-- **Decoding a notification body**: any JSON value. -/
def decodeNotification (body : String) : Except PayloadError Value :=
  match parseValue body with
  | .error e => .error (.invalidJson e.message)
  | .ok v => .ok v

end StompConsole.Payload
