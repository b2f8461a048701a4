
/-!
# Writing TOML

How strings and key/value lines are written. A string is written as a literal string (between
single quotes, nothing escaped) only when it holds a backslash, which a basic string would have to
double, and a literal string can hold it: no control character but tab and line feed, no run of
three single quotes, and no single quote at its end. Otherwise it is a basic string, with the
usual escapes. A string holding a line feed is written over several lines, between triple quotes
and starting on a fresh line; one holding a single quote but no line feed, when literal, goes
between triple single quotes.
-/

namespace StompConsole.Toml

/-- How a string is laid out. -/
inductive StringStyle where
  /-- On one line between single delimiters. -/
  | oneLine
  /-- On one line between triple delimiters. -/
  | oneLineTriple
  /-- Over several lines between triple delimiters. -/
  | multiLine
  deriving DecidableEq, Repr

/-- What a scan of a string has found so far. -/
structure StyleScan where
  style : StringStyle := .oneLine
  /-- The longest run of single quotes so far. -/
  longestRun : Nat := 0
  /-- The run of single quotes just read. -/
  run : Nat := 0
  /-- Whether a backslash was seen. -/
  hasBackslash : Bool := false
  /-- Whether a literal string can still hold the text. -/
  literalFits : Bool := true

/-- Scan one more character. -/
def StyleScan.step (s : StyleScan) (c : Char) : StyleScan :=
  if s.literalFits then
    let s :=
      if c == '\'' then { s with run := s.run + 1, literalFits := s.run + 1 < 3 }
      else { s with longestRun := max s.longestRun s.run, run := 0 }
    if c == '\t' then s
    else if c == '\\' then { s with hasBackslash := true }
    else if c == '\n' then { s with style := .multiLine }
    else if c.toNat ≤ 0x1F || c.toNat == 0x7F then { s with literalFits := false }
    else s
  else if c == '\n' then { s with style := .multiLine }
  else s

/-- **The layout of a string**, and whether it is written as a literal string. -/
def inferStyle (value : String) : StringStyle × Bool :=
  let s := value.toList.foldl StyleScan.step {}
  let literal := s.literalFits && !(s.run > 0 && value.endsWith "'") && s.hasBackslash
  if !literal then (s.style, false)
  else if s.style = .oneLine && max s.longestRun s.run ≥ 1 then (.oneLineTriple, true)
  else (s.style, true)

/-- An uppercase hexadecimal digit. -/
def upperHexDigit (n : Nat) : Char :=
  if n < 10 then Char.ofNat (48 + n) else Char.ofNat (55 + n)

/-- A character of a basic string, escaped as needed. -/
def escapeBasic (style : StringStyle) (c : Char) : String :=
  if c == '\x08' then "\\b"
  else if c == '\t' then "\\t"
  else if c == '\n' then (if style = .multiLine then "\n" else "\\n")
  else if c == '\x0C' then "\\f"
  else if c == '\r' then "\\r"
  else if c == '"' then "\\\""
  else if c == '\\' then "\\\\"
  else if c.toNat ≤ 0x1F || c.toNat == 0x7F then
    String.ofList ['\\', 'u', '0', '0', upperHexDigit (c.toNat / 16), upperHexDigit (c.toNat % 16)]
  else c.toString

/-- **A string as TOML writes it.** -/
def stringText (value : String) : String :=
  match inferStyle value with
  | (.multiLine, true) => "'''\n" ++ value ++ "'''"
  | (.oneLineTriple, true) => "'''" ++ value ++ "'''"
  | (.oneLine, true) => "'" ++ value ++ "'"
  | (style, false) =>
    let body := String.join (value.toList.map (escapeBasic style))
    if style = .multiLine then "\"\"\"\n" ++ body ++ "\"\"\"" else "\"" ++ body ++ "\""

/-- **Key/value lines**, one a line, in order, the values already written. -/
def writeEntries (entries : List (String × String)) : String :=
  String.join (entries.map fun (k, v) => k ++ " = " ++ v ++ "\n")

end StompConsole.Toml
