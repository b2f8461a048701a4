import StompConsole.Url.Host

/-!
# URLs

A URL is read in one pass: the scheme, then for the special schemes an authority
(credentials, host, port) after any number of slashes, then the path, the query and the
fragment. Every part is percent-encoded with its own encode set as it is read, and the path is
kept as its list of segments, so that `.` and `..` segments act on segments and never on text.

The same path reader serves two callers. Reading a whole URL stops the path at `?` or `#`;
replacing the path of a URL (`Record.setPath`) reads the whole text as path, so a `?` or `#` in it
is encoded.
-/

namespace StompConsole.Url

/-- A parsed URL: a URL record, in the standard's words. -/
structure Record where
  scheme : String
  /-- The credentials as written before the `@`, empty when there are none. -/
  credentials : String
  /-- Whether the URL is written with `//` after the scheme. -/
  authority : Bool
  host : Option Host
  port : Option Nat
  /-- The path as written: its segments joined by `/`. -/
  path : String
  query : Option String
  fragment : Option String
  deriving DecidableEq, Repr

/-- The default port of a scheme. -/
def defaultPort : String → Option Nat
  | "http" => some 80
  | "https" => some 443
  | "ws" => some 80
  | "wss" => some 443
  | "ftp" => some 21
  | _ => none

/-- Whether a scheme is special: it has a host, and `\` separates path segments. -/
def isSpecial (scheme : String) : Bool :=
  scheme == "file" || (defaultPort scheme).isSome

/-- Whether a character is a C0 control or a space, which are trimmed from both ends. -/
def isC0OrSpace (c : Char) : Bool := c.toNat ≤ 0x20

/-- Whether a character is a tab or a line break, which every reader of URL text skips. -/
def isTabOrNewline (c : Char) : Bool := c == '\t' || c == '\n' || c == '\r'

/-- The text a URL is read from: trimmed, and without tabs and line breaks anywhere. -/
def cleanInput (s : String) : List Char :=
  let cs := (s.toList.dropWhile isC0OrSpace).reverse.dropWhile isC0OrSpace |>.reverse
  cs.filter fun c => !isTabOrNewline c

/-- Whether a character may follow the first letter of a scheme. -/
def isSchemeChar (c : Char) : Bool :=
  c.isAlphanum || c == '+' || c == '-' || c == '.'

/-- **The scheme**, lower-cased, and the text after its `:`. -/
def readScheme (cs : List Char) : Option (String × List Char) :=
  match cs with
  | c :: _ =>
    if c.isAlpha then
      let (name, rest) := cs.span isSchemeChar
      match rest with
      | ':' :: after => some (String.ofList (name.map Char.toLower), after)
      | _ => none
    else none
  | [] => none

/-! ## Paths -/

/-- Lower-case ASCII letters, to compare `%2e` and `%2E`. -/
def lowerAscii (cs : List Char) : List Char := cs.map Char.toLower

/-- Whether a segment means "this directory". -/
def isSingleDot (seg : List Char) : Bool :=
  let s := lowerAscii seg
  s == ['.'] || s == ['%', '2', 'e']

/-- Whether a segment means "the parent directory". -/
def isDoubleDot (seg : List Char) : Bool :=
  let s := lowerAscii seg
  s == ['.', '.'] || s == ['.', '%', '2', 'e'] || s == ['%', '2', 'e', '.'] ||
    s == ['%', '2', 'e', '%', '2', 'e']

/-- **One path step**: a finished segment acts on the path (kept last segment first).
`slash` tells whether a separator follows it; a `.` or `..` at the very end leaves an empty last
segment, so that the path still ends in `/`. -/
def pathStep (segments : List String) (slash : Bool) (seg : List Char) : List String :=
  if isDoubleDot seg then
    let shorter := segments.drop 1
    if slash then shorter else "" :: shorter
  else if isSingleDot seg then
    if slash then segments else "" :: segments
  else String.ofList seg :: segments

/-- Whether a character ends a path segment. -/
def isPathSeparator (special : Bool) (c : Char) : Bool :=
  c == '/' || (special && c == '\\')

/-- **Read a path** (after its leading separator) into segments, last first. The segment being
read is kept encoded, last character first. -/
def readSegments (special : Bool) :
    List String → List Char → List Char → List String
  | segments, buffer, [] => pathStep segments false buffer.reverse
  | segments, buffer, c :: rest =>
    if isPathSeparator special c then readSegments special (pathStep segments true buffer.reverse) [] rest
    else readSegments special segments ((encodeChar pathSet c).reverse ++ buffer) rest

/-- The text of a path read from `cs`, which starts after the path's leading separator. -/
def pathText (special : Bool) (cs : List Char) : String :=
  "/" ++ String.intercalate "/" (readSegments special [] [] cs).reverse

/-- A path that starts at `cs`: the leading separator, if any, is skipped. -/
def pathFrom (special : Bool) (cs : List Char) : String :=
  match cs with
  | c :: rest => if isPathSeparator special c then pathText special rest else pathText special cs
  | [] => pathText special []

/-- The path of a URL with no authority and no leading `/`: kept as written, with controls
encoded. -/
def opaquePath (cs : List Char) : String := String.ofList (percentEncode controlsSet cs)

/-! ## Query and fragment -/

/-- The path text, and the query and fragment that follow it. -/
def splitTail (special : Bool) (cs : List Char) : List Char × Option String × Option String :=
  let (pathPart, rest) := cs.span fun c => c != '?' && c != '#'
  let querySetFor := if special then specialQuerySet else querySet
  match rest with
  | '?' :: after =>
    let (q, afterQuery) := after.span (· != '#')
    let fragment := match afterQuery with
      | '#' :: f => some (String.ofList (percentEncode fragmentSet f))
      | _ => none
    (pathPart, some (String.ofList (percentEncode querySetFor q)), fragment)
  | '#' :: f => (pathPart, none, some (String.ofList (percentEncode fragmentSet f)))
  | _ => (pathPart, none, none)

/-! ## Authority -/

/-- Whether a character ends the authority. -/
def endsAuthority (special : Bool) (c : Char) : Bool :=
  c == '/' || c == '?' || c == '#' || (special && c == '\\')

/-- The text before the last `@` of the authority, and the text after it. -/
def splitCredentials (special : Bool) (cs : List Char) : Option (List Char × List Char) :=
  let auth := cs.takeWhile fun c => !endsAuthority special c
  match (auth.reverse.span (· != '@')) with
  | (_, '@' :: beforeRev) => some (beforeRev.reverse, cs.drop (beforeRev.length + 1))
  | _ => none

/-- **Credentials** as written: the user name and password encoded, the first `:` between them
(left out when the password is empty), and `@` when either is present. -/
def credentialsText (info : List Char) : String :=
  let (user, rest) := info.span (· != ':')
  let password := rest.drop 1
  let userText := percentEncode userinfoSet user
  let passwordText := if password.isEmpty then [] else ':' :: percentEncode userinfoSet password
  if userText.isEmpty && passwordText.isEmpty then ""
  else String.ofList (userText ++ passwordText) ++ "@"

/-- The host text: up to a `:` outside brackets or the end of the authority. -/
def hostPart (special : Bool) : Bool → List Char → List Char × List Char
  | _, [] => ([], [])
  | inBrackets, c :: rest =>
    if (c == ':' && !inBrackets) || endsAuthority special c then ([], c :: rest)
    else
      let inside := if c == '[' then true else if c == ']' then false else inBrackets
      let (h, r) := hostPart special inside rest
      (c :: h, r)

/-- **A port**: digits up to the end of the authority, at most 65535; the scheme's default port is
left out. -/
def readPort (scheme : String) (cs : List Char) : Except UrlError (Option Nat × List Char) :=
  let (digits, rest) := cs.span Char.isDigit
  match rest with
  | c :: _ =>
    if c == '/' || c == '\\' || c == '?' || c == '#' then finish digits rest
    else .error .invalidPort
  | [] => finish digits rest
where
  finish (digits rest : List Char) : Except UrlError (Option Nat × List Char) :=
    let value := digits.foldl (fun n c => 10 * n + (c.toNat - 48)) 0
    if value > 65535 then .error .invalidPort
    else if digits.isEmpty || defaultPort scheme = some value then .ok (none, rest)
    else .ok (some value, rest)

/-- **The credentials** before an `@`, and the text after them. An `@` with nothing before it is
refused as an empty host when the authority ends right after it. -/
def readCredentials (special : Bool) (cs : List Char) : Except UrlError (String × List Char) :=
  match splitCredentials special cs with
  | none => pure ("", cs)
  | some ([], after) =>
    match after with
    | c :: _ => if endsAuthority special c then throw .emptyHost else pure ("", after)
    | [] => pure ("", after)
  | some (info, after) => pure (credentialsText info, after)

/-- **The host** of an authority: required for a special scheme. For any other scheme an empty
host is none, unless a port follows it. -/
def readHost (special : Bool) (hostChars afterHost : List Char) : Except UrlError (Option Host) :=
  if special then
    if hostChars.isEmpty then throw .emptyHost else some <$> parseSpecialHost hostChars
  else do
    match ← parseOpaqueHost hostChars with
    | .domain "" =>
      if afterHost.head? = some ':' then throw .emptyHost else pure none
    | h => pure (some h)

/-- The port after the host, when a `:` follows it. -/
def readPortAfter (scheme : String) (afterHost : List Char) :
    Except UrlError (Option Nat × List Char) :=
  match afterHost with
  | ':' :: after => readPort scheme after
  | _ => pure (none, afterHost)

/-- The authority after the slashes: credentials, host and port, and the text after them. -/
def readAuthority (scheme : String) (cs : List Char) :
    Except UrlError (String × Option Host × Option Nat × List Char) := do
  let special := isSpecial scheme
  let (credentials, rest) ← readCredentials special cs
  let (hostChars, afterHost) := hostPart special false rest
  let host ← readHost special hostChars afterHost
  let (port, afterPort) ← readPortAfter scheme afterHost
  if host.isNone && !credentials.isEmpty then throw .emptyHost
  return (credentials, host, port, afterPort)

/-! ## File URLs -/

/-- Whether a text is a drive letter such as `C:`. -/
def isDriveLetter : List Char → Bool
  | [c, d] => c.isAlpha && (d == ':' || d == '|')
  | _ => false

/-- **A `file` URL**: a host only after two slashes, and `localhost` means no host. -/
def readFile (cs : List Char) : Except UrlError Record := do
  let isSlash := fun c => c == '/' || c == '\\'
  match cs with
  | a :: b :: rest =>
    if isSlash a && isSlash b then
      let hostChars := rest.takeWhile fun c => !(isSlash c || c == '?' || c == '#')
      if isDriveLetter hostChars || hostChars.isEmpty then
        let (p, q, f) := splitTail true rest
        return ⟨"file", "", true, none, none, pathFrom true p, q, f⟩
      else
        let host ← parseSpecialHost hostChars
        let host := if host = .domain "localhost" then none else some host
        let (p, q, f) := splitTail true (rest.drop hostChars.length)
        return ⟨"file", "", true, host, none, pathFrom true p, q, f⟩
    else
      let (p, q, f) := splitTail true cs
      return ⟨"file", "", true, none, none, pathFrom true p, q, f⟩
  | _ =>
    let (p, q, f) := splitTail true cs
    return ⟨"file", "", true, none, none, pathFrom true p, q, f⟩

/-! ## Whole URLs -/

/-- **Parse a URL.** -/
def parse (text : String) : Except UrlError Record := do
  let some (scheme, rest) := readScheme (cleanInput text) | throw .relativeUrlWithoutBase
  if scheme == "file" then readFile rest
  else if isSpecial scheme then
    let (credentials, host, port, afterPort) ←
      readAuthority scheme (rest.dropWhile fun c => c == '/' || c == '\\')
    let (p, q, f) := splitTail true afterPort
    return ⟨scheme, credentials, true, host, port, pathFrom true p, q, f⟩
  else
    match rest with
    | '/' :: '/' :: after =>
      let (credentials, host, port, afterPort) ← readAuthority scheme after
      let (p, q, f) := splitTail false afterPort
      let path := if p.isEmpty then "" else pathFrom false p
      return ⟨scheme, credentials, true, host, port, path, q, f⟩
    | '/' :: _ =>
      let (p, q, f) := splitTail false rest
      return ⟨scheme, "", false, none, none, pathFrom false p, q, f⟩
    | _ =>
      let (p, q, f) := splitTail false rest
      return ⟨scheme, "", false, none, none, opaquePath p, q, f⟩

/-- The host as text, `none` for a URL without one. -/
def Record.hostText (u : Record) : Option String := u.host.map Host.text

/-- **The text of a URL.** -/
def Record.text (u : Record) : String :=
  let authority :=
    if u.authority then
      "//" ++ u.credentials ++ (u.hostText.getD "") ++
        (match u.port with
          | some p => ":" ++ toString p
          | none => "")
    else ""
  u.scheme ++ ":" ++ authority ++ u.path ++
    (match u.query with
      | some q => "?" ++ q
      | none => "") ++
    (match u.fragment with
      | some f => "#" ++ f
      | none => "")

/-- **The scheme a setter reads**, lower-cased: a letter, then letters, digits, `+`, `-` or `.`,
and at most a `:` after them. Tabs and line breaks are skipped. -/
def setterScheme (text : String) : Option String :=
  let cs := text.toList.filter fun c => !isTabOrNewline c
  match cs with
  | c :: _ =>
    if c.isAlpha then
      let (name, rest) := cs.span isSchemeChar
      match rest with
      | [] | [':'] => some (String.ofList (name.map Char.toLower))
      | _ => none
    else none
  | [] => none

/-- **Change the scheme**, as the setter does. It refuses a text that is no scheme, a change
between a special scheme and one that is not, `file` for a URL written with an authority, and a
special scheme for a URL without a host. A port that is the new scheme's default is dropped. -/
def Record.setScheme (u : Record) (text : String) : Option Record :=
  match setterScheme text with
  | none => none
  | some scheme =>
    if isSpecial scheme != isSpecial u.scheme || (scheme == "file" && u.authority) ||
        (u.host.isNone && isSpecial scheme) then none
    else some { u with scheme := scheme, port := if u.port = defaultPort scheme then none else u.port }

/-- Replace the path of a URL with a special scheme; every character of `path` belongs to it,
except tabs and line breaks, which are skipped. -/
def Record.setPath (u : Record) (path : String) : Record :=
  { u with path := pathFrom (isSpecial u.scheme) (path.toList.filter fun c => !isTabOrNewline c) }

end StompConsole.Url
