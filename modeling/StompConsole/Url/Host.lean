import StompConsole.Url.Idna

/-!
# Hosts

The host of a URL is a domain name, an IPv4 address or an IPv6 address (in brackets). For the
special schemes (`http`, `https`, `ws`, `wss`, `ftp`, `file`) the host text is percent-decoded,
brought to its ASCII form (`Idna.toAscii`), and read as an IPv4 address when its last label is
a number; for other schemes it is kept as written, percent-encoding only control characters, and
may not contain the forbidden characters.

IPv4 numbers may be written in decimal, octal (leading `0`) or hexadecimal (leading `0x`); the
last part of an address with fewer than four parts fills the remaining bytes.
-/

namespace StompConsole.Url

open Text

/-- Why a text is not a URL. -/
inductive UrlError where
  | emptyHost
  | idnaError
  | invalidPort
  | invalidIpv4Address
  | invalidIpv6Address
  | invalidDomainCharacter
  | relativeUrlWithoutBase
  deriving DecidableEq, Repr

/-- The text of a URL error. -/
def UrlError.message : UrlError → String
  | .emptyHost => "empty host"
  | .idnaError => "invalid international domain name"
  | .invalidPort => "invalid port number"
  | .invalidIpv4Address => "invalid IPv4 address"
  | .invalidIpv6Address => "invalid IPv6 address"
  | .invalidDomainCharacter => "invalid domain character"
  | .relativeUrlWithoutBase => "relative URL without a base"

/-- The host of a URL. -/
inductive Host where
  | domain (name : String)
  | ipv4 (address : Nat)
  /-- Eight 16-bit pieces. -/
  | ipv6 (pieces : List Nat)
  deriving DecidableEq, Repr

/-! ## IPv4 -/

/-- **One IPv4 number**: `none` when it is not a number, `some none` when it is a number that
does not fit in 32 bits. -/
def parseIpv4Number (part : List Char) : Option (Option Nat) :=
  if part.isEmpty then none
  else
    let (radix, digits) :=
      match part with
      | '0' :: 'x' :: rest => (16, rest)
      | '0' :: 'X' :: rest => (16, rest)
      | '0' :: rest@(_ :: _) => (8, rest)
      | _ => (10, part)
    if digits.isEmpty then some (some 0)
    else
      let valid := digits.all fun c =>
        match radix with
        | 8 => '0' ≤ c && c ≤ '7'
        | 10 => c.isDigit
        | _ => (hexDigitValue c).isSome
      if !valid then none
      else
        let n := digits.foldl (fun n c => radix * n + (hexDigitValue c).getD 0) 0
        if n < Nat.pow 2 32 then some (some n) else some none

/-- Whether a domain's last label (ignoring one trailing empty label) is a number, which makes
the domain an IPv4 address. -/
def endsInANumber (name : List Char) : Bool :=
  let labels := (splitOn '.' name).reverse
  let last := match labels with
    | [] :: before :: _ => some before
    | [] :: [] => none
    | l :: _ => some l
    | [] => none
  match last with
  | none => false
  | some l =>
    (!l.isEmpty && l.all Char.isDigit) || (parseIpv4Number l).isSome

/-- **An IPv4 address** from its dotted parts. -/
def parseIpv4 (name : List Char) : Except UrlError Nat :=
  let parts := splitOn '.' name
  let parts := if parts.getLast? = some [] then parts.dropLast else parts
  if parts.length > 4 then .error .invalidIpv4Address
  else
    match parts.mapM parseIpv4Number with
    | none => .error .invalidIpv4Address
    | some numbers =>
      match numbers.mapM id with
      | none => .error .invalidIpv4Address
      | some numbers =>
        match numbers.reverse with
        | [] => .error .invalidIpv4Address
        | last :: firstRev =>
          let first := firstRev.reverse
          if last ≥ Nat.pow 256 (4 - first.length) then .error .invalidIpv4Address
          else if first.any (· > 255) then .error .invalidIpv4Address
          else
            .ok (last + ((first.zipIdx).map fun (n, i) => n * Nat.pow 256 (3 - i)).foldl (· + ·) 0)

/-! ## IPv6 -/

/-- The state of the IPv6 reader: pieces so far and the piece where `::` stood. -/
structure Ipv6Reader where
  pieces : List Nat
  compress : Option Nat

/-- Read up to four hexadecimal digits: their value, how many, and the rest. -/
def hexPiece : Nat → Nat → List Char → Nat × Nat × List Char
  | 4, v, cs => (v, 4, cs)
  | k, v, c :: cs =>
    match hexDigitValue c with
    | some d => hexPiece (k + 1) (v * 16 + d) cs
    | none => (v, k, c :: cs)
  | k, v, [] => (v, k, [])
termination_by _ _ cs => cs.length

/-- Read one decimal number of an embedded IPv4 part: at most 255, no leading zero. -/
def ipv4Piece : Option Nat → List Char → Option (Nat × List Char)
  | acc, c :: cs =>
    if c.isDigit then
      let d := c.toNat - 48
      match acc with
      | none => ipv4Piece (some d) cs
      | some 0 => none
      | some v => if v * 10 + d > 255 then none else ipv4Piece (some (v * 10 + d)) cs
    else acc.map fun v => (v, c :: cs)
  | acc, [] => acc.map fun v => (v, [])

/-- Read the four numbers of an embedded IPv4 part into two pieces. -/
def embeddedIpv4 (cs : List Char) : Option (Nat × Nat) :=
  let first := ipv4Piece none cs
  match first with
  | some (a, '.' :: r1) =>
    match ipv4Piece none r1 with
    | some (b, '.' :: r2) =>
      match ipv4Piece none r2 with
      | some (c, '.' :: r3) =>
        match ipv4Piece none r3 with
        | some (d, []) => some (a * 256 + b, c * 256 + d)
        | _ => none
      | _ => none
    | _ => none
  | _ => none

/-- The pieces of an IPv6 address after an optional leading `::`. -/
def ipv6Pieces (fuel : Nat) (r : Ipv6Reader) (cs : List Char) : Option Ipv6Reader :=
  match fuel with
  | 0 => none
  | fuel + 1 =>
    match cs with
    | [] => some r
    | _ =>
      if r.pieces.length = 8 then none
      else
        match cs with
        | ':' :: rest =>
          if r.compress.isSome then none
          else ipv6Pieces fuel ⟨r.pieces, some r.pieces.length⟩ rest
        | _ =>
          let (v, len, rest) := hexPiece 0 0 cs
          match rest with
          | '.' :: _ =>
            if len = 0 ∨ r.pieces.length > 6 then none
            else
              match embeddedIpv4 cs with
              | some (a, b) => some ⟨r.pieces ++ [a, b], r.compress⟩
              | none => none
          | ':' :: [] => none
          | ':' :: rest' => ipv6Pieces fuel ⟨r.pieces ++ [v], r.compress⟩ rest'
          | [] => some ⟨r.pieces ++ [v], r.compress⟩
          | _ :: _ => none

/-- **An IPv6 address** (without brackets), as its eight pieces. -/
def parseIpv6 (cs : List Char) : Except UrlError (List Nat) :=
  let start : Option (Ipv6Reader × List Char) :=
    match cs with
    | ':' :: ':' :: rest => some (⟨[], some 0⟩, rest)
    | ':' :: _ => none
    | _ => some (⟨[], none⟩, cs)
  match start with
  | none => .error .invalidIpv6Address
  | some (r, rest) =>
    match ipv6Pieces (rest.length + 1) r rest with
    | none => .error .invalidIpv6Address
    | some r =>
      match r.compress with
      | some k =>
        let zeros := List.replicate (8 - r.pieces.length) 0
        .ok (r.pieces.take k ++ zeros ++ r.pieces.drop k)
      | none =>
        if r.pieces.length = 8 then .ok r.pieces else .error .invalidIpv6Address

/-- The longest run of at least two zero pieces, first if tied: its start and end. -/
def longestZeroRun (pieces : List Nat) : Option (Nat × Nat) :=
  let runs := (List.range 8).filterMap fun i =>
    if pieces.getD i 1 = 0 ∧ (i = 0 ∨ pieces.getD (i - 1) 1 ≠ 0) then
      let len := ((pieces.drop i).takeWhile (· = 0)).length
      some (i, i + len)
    else none
  let best := runs.foldl (fun (acc : Option (Nat × Nat)) r =>
    match acc with
    | some b => if r.2 - r.1 > b.2 - b.1 then some r else some b
    | none => some r) none
  match best with
  | some (s, e) => if e - s ≥ 2 then some (s, e) else none
  | none => none

/-- The text of an IPv6 address: lower-case hexadecimal pieces, the longest zero run as `::`. -/
def ipv6Text (pieces : List Nat) : String :=
  let hex (n : Nat) : String := String.ofList (Nat.toDigits 16 n)
  match longestZeroRun pieces with
  | some (s, e) =>
    let before := (pieces.take s).map hex
    let after := (pieces.drop e).map hex
    String.intercalate ":" before ++ "::" ++ String.intercalate ":" after
  | none => String.intercalate ":" (pieces.map hex)

/-- The text of a host as it appears in a URL. -/
def Host.text : Host → String
  | .domain name => name
  | .ipv4 a =>
    toString (a / Nat.pow 2 24) ++ "." ++ toString (a / Nat.pow 2 16 % 256) ++ "." ++
      toString (a / Nat.pow 2 8 % 256) ++ "." ++ toString (a % 256)
  | .ipv6 pieces => "[" ++ ipv6Text pieces ++ "]"

/-! ## Host parsing -/

/-- A bracketed IPv6 host. -/
def parseBracketed (cs : List Char) : Except UrlError Host :=
  if cs.getLast? = some ']' then (parseIpv6 (cs.drop 1).dropLast).map .ipv6
  else .error .invalidIpv6Address

/-- **The host of a special URL.** -/
def parseSpecialHost (cs : List Char) : Except UrlError Host :=
  if cs.head? = some '[' then parseBracketed cs
  else
    match utf8Decode (percentDecode cs) with
    | none => .error .idnaError
    | some decoded =>
      match Idna.toAscii decoded with
      | none => .error .idnaError
      | some name =>
        if name.isEmpty then .error .emptyHost
        else if endsInANumber name then (parseIpv4 name).map .ipv4
        else .ok (.domain (String.ofList name))

/-- Whether a character may not appear in the host of a non-special URL. -/
def forbiddenOpaque (c : Char) : Bool :=
  "\x00\t\n\r #/:<>?@[\\]^|".toList.contains c

/-- **The host of a non-special URL**, kept as written. -/
def parseOpaqueHost (cs : List Char) : Except UrlError Host :=
  if cs.head? = some '[' then parseBracketed cs
  else if cs.any forbiddenOpaque then .error .invalidDomainCharacter
  else .ok (.domain (String.ofList (percentEncode controlsSet cs)))

end StompConsole.Url
