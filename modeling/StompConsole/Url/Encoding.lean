/-!
# UTF-8 bytes and percent-encoding

URLs are written in ASCII. A character that may not appear literally in some part of a URL is
written as the percent-encoding of its UTF-8 bytes, `%XX` with upper-case hexadecimal digits.
Which ASCII characters must be encoded depends on the part (the *encode sets* below); characters
outside ASCII are always encoded.
-/

namespace StompConsole.Url

/-- The UTF-8 encoding of a character. -/
def utf8Bytes (c : Char) : List Nat :=
  let n := c.toNat
  if n < 0x80 then [n]
  else if n < 0x800 then [0xC0 + n / 64, 0x80 + n % 64]
  else if n < 0x10000 then [0xE0 + n / 4096, 0x80 + n / 64 % 64, 0x80 + n % 64]
  else [0xF0 + n / 262144, 0x80 + n / 4096 % 64, 0x80 + n / 64 % 64, 0x80 + n % 64]

/-- Whether `b` is a UTF-8 continuation byte. -/
def isContinuation (b : Nat) : Bool := 0x80 ≤ b && b < 0xC0

/-- **Strict UTF-8 decoding**: `none` on any malformed, overlong or surrogate sequence. -/
def utf8Decode : List Nat → Option (List Char)
  | [] => some []
  | b :: bs =>
    if b < 0x80 then (Char.ofNat b :: ·) <$> utf8Decode bs
    else if 0xC2 ≤ b ∧ b < 0xE0 then
      match bs with
      | c1 :: rest =>
        if isContinuation c1 then
          (Char.ofNat ((b - 0xC0) * 64 + (c1 - 0x80)) :: ·) <$> utf8Decode rest
        else none
      | [] => none
    else if 0xE0 ≤ b ∧ b < 0xF0 then
      match bs with
      | c1 :: c2 :: rest =>
        let n := (b - 0xE0) * 4096 + (c1 - 0x80) * 64 + (c2 - 0x80)
        if isContinuation c1 && isContinuation c2 && 0x800 ≤ n && !(0xD800 ≤ n && n < 0xE000) then
          (Char.ofNat n :: ·) <$> utf8Decode rest
        else none
      | _ => none
    else if 0xF0 ≤ b ∧ b < 0xF5 then
      match bs with
      | c1 :: c2 :: c3 :: rest =>
        let n := (b - 0xF0) * 262144 + (c1 - 0x80) * 4096 + (c2 - 0x80) * 64 + (c3 - 0x80)
        if isContinuation c1 && isContinuation c2 && isContinuation c3 && 0x10000 ≤ n &&
            n < 0x110000 then
          (Char.ofNat n :: ·) <$> utf8Decode rest
        else none
      | _ => none
    else none

/-- An upper-case hexadecimal digit. -/
def upperHexDigit (n : Nat) : Char :=
  if n < 10 then Char.ofNat (48 + n) else Char.ofNat (55 + n)

/-- `%XX` for one byte. -/
def percentByte (b : Nat) : List Char := ['%', upperHexDigit (b / 16), upperHexDigit (b % 16)]

/-- A set of ASCII characters to encode, as a predicate. -/
abbrev EncodeSet := Char → Bool

/-- **Percent-encoding** one character: itself if it is ASCII outside `set`, else its bytes. -/
def encodeChar (set : EncodeSet) (c : Char) : List Char :=
  if c.toNat < 0x80 && !set c then [c] else (utf8Bytes c).flatMap percentByte

/-- Percent-encoding a text. -/
def percentEncode (set : EncodeSet) (cs : List Char) : List Char := cs.flatMap (encodeChar set)

/-- The C0 controls and DEL. -/
def controlsSet : EncodeSet := fun c => c.toNat < 0x20 || c.toNat = 0x7F

/-- The fragment encode set: controls, space, `"`, `<`, `>` and the backtick. -/
def fragmentSet : EncodeSet := fun c =>
  controlsSet c || c = ' ' || c = '"' || c = '<' || c = '>' || c.toNat = 0x60

/-- The query encode set: controls, space, `"`, `#`, `<`, `>`. -/
def querySet : EncodeSet := fun c =>
  controlsSet c || c = ' ' || c = '"' || c = '#' || c = '<' || c = '>'

/-- The query encode set of special schemes, which adds the apostrophe. -/
def specialQuerySet : EncodeSet := fun c => querySet c || c.toNat = 0x27

/-- The path encode set: the fragment set and `#`, `?` and the two braces. -/
def pathSet : EncodeSet := fun c =>
  fragmentSet c || c = '#' || c = '?' || c.toNat = 0x7B || c.toNat = 0x7D

/-- The userinfo encode set: the path set and `/ : ; = @ [ \ ] ^ |`. -/
def userinfoSet : EncodeSet := fun c =>
  pathSet c || c = '/' || c = ':' || c = ';' || c = '=' || c = '@' || c = '[' || c = '\\' ||
    c = ']' || c = '^' || c = '|'

/-- The value of a hexadecimal digit, if it is one. -/
def hexDigitValue (c : Char) : Option Nat :=
  if '0' ≤ c ∧ c ≤ '9' then some (c.toNat - 48)
  else if 'a' ≤ c ∧ c ≤ 'f' then some (c.toNat - 87)
  else if 'A' ≤ c ∧ c ≤ 'F' then some (c.toNat - 55)
  else none

/-- **Percent-decoding** to bytes: `%XX` with two hexadecimal digits is one byte; any other `%`
stands for itself. -/
def percentDecode : List Char → List Nat
  | [] => []
  | '%' :: a :: b :: rest =>
    match hexDigitValue a, hexDigitValue b with
    | some x, some y => (16 * x + y) :: percentDecode rest
    | _, _ => 0x25 :: percentDecode (a :: b :: rest)
  | c :: rest => utf8Bytes c ++ percentDecode rest

end StompConsole.Url
