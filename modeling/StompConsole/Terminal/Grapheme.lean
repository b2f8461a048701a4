import StompConsole.Terminal.CharTables
import StompConsole.Text.Basic

/-!
# Graphemes and their width

A terminal cell holds one *grapheme*: a user-perceived character, which may be several scalar
values (a letter and its combining marks, an emoji sequence joined by zero-width joiners, a flag
made of two regional indicators). Text is split into graphemes by the extended grapheme cluster
rules of UAX #29, and a grapheme takes as many cells as the sum of its characters' widths: 0, 1
or 2.
-/

namespace StompConsole.Terminal

/-- **The cell width of a character.** -/
def charWidth (c : Char) : Nat :=
  let n := c.toNat
  if n < 0x7F then (if n < 0x20 then 0 else 1)
  else if inTable zeroWidthRanges n then 0
  else if inTable wideRanges n then 2
  else 1

/-- The cell width of a text. -/
def textWidth (cs : List Char) : Nat := (cs.map charWidth).foldl (· + ·) 0

/-- The grapheme cluster break class of a character. -/
inductive BreakClass where
  | cr
  | lf
  | control
  | extend
  | zwj
  | regional
  | prepend
  | spacingMark
  | hangulL
  | hangulV
  | hangulT
  | hangulLV
  | hangulLVT
  | other
  deriving DecidableEq, Repr

/-- The break class of a character. -/
def breakClass (c : Char) : BreakClass :=
  let n := c.toNat
  if n = 0x0D then .cr
  else if n = 0x0A then .lf
  else if n = 0x200D then .zwj
  else if n < 0x7F then (if n < 0x20 then .control else .other)
  else if 0x1F1E6 ≤ n ∧ n ≤ 0x1F1FF then .regional
  else if (0x1100 ≤ n ∧ n ≤ 0x115F) ∨ (0xA960 ≤ n ∧ n ≤ 0xA97C) then .hangulL
  else if (0x1160 ≤ n ∧ n ≤ 0x11A7) ∨ (0xD7B0 ≤ n ∧ n ≤ 0xD7C6) then .hangulV
  else if (0x11A8 ≤ n ∧ n ≤ 0x11FF) ∨ (0xD7CB ≤ n ∧ n ≤ 0xD7FB) then .hangulT
  else if 0xAC00 ≤ n ∧ n ≤ 0xD7A3 then (if (n - 0xAC00) % 28 = 0 then .hangulLV else .hangulLVT)
  else if inTable controlRanges n then .control
  else if inTable extendRanges n then .extend
  else if inTable prependRanges n then .prepend
  else if inTable spacingMarkRanges n then .spacingMark
  else .other

/-- Whether a character is an extended pictographic (most emoji). -/
def isPictographic (c : Char) : Bool := c.toNat ≥ 0xA9 && inTable pictographicRanges c.toNat

/-- What the text before a boundary says about the rules that look further back: whether it ends
in a pictographic followed by extenders (and a joiner), and whether it ends in an odd number of
regional indicators. -/
structure BreakContext where
  pictographic : Bool := false
  pictographicJoined : Bool := false
  oddRegional : Bool := false

/-- The context after one more character. -/
def BreakContext.next (ctx : BreakContext) (c : Char) : BreakContext :=
  let cls := breakClass c
  { pictographic := isPictographic c || (ctx.pictographic && cls = .extend)
    pictographicJoined := ctx.pictographic && cls = .zwj
    oddRegional := cls = .regional && !ctx.oddRegional }

/-- **Whether a grapheme continues** from a character of class `prev` to the character `c`. -/
def continues (ctx : BreakContext) (prev : BreakClass) (c : Char) : Bool :=
  let cur := breakClass c
  match prev, cur with
  | .cr, .lf => true
  | .cr, _ | .lf, _ | .control, _ => false
  | _, .cr | _, .lf | _, .control => false
  | .hangulL, .hangulL | .hangulL, .hangulV | .hangulL, .hangulLV | .hangulL, .hangulLVT => true
  | .hangulLV, .hangulV | .hangulLV, .hangulT | .hangulV, .hangulV | .hangulV, .hangulT => true
  | .hangulLVT, .hangulT | .hangulT, .hangulT => true
  | _, .extend | _, .zwj | _, .spacingMark => true
  | .prepend, _ => true
  | .zwj, _ => ctx.pictographicJoined && isPictographic c
  | .regional, .regional => ctx.oddRegional
  | _, _ => false

/-- Split the rest of a text into graphemes, given the grapheme being built (last character
first) and the class of its last character. -/
def graphemesFrom (ctx : BreakContext) (prev : BreakClass) (current : List Char) :
    List Char → List (List Char)
  | [] => if current.isEmpty then [] else [current.reverse]
  | c :: rest =>
    if !current.isEmpty && continues ctx prev c then
      graphemesFrom (ctx.next c) (breakClass c) (c :: current) rest
    else
      let done := if current.isEmpty then [] else [current.reverse]
      done ++ graphemesFrom (({} : BreakContext).next c) (breakClass c) [c] rest

/-- **The graphemes of a text**, each as its characters. -/
def graphemes (cs : List Char) : List (List Char) := graphemesFrom {} .other [] cs

/-- A grapheme with its text and width. -/
structure Grapheme where
  symbol : String
  width : Nat
  deriving DecidableEq, Repr

/-- The graphemes of a text with their widths. -/
def segment (s : String) : List Grapheme :=
  (graphemes s.toList).map fun g => ⟨String.ofList g, textWidth g⟩

/-- Whether a grapheme counts as white space when text is wrapped: the zero-width space, or
white space other than the no-break space. -/
def Grapheme.isWhitespace (g : Grapheme) : Bool :=
  g.symbol == "\u200B" || (g.symbol.toList.all Unicode.isWhiteSpace && g.symbol != "\u00A0")

end StompConsole.Terminal
