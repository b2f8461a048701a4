import StompConsole.Terminal.Buffer

/-!
# Widgets

The pieces the console is drawn with:

* a *block*: a plain single-line border around a rectangle, with a title written into the top
  border after the corner;
* a *paragraph*: lines of text in a rectangle, each line either cut at the right edge or wrapped at
  word boundaries, and placed at the left or in the middle.

A line's position in the middle is `⌊w/2⌋ - ⌊l/2⌋` for an area `w` cells wide and a line `l` cells
wide. Zero-width graphemes are not drawn by paragraphs.
-/

namespace StompConsole.Terminal

/-- Where a line sits in its area. -/
inductive Alignment where
  | left
  | center
  deriving DecidableEq, Repr

/-- The total width of graphemes. -/
def widthOf (gs : List Grapheme) : Nat := (gs.map (·.width)).foldl (· + ·) 0

/-! ## Writing a single line -/

/-- **Write graphemes** from column `x` of row `y`, stopping before one that would pass `right`.
A zero-width grapheme joins the cell before it; the cells covered by a wide grapheme are
blanked. -/
def writeGraphemes (b : Buffer) (x y right : Nat) (first : Bool) (start : Nat) :
    List Grapheme → Buffer
  | [] => b
  | g :: rest =>
    let next := x + g.width
    if next > right then b
    else
      let b :=
        if first then b.set x y g.symbol
        else if x = start then b.append x y g.symbol
        else if g.width = 0 then b.append (x - 1) y g.symbol
        else b.set x y g.symbol
      let b := ((List.range (next - (x + 1))).map (x + 1 + ·)).foldl (fun b hx => b.set hx y " ") b
      writeGraphemes b next y right false start rest

/-- Write a left-aligned line into the first row of `area`, cut at its right edge. -/
def writeLine (b : Buffer) (area : Rect) (text : String) : Buffer :=
  if area.isEmpty then b
  else writeGraphemes b area.x area.y area.right true area.x (segment text)

/-! ## Blocks -/

/-- The characters of the plain border. -/
structure BorderSet where
  horizontal : String := "─"
  vertical : String := "│"
  topLeft : String := "┌"
  topRight : String := "┐"
  bottomLeft : String := "└"
  bottomRight : String := "┘"

/-- **Draw a block**: the four sides, then the corners, then the title. -/
def drawBlock (b : Buffer) (area : Rect) (title : String) : Buffer :=
  if area.isEmpty then b
  else
    let s : BorderSet := {}
    let l := area.x
    let r := area.right - 1
    let t := area.y
    let bot := area.bottom - 1
    let b := area.rows.foldl (fun b y => b.set l y s.vertical) b
    let b := area.columns.foldl (fun b x => b.set x t s.horizontal) b
    let b := area.rows.foldl (fun b y => b.set r y s.vertical) b
    let b := area.columns.foldl (fun b x => b.set x bot s.horizontal) b
    let b := b.set r bot s.bottomRight
    let b := b.set r t s.topRight
    let b := b.set l bot s.bottomLeft
    let b := b.set l t s.topLeft
    let titleArea : Rect := ⟨area.x + 1, area.y, area.width - 2, 1⟩
    if titleArea.isEmpty then b
    else
      let w := min (widthOf (segment title)) titleArea.width
      writeLine b { titleArea with width := w } title

/-! ## Paragraphs -/

/-- Cut a line with `room` cells left in an area `total` cells wide. -/
def truncateFrom (total : Nat) : Nat → List Grapheme → List Grapheme
  | _, [] => []
  | room, g :: rest =>
    if g.width > total then truncateFrom total room rest
    else if g.width > room then []
    else g :: truncateFrom total (room - g.width) rest

/-- **Cut a line** at `max` cells: graphemes wider than the whole area are left out, and the line
ends before the first grapheme that does not fit. -/
def truncateLine (max : Nat) (gs : List Grapheme) : List Grapheme := truncateFrom max max gs

/-- The state of the word wrapper within one input line. -/
structure Wrapper where
  /-- Finished lines, last first. -/
  done : List (List Grapheme) := []
  line : List Grapheme := []
  lineWidth : Nat := 0
  word : List Grapheme := []
  wordWidth : Nat := 0
  space : List Grapheme := []
  spaceWidth : Nat := 0
  /-- Whether the grapheme before was not white space. -/
  afterWord : Bool := false

/-- Drop leading white space that still fits in `room` cells. -/
def dropFittingSpace : Nat → List Grapheme → Nat → List Grapheme × Nat
  | room, g :: rest, width =>
    if g.width > room then (g :: rest, width)
    else dropFittingSpace (room - g.width) rest (width - g.width)
  | _, [], width => ([], width)

/-- **One grapheme of word wrapping** at `max` cells, keeping white space. A word that ends is
moved to the line with the space before it; a line that is full, or that the pending word would
overflow, is finished, and the space at the break that fits on the finished line is dropped. -/
def Wrapper.step (max : Nat) (w : Wrapper) (g : Grapheme) : Wrapper :=
  if g.width > max then w
  else
    let isSpace := g.isWhitespace
    let overflow := w.line.isEmpty && w.wordWidth + w.spaceWidth + g.width > max
    let w :=
      if (w.afterWord && isSpace) || overflow then
        { w with line := w.line ++ w.space ++ w.word,
                 lineWidth := w.lineWidth + w.spaceWidth + w.wordWidth,
                 space := [], spaceWidth := 0, word := [], wordWidth := 0 }
      else w
    let full := w.lineWidth ≥ max
    let wordOverflow := g.width > 0 && w.lineWidth + w.spaceWidth + w.wordWidth ≥ max
    let (w, skip) :=
      if full || wordOverflow then
        let room := max - w.lineWidth
        let (space, spaceWidth) := dropFittingSpace room w.space w.spaceWidth
        let w := { w with done := w.line :: w.done, line := [], lineWidth := 0,
                          space := space, spaceWidth := spaceWidth }
        (w, isSpace && space.isEmpty)
      else (w, false)
    if skip then w
    else if isSpace then
      { w with space := w.space ++ [g], spaceWidth := w.spaceWidth + g.width, afterWord := false }
    else { w with word := w.word ++ [g], wordWidth := w.wordWidth + g.width, afterWord := true }

/-- **Wrap one line** at `max` cells, keeping white space; an empty line stays one empty line. -/
def wrapLine (max : Nat) (gs : List Grapheme) : List (List Grapheme) :=
  let w := gs.foldl (Wrapper.step max) {}
  let extra := if w.line.isEmpty && w.word.isEmpty && !w.space.isEmpty then [[]] else []
  let last := w.line ++ w.space ++ w.word
  let lines := w.done.reverse ++ extra ++ (if last.isEmpty then [] else [last])
  if lines.isEmpty then [[]] else lines

/-- The column where a line of `lineWidth` cells starts in an area `areaWidth` cells wide. -/
def lineOffset (alignment : Alignment) (lineWidth areaWidth : Nat) : Nat :=
  match alignment with
  | .left => 0
  | .center => areaWidth / 2 - lineWidth / 2

/-- Write one composed line into row `y` of `area`; zero-width graphemes are skipped. -/
def placeLine (b : Buffer) (area : Rect) (y : Nat) (alignment : Alignment)
    (gs : List Grapheme) : Buffer :=
  let start := area.x + lineOffset alignment (widthOf gs) area.width
  (gs.foldl (fun (acc : Buffer × Nat) g =>
    if g.width = 0 then acc else (acc.1.set acc.2 y g.symbol, acc.2 + g.width)) (b, start)).1

/-- Write composed lines into the rows of `area`, as many as fit. -/
def placeLines (b : Buffer) (area : Rect) (alignment : Alignment) (lines : List (List Grapheme)) :
    Buffer :=
  ((lines.take area.height).zipIdx).foldl (fun b (gs, i) => placeLine b area (area.y + i) alignment gs) b

/-- **A paragraph of cut lines** (each line given as its spans) in `area`. -/
def drawCutParagraph (b : Buffer) (area : Rect) (alignment : Alignment)
    (lines : List (List String)) : Buffer :=
  if area.isEmpty then b
  else placeLines b area alignment (lines.map fun spans => truncateLine area.width (spans.flatMap segment))

/-- **A paragraph of wrapped lines** in `area`. -/
def drawWrappedParagraph (b : Buffer) (area : Rect) (alignment : Alignment) (lines : List String) :
    Buffer :=
  if area.isEmpty then b
  else placeLines b area alignment (lines.flatMap fun l => wrapLine area.width (segment l))

end StompConsole.Terminal
