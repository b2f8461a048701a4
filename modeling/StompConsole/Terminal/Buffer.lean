import StompConsole.Terminal.Grapheme

/-!
# Screen buffers

A buffer is a rectangle of cells, each showing one grapheme (a blank cell shows a space). Drawing
writes graphemes into cells; a grapheme two cells wide leaves the cell after it blank. Writes
outside the buffer are ignored.
-/

namespace StompConsole.Terminal

/-- A rectangle of cells: its top-left corner and its size. -/
structure Rect where
  x : Nat
  y : Nat
  width : Nat
  height : Nat
  deriving DecidableEq, Repr

namespace Rect

/-- The first column after the rectangle. -/
def right (r : Rect) : Nat := r.x + r.width

/-- The first row after the rectangle. -/
def bottom (r : Rect) : Nat := r.y + r.height

/-- Whether the rectangle holds no cell. -/
def isEmpty (r : Rect) : Bool := r.width = 0 || r.height = 0

/-- The rectangle without a one-cell border. -/
def inner (r : Rect) : Rect :=
  ⟨min (r.x + 1) r.right, min (r.y + 1) r.bottom, r.width - 2, r.height - 2⟩

/-- The rows of the rectangle. -/
def rows (r : Rect) : List Nat := (List.range r.height).map (r.y + ·)

/-- The columns of the rectangle. -/
def columns (r : Rect) : List Nat := (List.range r.width).map (r.x + ·)

end Rect

/-- A buffer of `width × height` cells, row by row. -/
structure Buffer where
  width : Nat
  height : Nat
  cells : Array String

namespace Buffer

/-- A blank buffer. -/
def blank (width height : Nat) : Buffer := ⟨width, height, Array.replicate (width * height) " "⟩

/-- The whole buffer as a rectangle. -/
def area (b : Buffer) : Rect := ⟨0, 0, b.width, b.height⟩

/-- Show `symbol` in the cell at column `x` of row `y`. -/
def set (b : Buffer) (x y : Nat) (symbol : String) : Buffer :=
  if x < b.width ∧ y < b.height then { b with cells := b.cells.setIfInBounds (y * b.width + x) symbol }
  else b

/-- The symbol of a cell. -/
def get (b : Buffer) (x y : Nat) : String := b.cells.getD (y * b.width + x) " "

/-- Add a zero-width grapheme to the symbol of a cell. -/
def append (b : Buffer) (x y : Nat) (symbol : String) : Buffer := b.set x y (b.get x y ++ symbol)

/-- Blank every cell of a rectangle. -/
def clear (b : Buffer) (r : Rect) : Buffer :=
  r.rows.foldl (fun b y => r.columns.foldl (fun b x => b.set x y " ") b) b

/-- One row as a terminal shows it: the symbols of its cells in order, where the cells covered
by a wide grapheme show a space. -/
def rowText (b : Buffer) (y : Nat) : String :=
  let step (acc : List String × Nat) (x : Nat) : List String × Nat :=
    let (out, covered) := acc
    if covered > 0 then (" " :: out, covered - 1)
    else
      let s := b.get x y
      (s :: out, textWidth s.toList - 1)
  String.join ((List.range b.width).foldl step ([], 0)).1.reverse

/-- The rows of the buffer as a terminal shows them. -/
def lines (b : Buffer) : List String := (List.range b.height).map b.rowText

end Buffer

end StompConsole.Terminal
