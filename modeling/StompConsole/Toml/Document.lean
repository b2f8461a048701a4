/-!
# TOML documents

A TOML document is a tree of tables. It is written as a sequence of key/value pairs and table
headers, and the language restricts how that sequence may build the tree: every key is defined
once; a table is defined once, by a `[header]` or by the dotted keys that run through it, never
both; an inline table and an array value are closed once written; `[[header]]` appends a new
table to an array of tables, and later headers below it reach into that newest table.

A document is kept here as the list of its definitions by path, which is enough to enforce those
rules and to read back the values.
-/

namespace StompConsole.Toml

/-- A TOML value. -/
inductive Value where
  | string (s : String)
  | integer (n : Int)
  | float (text : String)
  | boolean (b : Bool)
  | datetime (text : String)
  | array (items : List Value)
  /-- An inline table, as its key paths and values in the order written. -/
  | inlineTable (entries : List (List String × Value))
  deriving Repr

/-- One step of a path into a document: a key, or an element of an array of tables. -/
inductive Segment where
  | key (k : String)
  | element (i : Nat)
  deriving DecidableEq, Repr

/-- A path from the root. -/
abbrev Path := List Segment

/-- What a path names. -/
inductive Kind where
  | value (v : Value)
  /-- A table defined by a `[header]`. -/
  | header
  /-- A table that exists because a header below it was written. -/
  | implicit
  /-- A table defined by dotted keys running through it. -/
  | dotted
  /-- An array of tables with this many tables. -/
  | tables (count : Nat)
  deriving Repr

/-- The definitions of a document, newest first. -/
structure Document where
  defs : List (Path × Kind) := []
  deriving Repr

namespace Document

/-- What a path names, if anything. -/
def find (d : Document) (p : Path) : Option Kind := (d.defs.find? (·.1 == p)).map (·.2)

/-- Record what a path names. -/
def define (d : Document) (p : Path) (k : Kind) : Document := ⟨(p, k) :: d.defs.filter (·.1 != p)⟩

/-- Walk the keys of a header from the root: missing tables are created implicitly, and an array
of tables is entered at its newest table. -/
def walkHeader (d : Document) : Path → List String → Except String (Document × Path)
  | p, [] => .ok (d, p)
  | p, k :: ks =>
    let q := p ++ [.key k]
    match d.find q with
    | none => walkHeader (d.define q .implicit) q ks
    | some .implicit | some .header | some .dotted => walkHeader d q ks
    | some (.tables c) => walkHeader d (q ++ [.element (c - 1)]) ks
    | some (.value _) => .error ("key " ++ k ++ " is not a table")

/-- **A `[header]`**: the table it opens. -/
def openTable (d : Document) (keys : List String) : Except String (Document × Path) := do
  let (d, p) ← d.walkHeader [] keys.dropLast
  let q := p ++ [.key (keys.getLastD "")]
  match d.find q with
  | none | some .implicit => return (d.define q .header, q)
  | _ => throw "duplicate table"

/-- **A `[[header]]`**: the new table it appends. -/
def openArrayTable (d : Document) (keys : List String) : Except String (Document × Path) := do
  let (d, p) ← d.walkHeader [] keys.dropLast
  let q := p ++ [.key (keys.getLastD "")]
  match d.find q with
  | none => return (d.define q (.tables 1), q ++ [.element 0])
  | some (.tables c) => return (d.define q (.tables (c + 1)), q ++ [.element c])
  | _ => throw "not an array of tables"

/-- Enter key `k` of table `p` on the way down a dotted key: a missing table is created as one
that dotted keys define, an array of tables is entered at its newest table, and a table that a
header defined cannot be extended. Also tells whether the table entered is one that dotted keys
define. -/
def enterDotted (d : Document) (p : Path) (k : String) : Except String (Document × Path × Bool) :=
  let q := p ++ [.key k]
  match d.find q with
  | none => .ok (d.define q .dotted, q, true)
  | some .dotted => .ok (d, q, true)
  | some .implicit => .ok (d, q, false)
  | some (.tables c) => .ok (d, q ++ [.element (c - 1)], false)
  | some .header => .error ("key " ++ k ++ " is already a table")
  | some (.value _) => .error ("key " ++ k ++ " is not a table")

/-- Walk the leading keys of a dotted key from table `p`. The table reached must be one that dotted
keys define: keys cannot be added by dotted keys to a table that a header defined or implied. -/
def walkDotted (d : Document) : Path → List String → Except String (Document × Path)
  | p, [] => .ok (d, p)
  | p, [k] => do
    let (d, q, dotted) ← d.enterDotted p k
    if dotted then return (d, q) else throw ("key " ++ k ++ " cannot be extended")
  | p, k :: ks => do
    let (d, q, _) ← d.enterDotted p k
    d.walkDotted q ks

/-- **A key/value pair** in table `p`. -/
def setValue (d : Document) (p : Path) (keys : List String) (v : Value) : Except String Document := do
  let (d, p) ← d.walkDotted p keys.dropLast
  let q := p ++ [.key (keys.getLastD "")]
  match d.find q with
  | none => return d.define q (.value v)
  | some _ => throw "duplicate key"

/-- The value of a key of the root table, or what else the key names. -/
def rootEntry (d : Document) (k : String) : Option Kind := d.find [.key k]

end Document

end StompConsole.Toml
