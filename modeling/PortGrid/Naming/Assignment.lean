import PortGrid.Equipment
import PortGrid.Naming.Pattern

/-!
# The names that a pattern gives to ports

A pattern names the ports of a list by their identifiers. A template looks at each port alone; a range and an
increment visit the ports in row-major order, whatever their order in the list. If an identifier is named twice,
the later name holds.

Key definitions: `Names`, `renderTemplate`, `Cursor`, `rangeNames`, `incrementNames`, `NamePattern.assign`,
`assignNames`.
-/

namespace PortGrid

/-- Names given to identifiers, in the order in which they were given. -/
structure Names where
  pairs : List (PortId × String)
deriving DecidableEq

namespace Names

/-- The name of an identifier: the last one given. -/
def get? (names : Names) (id : PortId) : Option String :=
  (names.pairs.reverse.find? (·.1 = id)).map (·.2)

/-- The identifiers that have a name, each once. -/
def ids (names : Names) : List PortId :=
  (names.pairs.map (·.1)).eraseDups

/-- How many identifiers have a name. -/
def size (names : Names) : Nat :=
  names.ids.length

def toList (names : Names) : List (PortId × String) :=
  names.ids.filterMap fun id => (names.get? id).map (id, ·)

/-- The port with the name given to its identifier, if one is. -/
def rename (names : Names) (port : Port) : Port :=
  { port with name := (names.get? port.id).getD port.name }

end Names

/-- The template with the row and the column of a position, counted from one, in place of its markers. -/
def renderTemplate (template : String) (p : Position) : String :=
  let row := Nat.toDigits 10 (p.row.toNat + 1)
  let col := Nat.toDigits 10 (p.col.toNat + 1)
  String.ofList (Text.replaceAll colMarker col (Text.replaceAll rowMarker row template.toList))

/-- The place that a walk over names has reached. -/
structure Cursor where
  row : Nat
  col : Nat
deriving DecidableEq

/-- The last column that an increment reaches before it goes on to the next row. -/
def incrementCeiling : Nat := 999

namespace Cursor

def ofCoordinate (c : Coordinate) : Cursor :=
  ⟨c.row.toNat, c.col.toNat⟩

def name (c : Cursor) (stem : String) : String :=
  s!"{stem}{c.row}/{c.col}"

/-- Whether the place lies behind the other, row by row. -/
def isPast (c stop : Cursor) : Bool :=
  c.row > stop.row || (c.row == stop.row && c.col > stop.col)

/-- The next place of a range: behind the last column a row starts anew at the first. -/
def nextInRange (c start stop : Cursor) : Cursor :=
  if c.col + 1 > stop.col then ⟨c.row + 1, start.col⟩ else ⟨c.row, c.col + 1⟩

/-- The next place of an increment: behind the ceiling a row starts anew at column one. -/
def nextInIncrement (c : Cursor) : Cursor :=
  if c.col + 1 > incrementCeiling then ⟨c.row + 1, 1⟩ else ⟨c.row, c.col + 1⟩

end Cursor

/-- Names the ports in turn until the range is used up. -/
def rangeNames (stem : String) (start stop : Cursor) : Cursor → List Port → List (PortId × String)
  | _, [] => []
  | c, port :: ports =>
    if c.isPast stop then []
    else (port.id, c.name stem) :: rangeNames stem start stop (c.nextInRange start stop) ports

/-- Names all the ports in turn. -/
def incrementNames (stem : String) : Cursor → List Port → List (PortId × String)
  | _, [] => []
  | c, port :: ports => (port.id, c.name stem) :: incrementNames stem c.nextInIncrement ports

/-- The names that the pattern gives to the ports. -/
def NamePattern.assign (pattern : NamePattern) (ports : List Port) : Names :=
  match pattern with
  | .template text => ⟨ports.map fun port => (port.id, renderTemplate text port.position)⟩
  | .range stem start stop =>
    let start := Cursor.ofCoordinate start
    ⟨rangeNames stem start (Cursor.ofCoordinate stop) start (Equipment.sortPorts ports)⟩
  | .increment stem start =>
    ⟨incrementNames stem (Cursor.ofCoordinate start) (Equipment.sortPorts ports)⟩

/-- The names that a written pattern gives to the ports. -/
def assignNames (pattern : String) (ports : List Port) : Except PatternError Names :=
  (NamePattern.parse pattern).map (·.assign ports)

end PortGrid
