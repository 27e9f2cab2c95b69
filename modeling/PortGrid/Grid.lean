/-!
# The grid of ports

A layout is a rectangle of cells with at least one row and one column. A position is a cell, counted from zero.
Positions are ordered row by row, and the cells of a layout are listed in that order.

Key definitions: `Position`, `Position.le`, `Layout`, `Layout.make`, `Layout.contains`, `Layout.cell`,
`Layout.positions`.
-/

namespace PortGrid

/-- A cell of a grid, counted from zero. -/
structure Position where
  row : UInt32
  col : UInt32
deriving DecidableEq

/-- The order by row, then by column. -/
def Position.le (p q : Position) : Bool :=
  p.row < q.row || (p.row == q.row && p.col ≤ q.col)

def Position.sort (ps : List Position) : List Position :=
  ps.mergeSort Position.le

/-- The dimensions of a grid. -/
structure Layout where
  rows : UInt32
  cols : UInt32
  rows_pos : 0 < rows
  cols_pos : 0 < cols
deriving DecidableEq

/-- Dimensions that make no grid. -/
structure LayoutError where
  rows : UInt32
  cols : UInt32
deriving DecidableEq

def LayoutError.message (e : LayoutError) : String :=
  s!"layout must have at least one row and one column (got {e.rows}x{e.cols})"

namespace Layout

/-- The layout of the given dimensions, if neither is zero. -/
def make (rows cols : UInt32) : Except LayoutError Layout :=
  if h : 0 < rows ∧ 0 < cols then .ok ⟨rows, cols, h.1, h.2⟩ else .error ⟨rows, cols⟩

def portCount (layout : Layout) : Nat :=
  layout.rows.toNat * layout.cols.toNat

/-- Whether the position is a cell of the layout. -/
def contains (layout : Layout) (p : Position) : Bool :=
  p.row < layout.rows && p.col < layout.cols

/-- The `k`-th cell, row by row. -/
def cell (layout : Layout) (k : Nat) : Position :=
  ⟨UInt32.ofNat (k / layout.cols.toNat), UInt32.ofNat (k % layout.cols.toNat)⟩

/-- The first `n` cells, row by row, or all of them if there are fewer. -/
def firstPositions (layout : Layout) (n : Nat) : List Position :=
  (List.range (min n layout.portCount)).map layout.cell

/-- All cells, row by row. -/
def positions (layout : Layout) : List Position :=
  (List.range layout.portCount).map layout.cell

end Layout

end PortGrid
