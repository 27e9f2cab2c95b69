import PortGrid.Identifier
import PortGrid.Timestamp

/-!
# What an operation takes from outside

An operation may read the clock and may need fresh identifiers. Both are handed to it in one value, so that its
result is a function of its input.

Key definition: `Moment`.
-/

namespace PortGrid

/-- The reading of the clock for one operation, and the fresh identifiers that it may use. -/
structure Moment where
  now : Timestamp
  equipmentId : EquipmentId
  portId : Nat → PortId

end PortGrid
