/-!
# Identifiers

Equipment and ports are named by identifiers that never change. A fresh identifier comes from outside, one supply
for each operation; here an identifier is only a text with a role.

Key definitions: `EquipmentId`, `PortId`.
-/

namespace PortGrid

/-- The identifier of a piece of equipment. -/
structure EquipmentId where
  text : String
deriving DecidableEq

/-- The identifier of a port, unique within its equipment. -/
structure PortId where
  text : String
deriving DecidableEq

end PortGrid
