import PortGrid.Moment
import PortGrid.Port

/-!
# Equipment

A piece of equipment is a device with a grid of ports. It is created with one port on every cell, and when its
layout changes the ports that still have a cell stay as they are, while the cells without a port get a fresh one.

Key definitions: `Equipment`, `Draft.build`, `Equipment.reconcile`, `EquipmentUpdate`, `Equipment.apply`,
`Inconsistency`, `Equipment.validate`.
-/

namespace PortGrid

/-- A device with a grid of ports. -/
structure Equipment where
  id : EquipmentId
  name : String
  location : Option String
  kind : Option String
  layout : Layout
  ports : List Port
  createdAt : Timestamp
  updatedAt : Timestamp
deriving DecidableEq

/-- What is known of a device before it is added. -/
structure Draft where
  name : String
  layout : Layout
  location : Option String := none
  kind : Option String := none
deriving DecidableEq

/-- The name of a port that nobody has named. -/
def defaultPortName (label : String) (number : Nat) : String :=
  s!"{label} {number}"

/-- Fresh ports on the given cells, numbered from `first`. -/
def freshPorts (portId : Nat → PortId) (label : String) (first : Nat) (cells : List Position) : List Port :=
  cells.zipIdx.map fun (p, i) => Port.fresh (portId i) (defaultPortName label (first + i)) p

/-- The device that a draft describes, with a default port on every cell. Outer blanks are removed, and a blank
location or type is left out. -/
def Draft.build (draft : Draft) (label : String) (m : Moment) : Equipment where
  id := m.equipmentId
  name := Text.trim draft.name
  location := draft.location.bind Text.trimmed?
  kind := draft.kind.bind Text.trimmed?
  layout := draft.layout
  ports := freshPorts m.portId label 1 draft.layout.positions
  createdAt := m.now
  updatedAt := m.now

/-- A change of a device. What is absent stays as it is; a location or type may be set to none. -/
structure EquipmentUpdate where
  name : Option String := none
  location : Option (Option String) := none
  kind : Option (Option String) := none
  layout : Option Layout := none
deriving DecidableEq

namespace Equipment

/-- The first port with the identifier. -/
def port? (e : Equipment) (id : PortId) : Option Port :=
  e.ports.find? (·.id = id)

/-- The ports in row-major order; ports of one cell keep their order. -/
def sortPorts (ports : List Port) : List Port :=
  ports.mergeSort fun p q => p.position.le q.position

/-- The cells of the layout that hold none of the ports, in row-major order. -/
def vacantCells (layout : Layout) (ports : List Port) : List Position :=
  layout.positions.filter fun cell => !ports.any (·.position = cell)

/-- The device moved to a layout. Ports inside it stay as they are; every cell without a port gets a fresh one,
numbered after the ports that stay. -/
def reconcile (e : Equipment) (layout : Layout) (label : String) (portId : Nat → PortId) : Equipment :=
  let kept := e.ports.filter fun port => layout.contains port.position
  let fresh := freshPorts portId label (kept.length + 1) (vacantCells layout kept)
  { e with layout := layout, ports := sortPorts (kept ++ fresh) }

/-- Whether the change moves the device to another layout. -/
def resizedBy (e : Equipment) (update : EquipmentUpdate) : Option Layout :=
  update.layout.filter (· ≠ e.layout)

/-- The device after a change made at the given moment. -/
def apply (e : Equipment) (update : EquipmentUpdate) (label : String) (m : Moment) : Equipment :=
  let described : Equipment :=
    { e with
      name := (update.name.map Text.trim).getD e.name
      location := (update.location.map (·.bind Text.trimmed?)).getD e.location
      kind := (update.kind.map (·.bind Text.trimmed?)).getD e.kind }
  let resized := match e.resizedBy update with
    | some layout => described.reconcile layout label m.portId
    | none => described
  { resized with updatedAt := m.now }

end Equipment

/-- Why the ports of a device do not fill its grid one by one. -/
inductive Inconsistency where
  | wrongCount (equipment : EquipmentId) (count : Nat) (layout : Layout)
  | outside (port : PortId) (position : Position) (equipment : EquipmentId)
  | shared (equipment : EquipmentId) (position : Position)
deriving DecidableEq

def Inconsistency.message : Inconsistency → String
  | .wrongCount equipment count layout =>
    s!"Equipment '{equipment.text}' has {count} ports for a {layout.rows}x{layout.cols} layout"
  | .outside port position equipment =>
    s!"Port '{port.text}' at ({position.row}, {position.col}) lies outside the layout of '{equipment.text}'"
  | .shared equipment position =>
    s!"Equipment '{equipment.text}' has more than one port at ({position.row}, {position.col})"

namespace Equipment

/-- The first port outside the grid or on a cell taken by one of the ports before it. -/
def misplaced? (e : Equipment) (taken : List Position) : List Port → Option Inconsistency
  | [] => none
  | port :: ports =>
    if !e.layout.contains port.position then some (.outside port.id port.position e.id)
    else if taken.contains port.position then some (.shared e.id port.position)
    else e.misplaced? (port.position :: taken) ports

/-- Finds out whether every cell holds exactly one port and no port lies outside. The number of ports is checked
first, then each port in turn. -/
def validate (e : Equipment) : Except Inconsistency Unit :=
  if e.ports.length ≠ e.layout.portCount then .error (.wrongCount e.id e.ports.length e.layout)
  else match e.misplaced? [] e.ports with
    | some problem => .error problem
    | none => .ok ()

end Equipment

end PortGrid
