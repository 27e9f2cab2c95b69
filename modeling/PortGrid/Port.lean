import PortGrid.Grid
import PortGrid.Identifier
import PortGrid.Text.Blank

/-!
# Ports

A port sits on one cell for good; its name, its status and its note can be edited. An edit follows the rules of a
form: a blank name keeps the old one, and a blank note removes it.

Key definitions: `PortStatus`, `Port`, `Port.fresh`, `PortUpdate`, `Port.apply`.
-/

namespace PortGrid

/-- The operational status of a port. -/
inductive PortStatus where
  | normal
  | unused
  | needsCheck
  | unspecified
deriving DecidableEq

/-- All statuses, in the order in which they are shown. -/
def PortStatus.all : List PortStatus :=
  [.normal, .unused, .needsCheck, .unspecified]

/-- A connector of a piece of equipment. -/
structure Port where
  id : PortId
  name : String
  status : PortStatus
  position : Position
  note : Option String
deriving DecidableEq

/-- An unused port without a note. -/
def Port.fresh (id : PortId) (name : String) (position : Position) : Port :=
  ⟨id, name, .unused, position, none⟩

/-- An edit of a port. What is absent stays as it is. -/
structure PortUpdate where
  name : Option String := none
  status : Option PortStatus := none
  note : Option String := none
deriving DecidableEq

/-- The edit that sets the name alone. -/
def PortUpdate.ofName (name : String) : PortUpdate := { name := some name }

def PortUpdate.ofStatus (status : PortStatus) : PortUpdate := { status := some status }

def PortUpdate.ofNote (note : String) : PortUpdate := { note := some note }

/-- The port after an edit. Names and notes lose their outer blanks; a blank name is ignored and a blank note
clears the note. -/
def Port.apply (port : Port) (update : PortUpdate) : Port :=
  { port with
    name := (update.name.bind Text.trimmed?).getD port.name
    status := update.status.getD port.status
    note := match update.note with
      | some note => Text.trimmed? note
      | none => port.note }

end PortGrid
