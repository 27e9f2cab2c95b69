import PortGrid.Json.Shape
import PortGrid.Snapshot
import PortGrid.Snapshot.Codes
import PortGrid.Timestamp.Reader

/-!
# Reading a snapshot

Each record has a draft, in which its fields are gathered, and a shape. All fields of the state and of the filter
may be missing, as may a location, a type and a note; the other fields must be there. The dimensions of a layout
are checked as soon as the layout has been read.

Key definitions: `portShape`, `equipmentShape`, `stateShape`, `readPort`, `readEquipment`, `readState`,
`State.ofSnapshot`.
-/

namespace PortGrid

open Json

def readStatus : Reader PortStatus := Reader.variant PortStatus.variants

def readLanguage : Reader Language := Reader.variant Language.variants

def readText : Reader String := Reader.text "a string"

def readPortId : Reader PortId := PortId.mk <$> readText

def readEquipmentId : Reader EquipmentId := EquipmentId.mk <$> readText

def readTimestamp : Reader Timestamp := do
  let text ← Reader.text "an RFC 3339 formatted date and time string"
  match Timestamp.parse text with
  | .ok t => return t
  | .error fault => Reader.fail (.refused fault.message)

/-! ## Layouts -/

/-- The fields of a layout found so far. -/
structure LayoutDraft where
  rows : Option UInt32 := none
  cols : Option UInt32 := none

/-- The shape of a layout, whose dimensions are still to be checked. -/
def layoutShape : Shape LayoutDraft (UInt32 × UInt32) where
  name := "struct RawLayout"
  fields := [
    { name := "rows", isFilled := (·.rows.isSome), read := fun d => return { d with rows := some (← Reader.nat32) } },
    { name := "cols", isFilled := (·.cols.isSome), read := fun d => return { d with cols := some (← Reader.nat32) } }]
  empty := {}
  finish d := return (← required "rows" d.rows, ← required "cols" d.cols)

def readLayout : Reader Layout := do
  let (rows, cols) ← layoutShape.read
  match Layout.make rows cols with
  | .ok layout => return layout
  | .error e => Reader.fail (.refused e.message)

/-! ## Ports -/

structure PortDraft where
  id : Option PortId := none
  name : Option String := none
  status : Option PortStatus := none
  row : Option UInt32 := none
  col : Option UInt32 := none
  note : Option (Option String) := none

def portShape : Shape PortDraft Port where
  name := "struct Port"
  fields := [
    { name := "id", isFilled := (·.id.isSome), read := fun d => return { d with id := some (← readPortId) } },
    { name := "name", isFilled := (·.name.isSome), read := fun d => return { d with name := some (← readText) } },
    { name := "status", isFilled := (·.status.isSome),
      read := fun d => return { d with status := some (← readStatus) } },
    { name := "row", isFilled := (·.row.isSome), read := fun d => return { d with row := some (← Reader.nat32) } },
    { name := "col", isFilled := (·.col.isSome), read := fun d => return { d with col := some (← Reader.nat32) } },
    { name := "note", isFilled := (·.note.isSome), isOptional := true,
      read := fun d => return { d with note := some (← Reader.option readText) } }]
  empty := {}
  finish d := do
    let id ← required "id" d.id
    let name ← required "name" d.name
    let status ← required "status" d.status
    let row ← required "row" d.row
    let col ← required "col" d.col
    return ⟨id, name, status, ⟨row, col⟩, d.note.join⟩

def readPort : Reader Port := portShape.read

/-! ## Equipment -/

structure EquipmentDraft where
  id : Option EquipmentId := none
  name : Option String := none
  location : Option (Option String) := none
  kind : Option (Option String) := none
  layout : Option Layout := none
  ports : Option (List Port) := none
  createdAt : Option Timestamp := none
  updatedAt : Option Timestamp := none

def equipmentShape : Shape EquipmentDraft Equipment where
  name := "struct Equipment"
  fields := [
    { name := "id", isFilled := (·.id.isSome), read := fun d => return { d with id := some (← readEquipmentId) } },
    { name := "name", isFilled := (·.name.isSome), read := fun d => return { d with name := some (← readText) } },
    { name := "location", isFilled := (·.location.isSome), isOptional := true,
      read := fun d => return { d with location := some (← Reader.option readText) } },
    { name := "type", isFilled := (·.kind.isSome), isOptional := true,
      read := fun d => return { d with kind := some (← Reader.option readText) } },
    { name := "layout", isFilled := (·.layout.isSome),
      read := fun d => return { d with layout := some (← readLayout) } },
    { name := "ports", isFilled := (·.ports.isSome),
      read := fun d => return { d with ports := some (← Reader.list readPort) } },
    { name := "createdAt", isFilled := (·.createdAt.isSome),
      read := fun d => return { d with createdAt := some (← readTimestamp) } },
    { name := "updatedAt", isFilled := (·.updatedAt.isSome),
      read := fun d => return { d with updatedAt := some (← readTimestamp) } }]
  empty := {}
  finish d := do
    let id ← required "id" d.id
    let name ← required "name" d.name
    let layout ← required "layout" d.layout
    let ports ← required "ports" d.ports
    let createdAt ← required "createdAt" d.createdAt
    let updatedAt ← required "updatedAt" d.updatedAt
    return ⟨id, name, d.location.join, d.kind.join, layout, ports, createdAt, updatedAt⟩

def readEquipment : Reader Equipment := equipmentShape.read

/-! ## Filters -/

structure FilterDraft where
  search : Option String := none
  location : Option (Option String) := none
  kind : Option (Option String) := none

def filterShape : Shape FilterDraft FilterOptions where
  name := "struct FilterOptions"
  fields := [
    { name := "search", isFilled := (·.search.isSome), isOptional := true,
      read := fun d => return { d with search := some (← readText) } },
    { name := "location", isFilled := (·.location.isSome), isOptional := true,
      read := fun d => return { d with location := some (← Reader.option readText) } },
    { name := "type", isFilled := (·.kind.isSome), isOptional := true,
      read := fun d => return { d with kind := some (← Reader.option readText) } }]
  empty := {}
  finish d := return ⟨d.search.getD "", d.location.join, d.kind.join⟩

def readFilter : Reader FilterOptions := filterShape.read

/-! ## States -/

structure StateDraft where
  equipments : Option (List Equipment) := none
  selected : Option (Option EquipmentId) := none
  filter : Option FilterOptions := none
  isDark : Option Bool := none
  language : Option Language := none

def stateShape : Shape StateDraft State where
  name := "struct PersistedState"
  fields := [
    { name := "equipments", isFilled := (·.equipments.isSome), isOptional := true,
      read := fun d => return { d with equipments := some (← Reader.list readEquipment) } },
    { name := "selectedEquipmentId", isFilled := (·.selected.isSome), isOptional := true,
      read := fun d => return { d with selected := some (← Reader.option readEquipmentId) } },
    { name := "filterOptions", isFilled := (·.filter.isSome), isOptional := true,
      read := fun d => return { d with filter := some (← readFilter) } },
    { name := "isDarkMode", isFilled := (·.isDark.isSome), isOptional := true,
      read := fun d => return { d with isDark := some (← Reader.boolean) } },
    { name := "language", isFilled := (·.language.isSome), isOptional := true,
      read := fun d => return { d with language := some (← readLanguage) } }]
  empty := {}
  finish d := return ⟨d.equipments.getD [], d.selected.join, d.filter.getD {}, d.isDark.getD false,
    d.language.getD .korean⟩

def readState : Reader State := stateShape.read

/-- The state that a stored text holds. -/
def State.ofSnapshot (text : String) : Except Fault State :=
  readState.all text

end PortGrid
