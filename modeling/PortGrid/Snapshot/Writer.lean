import PortGrid.Json.Writer
import PortGrid.Snapshot
import PortGrid.Snapshot.Codes
import PortGrid.Timestamp.Writer

/-!
# Writing a snapshot

The state is written as one JSON object without white space, each record with its fields in a fixed order. A
location, a type or a note that is none is left out; the selection is then null.

Key definitions: `writePort`, `writeEquipment`, `writeState`, `State.snapshot`.
-/

namespace PortGrid

open Json

/-- A member that is left out for none. -/
def optionalMember (name : String) : Option String → List (String × List Char)
  | some value => [(name, writeText value)]
  | none => []

def writeStatus (status : PortStatus) : List Char :=
  writeText status.code

def writeLanguage (language : Language) : List Char :=
  writeText language.code

def writeLayout (layout : Layout) : List Char :=
  writeObject [("rows", writeNat layout.rows.toNat), ("cols", writeNat layout.cols.toNat)]

def writeTimestamp (t : Timestamp) : List Char :=
  writeText t.text

def writePort (port : Port) : List Char :=
  writeObject (
    [("id", writeText port.id.text), ("name", writeText port.name), ("status", writeStatus port.status),
      ("row", writeNat port.position.row.toNat), ("col", writeNat port.position.col.toNat)] ++
    optionalMember "note" port.note)

def writeEquipment (e : Equipment) : List Char :=
  writeObject (
    [("id", writeText e.id.text), ("name", writeText e.name)] ++
    optionalMember "location" e.location ++ optionalMember "type" e.kind ++
    [("layout", writeLayout e.layout), ("ports", writeList (e.ports.map writePort)),
      ("createdAt", writeTimestamp e.createdAt), ("updatedAt", writeTimestamp e.updatedAt)])

def writeFilter (f : FilterOptions) : List Char :=
  writeObject (
    [("search", writeText f.search)] ++ optionalMember "location" f.location ++ optionalMember "type" f.kind)

def writeState (s : State) : List Char :=
  writeObject [
    ("equipments", writeList (s.equipments.map writeEquipment)),
    ("selectedEquipmentId", writeOption (fun id : EquipmentId => writeText id.text) s.selected),
    ("filterOptions", writeFilter s.filter),
    ("isDarkMode", writeBoolean s.isDark),
    ("language", writeLanguage s.language)]

/-- The state as a text to be stored. -/
def State.snapshot (s : State) : String :=
  String.ofList (writeState s)

end PortGrid
