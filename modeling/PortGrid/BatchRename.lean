import PortGrid.Storage.Directory
import PortGrid.Store

/-!
# The command that renames the ports of a device

The command opens the store in a directory, takes the selected device or adds one, names its ports by a pattern,
and prints the names row by row. A refused pattern is explained to the user and is no failure of the command; any
other refusal is.

Key definitions: `CommandReport`, `firstDraft`, `gridLines`, `renameDevice`, `batchRename`.
-/

namespace PortGrid

/-- What the command did: its exit code, the lines it prints, and its records of events. -/
structure CommandReport where
  code : Nat
  lines : List String
  records : List (Level × String)

def recordsOf (events : List Event) : List (Level × String) :=
  events.map fun event => (event.level, event.message)

/-- The directory in which the command keeps its state, unless told otherwise. -/
def defaultStateDirectory : String := "portmap-state"

/-- The pattern by which the command names ports, unless told otherwise. -/
def defaultPattern : String := "Gi\x7brow\x7d/0/\x7bcol\x7d"

def commandConfig : StoreConfig := { defaultLanguage := .english }

/-- The device that the command adds when none is selected. -/
def firstDraft : Draft where
  name := "Switch-01"
  layout := ⟨2, 12, by decide, by decide⟩
  location := some "Server Room A Rack"
  kind := some "Switch"

/-- A line with the name and the size of a device, and for every row a line with the names of its ports. -/
def gridLines (e : Equipment) : List String :=
  s!"{e.name} ({e.layout.rows}x{e.layout.cols})" ::
    (List.range e.layout.rows.toNat).map fun row =>
      "  " ++ "  ".intercalate ((e.ports.filter (·.position.row.toNat = row)).map (·.name))

/-- The report of a refusal that makes the command fail. -/
def failedReport (records : List (Level × String)) (message : String) : CommandReport :=
  ⟨1, [], records ++ [(.error, message)]⟩

section Run

variable {β : Type} [Backend β]

/-- Renames the ports of a device and prints them. -/
def renameDevice (store : Store β) (id : EquipmentId) (pattern : String) (m : Moment)
    (records : List (Level × String)) : CommandReport × β :=
  let outcome := store.perform m (.rename id pattern)
  let records := records ++ recordsOf outcome.events
  let backend := outcome.store.backend
  match outcome.result with
  | .error (.pattern fault) =>
    (⟨0, [], records ++ [(.error, outcome.store.state.language.messages.describe fault)]⟩, backend)
  | .error e => (failedReport records e.message, backend)
  | .ok reply =>
    let count := match reply with
      | .renamed count => count
      | _ => 0
    let lines := match outcome.store.state.equipment? id with
      | some e => gridLines e
      | none => []
    (⟨0, lines, records ++ [(.info, s!"Renamed {count} ports")]⟩, backend)

/-- Runs the command on a storage. `adding` is the moment at which it may add a device, `naming` that at which it
renames the ports. -/
def batchRename (backend : β) (pattern : String) (adding naming : Moment) : CommandReport × β :=
  match Store.openWith commandConfig backend with
  | .error e => (failedReport [] e.message, backend)
  | .ok (store, events) =>
    let records := recordsOf events
    match store.state.selected? with
    | some e => renameDevice store e.id pattern naming records
    | none =>
      let outcome := store.perform adding (.add firstDraft)
      let records := records ++ recordsOf outcome.events
      match outcome.result with
      | .ok (.added id) => renameDevice outcome.store id pattern naming records
      | .ok _ => (⟨0, [], records⟩, outcome.store.backend)
      | .error e => (failedReport records e.message, outcome.store.backend)

end Run

/-- Runs the command on a directory that is yet to be opened, or reports why it cannot be. -/
def batchRenameAt (path : String) (directory : Except FileFault Directory) (pattern : String)
    (adding naming : Moment) : CommandReport × Directory :=
  match directory with
  | .error fault => (failedReport [] (StorageError.file path fault).message, {})
  | .ok directory => batchRename directory pattern adding naming

end PortGrid
