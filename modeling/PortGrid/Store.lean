import PortGrid.Naming.Assignment
import PortGrid.Snapshot.Reader
import PortGrid.Snapshot.Writer
import PortGrid.Storage

/-!
# The store

A store holds the state and the storage in which it is kept. An operation is planned first: from the state alone
follow its answer and the state after it, or its refusal. The planned state is then written to the storage, if the
store saves by itself, and only when it has been written does it become the state of the store. So an operation
that is refused, or whose write fails, leaves the state as it was.

Key definitions: `StoreConfig`, `Store`, `StoreError`, `Operation`, `Reply`, `Plan`, `Operation.plan`,
`Store.perform`, `Store.openWith`.
-/

namespace PortGrid

/-- Where and when a store saves, and the language in which it starts. -/
structure StoreConfig where
  storageKey : String := "port-status-storage"
  defaultLanguage : Language := .korean
  autosave : Bool := true
deriving DecidableEq

/-- A state and the storage in which it is kept. -/
structure Store (β : Type) where
  config : StoreConfig
  backend : β
  state : State

/-- Why an operation is refused. -/
inductive StoreError where
  | equipmentNotFound (id : EquipmentId)
  | portNotFound (equipment : EquipmentId) (port : PortId)
  | layout (e : LayoutError)
  | pattern (e : PatternError)
  | storage (e : StorageError)

def StoreError.message : StoreError → String
  | .equipmentNotFound id => s!"equipment '{id.text}' not found"
  | .portNotFound equipment port => s!"port '{port.text}' not found on equipment '{equipment.text}'"
  | .layout e => e.message
  | .pattern e => e.message
  | .storage e => e.message

/-! ## Events -/

/-- How much an event matters. -/
inductive Level where
  | debug
  | info
  | warn
  | error
deriving DecidableEq

/-- What a store reports of its work. -/
inductive Event where
  | restored (count : Nat) (key : String)
  | inconsistent (problem : Inconsistency)
  | startedEmpty (key : String)
  | saved (key : String)
  | added (name : String) (id : EquipmentId) (ports : Nat)
  | resized (id : EquipmentId) (layout : Layout)
  | deleted (id : EquipmentId)
  | portUpdated (port : PortId) (equipment : EquipmentId)
  | renamed (count total : Nat) (id : EquipmentId) (pattern : String)
  | namedNothing (pattern : String) (id : EquipmentId)

def Event.level : Event → Level
  | .inconsistent _ => .warn
  | .saved _ => .debug
  | .portUpdated _ _ => .debug
  | .namedNothing _ _ => .debug
  | _ => .info

def Event.message : Event → String
  | .restored count key => s!"Restored {count} equipment from '{key}'"
  | .inconsistent problem => problem.message
  | .startedEmpty key => s!"No saved state under '{key}', starting empty"
  | .saved key => s!"Saved state under '{key}'"
  | .added name id ports => s!"Added equipment '{name}' ({id.text}) with {ports} ports"
  | .resized id layout => s!"Equipment '{id.text}' resized to {layout.rows}x{layout.cols}"
  | .deleted id => s!"Deleted equipment '{id.text}'"
  | .portUpdated port equipment => s!"Updated port '{port.text}' on '{equipment.text}'"
  | .renamed count total id pattern =>
    s!"Renamed {count} of {total} ports on '{id.text}' with pattern '{pattern}'"
  | .namedNothing pattern id => s!"Pattern '{pattern}' named no ports on '{id.text}'"

/-! ## Operations -/

/-- What can be done with a store. -/
inductive Operation where
  /-- Adds a device and selects it. -/
  | add (draft : Draft)
  | update (id : EquipmentId) (change : EquipmentUpdate)
  | delete (id : EquipmentId)
  | select (id : Option EquipmentId)
  | updatePort (equipment : EquipmentId) (port : PortId) (change : PortUpdate)
  /-- Names the ports of a device by a pattern. -/
  | rename (id : EquipmentId) (pattern : String)
  | setFilter (change : FilterUpdate)
  | clearFilter
  | toggleDark
  | setLanguage (language : Language)
  /-- Writes the state to the storage, whether the store saves by itself or not. -/
  | save

/-- What an operation answers. -/
inductive Reply where
  | done
  | added (id : EquipmentId)
  | renamed (count : Nat)
  | dark (isDark : Bool)
deriving DecidableEq

/-- What an operation is going to do. -/
inductive Plan where
  /-- Nothing changes and nothing is written. -/
  | keep (reply : Reply) (events : List Event)
  /-- The state changes. The events are reported once it has. -/
  | change (next : State) (reply : Reply) (events : List Event)
  /-- The state is written as it is. -/
  | write

/-- The list with the first element that passes the test replaced by its image. -/
def modifyFirst {α : Type} (test : α → Bool) (f : α → α) : List α → List α
  | [] => []
  | x :: xs => if test x then f x :: xs else x :: modifyFirst test f xs

namespace State

/-- The text from which default port names are made. -/
def portLabel (s : State) : String :=
  s.language.messages.portLabel

/-- The state with the first equipment of an identifier replaced by its image. -/
def modifyEquipment (s : State) (id : EquipmentId) (f : Equipment → Equipment) : State :=
  { s with equipments := modifyFirst (·.id = id) f s.equipments }

def eraseEquipment (s : State) (id : EquipmentId) : State :=
  { s with
    equipments := s.equipments.filter (·.id ≠ id)
    selected := if s.selected = some id then none else s.selected }

end State

namespace Equipment

/-- The device with the first port of an identifier replaced by its image. -/
def modifyPort (e : Equipment) (id : PortId) (f : Port → Port) : Equipment :=
  { e with ports := modifyFirst (·.id = id) f e.ports }

def touch (e : Equipment) (now : Timestamp) : Equipment :=
  { e with updatedAt := now }

def withNames (e : Equipment) (names : Names) : Equipment :=
  { e with ports := e.ports.map names.rename }

end Equipment

/-- The equipment of an identifier, or a refusal. -/
def State.require (s : State) (id : EquipmentId) : Except StoreError Equipment :=
  match s.equipment? id with
  | some e => .ok e
  | none => .error (.equipmentNotFound id)

/-- What the operation does to a state at a moment, or why it is refused. -/
def Operation.plan (m : Moment) (s : State) : Operation → Except StoreError Plan
  | .add draft =>
    let e := draft.build s.portLabel m
    .ok (.change { s with equipments := s.equipments ++ [e], selected := some e.id } (.added e.id)
      [.added e.name e.id e.ports.length])
  | .update id change => do
    let e ← s.require id
    let next := s.modifyEquipment id (·.apply change s.portLabel m)
    let events := match e.resizedBy change with
      | some layout => [.resized id layout]
      | none => []
    return .change next .done events
  | .delete id => do
    let _ ← s.require id
    return .change (s.eraseEquipment id) .done [.deleted id]
  | .select none => .ok (.change { s with selected := none } .done [])
  | .select (some id) => do
    let _ ← s.require id
    return .change { s with selected := some id } .done []
  | .updatePort equipment port change => do
    let e ← s.require equipment
    match e.port? port with
    | none => throw (.portNotFound equipment port)
    | some _ =>
      let next := s.modifyEquipment equipment fun e => (e.modifyPort port (·.apply change)).touch m.now
      return .change next .done [.portUpdated port equipment]
  | .rename id pattern => do
    let e ← s.require id
    match assignNames pattern e.ports with
    | .error fault => throw (.pattern fault)
    | .ok names =>
      if names.pairs.isEmpty then return .keep (.renamed 0) [.namedNothing pattern id]
      else
        let next := s.modifyEquipment id fun e => (e.withNames names).touch m.now
        return .change next (.renamed names.size) [.renamed names.size e.ports.length id pattern]
  | .setFilter change => .ok (.change { s with filter := s.filter.merge change } .done [])
  | .clearFilter => .ok (.change { s with filter := {} } .done [])
  | .toggleDark => .ok (.change { s with isDark := !s.isDark } (.dark (!s.isDark)) [])
  | .setLanguage language => .ok (.change { s with language := language } .done [])
  | .save => .ok .write

/-! ## Stores -/

/-- What comes of an operation: its answer or refusal, the store after it, and what it reports. -/
structure Outcome (β : Type) where
  result : Except StoreError Reply
  store : Store β
  events : List Event

namespace Store

variable {β : Type} [Backend β]

def write (s : Store β) (state : State) : Except StorageError Unit × β :=
  Backend.set s.backend s.config.storageKey state.snapshot

/-- Writes a state and, if that succeeds, makes it the state of the store. -/
def commit (s : Store β) (next : State) (reply : Reply) (events : List Event) : Outcome β :=
  match s.write next with
  | (.ok (), backend) =>
    ⟨.ok reply, { s with backend := backend, state := next }, .saved s.config.storageKey :: events⟩
  | (.error e, backend) => ⟨.error (.storage e), { s with backend := backend }, []⟩

def perform (s : Store β) (m : Moment) (op : Operation) : Outcome β :=
  match op.plan m s.state with
  | .error e => ⟨.error e, s, []⟩
  | .ok (.keep reply events) => ⟨.ok reply, s, events⟩
  | .ok (.change next reply events) =>
    if s.config.autosave then s.commit next reply events
    else ⟨.ok reply, { s with state := next }, events⟩
  | .ok .write => s.commit s.state .done []

/-- The state stored under a key, if there is one. -/
def load (backend : β) (key : String) : Except StorageError (Option State) :=
  match Backend.get backend key with
  | .error e => .error e
  | .ok none => .ok none
  | .ok (some text) =>
    match State.ofSnapshot text with
    | .ok state => .ok (some state)
    | .error fault => .error (.unreadable fault)

/-- What is wrong with the equipment of a state, in the order of the list. -/
def problems (state : State) : List Inconsistency :=
  state.equipments.filterMap fun e =>
    match e.validate with
    | .error problem => some problem
    | .ok () => none

/-- Opens a store on a storage: with the state under its key, or else with nothing but its language. -/
def openWith (config : StoreConfig) (backend : β) : Except StorageError (Store β × List Event) :=
  match load backend config.storageKey with
  | .error e => .error e
  | .ok (some state) =>
    .ok (⟨config, backend, state⟩,
      .restored state.equipments.length config.storageKey :: (problems state).map .inconsistent)
  | .ok none =>
    .ok (⟨config, backend, State.ofLanguage config.defaultLanguage⟩, [.startedEmpty config.storageKey])

/-- A store with nothing in it. -/
def fresh (backend : β) : Store β := ⟨{}, backend, {}⟩

end Store

end PortGrid
