import PortGrid.Proofs.Naming.Tidiness
import PortGrid.Proofs.Store.History

/-!
# Texts stay tidy along every run

A state is tidy if no text in it is padded with blanks and none is empty where nothing would be meant by it. Texts come
in with drafts, changes, edits, filters and patterns, each by a way that trims them and drops what is blank; the library
itself makes up names, which are tidy. So every operation keeps a state tidy, whatever texts it is given, and a run from
a state with nothing in it never leaves the tidy states.

Key definitions: `Port.Tidy`, `Equipment.Tidy`, `FilterOptions.Tidy`, `State.Tidy`.
Key theorems: `Equipment.Tidy.apply`, `Equipment.Tidy.withNames`, `Changes.tidy`, `Store.tidy_run`.
-/

namespace PortGrid

theorem tidy_of_mem_bind_trimmed? {given : Option String} {text : String} (h : text ∈ given.bind Text.trimmed?) :
    Text.Tidy text := by
  obtain ⟨t, -, ht⟩ := Option.bind_eq_some_iff.mp h
  exact Text.tidy_of_trimmed? ht

/-! ### Ports -/

/-- The name and the note, if there is one, are tidy. -/
structure Port.Tidy (port : Port) : Prop where
  name : Text.Tidy port.name
  note : ∀ note ∈ port.note, Text.Tidy note

namespace Port

theorem tidy_fresh {name : String} (h : Text.Tidy name) (id : PortId) (position : Position) :
    (Port.fresh id name position).Tidy where
  name := h
  note note hnote := by cases hnote

theorem Tidy.apply {port : Port} (h : port.Tidy) (change : PortUpdate) : (port.apply change).Tidy where
  name := by
    unfold Port.apply
    cases hname : change.name.bind Text.trimmed? with
    | none => exact h.name
    | some name => exact tidy_of_mem_bind_trimmed? hname
  note := by
    unfold Port.apply
    intro note hnote
    cases hchange : change.note with
    | none =>
      rw [hchange] at hnote
      exact h.note note hnote
    | some given =>
      simp only [hchange, Option.mem_def] at hnote
      exact Text.tidy_of_trimmed? hnote

theorem Tidy.rename {port : Port} (h : port.Tidy) {names : Names}
    (hnames : ∀ id name, names.get? id = some name → Text.Tidy name) : (names.rename port).Tidy where
  name := by
    show Text.Tidy ((names.get? port.id).getD port.name)
    cases hname : names.get? port.id with
    | none => exact h.name
    | some name => exact hnames _ _ hname
  note := h.note

end Port

/-! ### Equipment -/

/-- The name is trimmed, and the location and the type, if there are any, and all ports are tidy. -/
structure Equipment.Tidy (e : Equipment) : Prop where
  name : Text.Trimmed e.name
  location : ∀ location ∈ e.location, Text.Tidy location
  kind : ∀ kind ∈ e.kind, Text.Tidy kind
  ports : ∀ port ∈ e.ports, port.Tidy

theorem tidy_freshPorts {label : String} (hlabel : Text.Tidy label) {portId : Nat → PortId} {first : Nat}
    {cells : List Position} {port : Port} (h : port ∈ freshPorts portId label first cells) : port.Tidy := by
  obtain ⟨⟨cell, i⟩, -, rfl⟩ := List.mem_map.mp h
  exact Port.tidy_fresh (tidy_defaultPortName hlabel _) _ _

theorem Draft.tidy_build (draft : Draft) {label : String} (hlabel : Text.Tidy label) (m : Moment) :
    (draft.build label m).Tidy where
  name := Text.trimmed_trim draft.name
  location _ := tidy_of_mem_bind_trimmed?
  kind _ := tidy_of_mem_bind_trimmed?
  ports _ := tidy_freshPorts hlabel

namespace Equipment

variable {e : Equipment}

theorem Tidy.touch (h : e.Tidy) (now : Timestamp) : (e.touch now).Tidy :=
  ⟨h.name, h.location, h.kind, h.ports⟩

/-- With other tidy ports, on whatever layout, a device is still tidy. -/
theorem Tidy.withPorts (h : e.Tidy) (layout : Layout) {ports : List Port} (hports : ∀ port ∈ ports, port.Tidy) :
    Equipment.Tidy { e with layout := layout, ports := ports } :=
  ⟨h.name, h.location, h.kind, hports⟩

theorem Tidy.modifyPort (h : e.Tidy) (id : PortId) (change : PortUpdate) : (e.modifyPort id (·.apply change)).Tidy := by
  apply h.withPorts e.layout
  intro port hport
  rcases mem_modifyFirst hport with hport | ⟨old, hfound, rfl⟩
  · exact h.ports port hport
  · exact (h.ports old (List.mem_of_find?_eq_some hfound)).apply change

theorem Tidy.withNames (h : e.Tidy) {names : Names} (hnames : ∀ id name, names.get? id = some name → Text.Tidy name) :
    (e.withNames names).Tidy := by
  apply h.withPorts e.layout
  intro port hport
  obtain ⟨old, hold, rfl⟩ := List.mem_map.mp hport
  exact (h.ports old hold).rename hnames

/-- After a move the ports are still tidy: those inside the layout stay, and the fresh ones have default names. -/
theorem Tidy.reconcile (h : e.Tidy) (layout : Layout) {label : String} (hlabel : Text.Tidy label)
    (portId : Nat → PortId) : (e.reconcile layout label portId).Tidy := by
  apply h.withPorts layout
  intro port hport
  rcases List.mem_append.mp ((sortPorts_perm _).mem_iff.mp hport) with hport | hport
  · exact h.ports port (List.mem_filter.mp hport).1
  · exact tidy_freshPorts hlabel hport

theorem trimmed_getD_map_trim {given : Option String} {text : String} (h : Text.Trimmed text) :
    Text.Trimmed ((given.map Text.trim).getD text) := by
  cases given with
  | none => exact h
  | some given => exact Text.trimmed_trim given

theorem tidy_getD_map_trimmed? {given : Option (Option String)} {old : Option String}
    (h : ∀ text ∈ old, Text.Tidy text) : ∀ text ∈ (given.map (·.bind Text.trimmed?)).getD old, Text.Tidy text := by
  cases given with
  | none => exact h
  | some given => exact fun text => tidy_of_mem_bind_trimmed?

/-- **A change keeps a device tidy**, whatever texts it puts in. -/
theorem Tidy.apply (h : e.Tidy) (change : EquipmentUpdate) {label : String} (hlabel : Text.Tidy label) (m : Moment) :
    (e.apply change label m).Tidy := by
  have hdescribed : Equipment.Tidy
      { e with
        name := (change.name.map Text.trim).getD e.name
        location := (change.location.map (·.bind Text.trimmed?)).getD e.location
        kind := (change.kind.map (·.bind Text.trimmed?)).getD e.kind } :=
    ⟨trimmed_getD_map_trim h.name, tidy_getD_map_trimmed? h.location, tidy_getD_map_trimmed? h.kind, h.ports⟩
  unfold Equipment.apply
  cases e.resizedBy change with
  | none => exact hdescribed.touch m.now
  | some layout => exact (hdescribed.reconcile layout hlabel m.portId).touch m.now

end Equipment

/-! ### Filters -/

/-- A location or a type that is asked for is not empty. -/
structure FilterOptions.Tidy (f : FilterOptions) : Prop where
  location : ∀ location ∈ f.location, location ≠ ""
  kind : ∀ kind ∈ f.kind, kind ≠ ""

namespace FilterOptions

theorem tidy_empty : ({} : FilterOptions).Tidy where
  location _ h := by cases h
  kind _ h := by cases h

theorem ne_empty_of_mem_merge {given : Option (Option String)} {old : Option String}
    (h : ∀ text ∈ old, text ≠ "") : ∀ text ∈ (given.map (·.filter (!·.isEmpty))).getD old, text ≠ "" := by
  cases given with
  | none => exact h
  | some given =>
    intro text htext
    simpa using (Option.filter_eq_some_iff.mp htext).2

theorem Tidy.merge {f : FilterOptions} (h : f.Tidy) (change : FilterUpdate) : (f.merge change).Tidy where
  location := ne_empty_of_mem_merge h.location
  kind := ne_empty_of_mem_merge h.kind

end FilterOptions

/-! ### States -/

/-- All equipment and the filter are tidy. -/
structure State.Tidy (s : State) : Prop where
  equipments : ∀ e ∈ s.equipments, e.Tidy
  filter : s.filter.Tidy

theorem State.tidy_ofLanguage (language : Language) : (State.ofLanguage language).Tidy where
  equipments _ h := absurd h List.not_mem_nil
  filter := FilterOptions.tidy_empty

theorem State.Tidy.modifyEquipment {s : State} (h : s.Tidy) {id : EquipmentId} {f : Equipment → Equipment}
    (hf : ∀ e, s.equipment? id = some e → e.Tidy → (f e).Tidy) : (s.modifyEquipment id f).Tidy where
  equipments := State.forall_modifyEquipment h.equipments hf
  filter := h.filter

/-- **Every change keeps a state tidy.** -/
theorem Changes.tidy {m : Moment} {s next : State} {op : Operation} {reply : Reply} (hc : Changes m s op next reply)
    (h : s.Tidy) : next.Tidy := by
  have hlabel : Text.Tidy s.portLabel := s.language.tidy_portLabel
  cases hc with
  | add draft =>
    refine ⟨fun e he => ?_, h.filter⟩
    rcases List.mem_append.mp he with he | he
    · exact h.equipments e he
    · exact List.mem_singleton.mp he ▸ draft.tidy_build hlabel m
  | update _ => exact h.modifyEquipment fun e _ he => he.apply _ hlabel m
  | delete _ => exact ⟨fun e he => h.equipments e (List.mem_filter.mp he).1, h.filter⟩
  | deselect => exact ⟨h.equipments, h.filter⟩
  | select _ => exact ⟨h.equipments, h.filter⟩
  | updatePort _ _ => exact h.modifyEquipment fun e _ he => (he.modifyPort _ _).touch m.now
  | rename _ hnames _ =>
    exact h.modifyEquipment fun e _ he => (he.withNames fun _ _ => tidy_assignNames hnames).touch m.now
  | setFilter change => exact ⟨h.equipments, h.filter.merge change⟩
  | clearFilter => exact ⟨h.equipments, FilterOptions.tidy_empty⟩
  | toggleDark => exact ⟨h.equipments, h.filter⟩
  | setLanguage language => exact ⟨h.equipments, h.filter⟩

namespace Store

variable {β : Type} [Backend β]

theorem tidy_perform (s : Store β) (m : Moment) (op : Operation) (h : s.state.Tidy) :
    (s.perform m op).store.state.Tidy := by
  rcases (step_perform s m op).state_cases with hsame | ⟨reply, -, hchanges⟩
  · rw [hsame]
    exact h
  · exact hchanges.tidy h

theorem state_tidy_run {s : Store β} (h : s.state.Tidy) (ops : List (Moment × Operation)) : (s.run ops).state.Tidy :=
  run_induction (P := fun s => s.state.Tidy) tidy_perform ops s h

/-- **Texts stay tidy.** If a store starts on an empty storage, then after any operations, with any texts, the name of
every device is its own trim, its location and its type are none or tidy, the name of every port is tidy, its note is
none or tidy, and the location and the type of the filter are none or not empty. -/
theorem tidy_run {config : StoreConfig} {b : β} (hempty : Backend.get b config.storageKey = .ok none) {s : Store β}
    {events : List Event} (hopen : openWith config b = .ok (s, events)) (ops : List (Moment × Operation)) :
    (s.run ops).state.Tidy := by
  apply state_tidy_run
  rw [state_of_empty hempty hopen]
  exact State.tidy_ofLanguage _

/-- A device with a padded name and a blank location, whose ports are named by a padded template; a blank note comes
from an edit, and an empty type from a filter. -/
def paddedTexts : List (Moment × Operation) :=
  [(.numbered 0, .add { name := " switch\t", layout := ⟨1, 2, one_pos, two_pos⟩, location := some "  " }),
    (.numbered 2, .rename ⟨"0"⟩ "\n{row} - {col} "), (.numbered 3, .updatePort ⟨"0"⟩ ⟨"1"⟩ { note := some " " }),
    (.numbered 4, .setFilter { kind := some (some "") })]

/-- After them all texts are tidy. -/
theorem tidy_run_paddedTexts :
    ((fresh ({} : MemoryStorage)).run paddedTexts).state.equipments.map (fun e => (e.name, e.location,
        e.ports.map fun port => (port.name, port.note))) =
      [("switch", none, [("1 - 1", none), ("1 - 2", none)])] ∧
      ((fresh ({} : MemoryStorage)).run paddedTexts).state.Tidy := by
  have hopen : openWith {} ({} : MemoryStorage) = .ok (fresh {}, [.startedEmpty "port-status-storage"]) := rfl
  exact ⟨by decide +kernel, tidy_run rfl hopen paddedTexts⟩

end Store
end PortGrid
