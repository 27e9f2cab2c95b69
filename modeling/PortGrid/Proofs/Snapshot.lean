import PortGrid.Proofs.Json.Document
import PortGrid.Proofs.Timestamp
import PortGrid.Snapshot.Reader
import PortGrid.Snapshot.Writer

/-!
# A state is read back from its snapshot

Each record of a snapshot is a document, whose compact text is what is written (`compact_document`). Its drafts gather
fields by their names, so a reader that has found the fields of all names holds the record, in whatever order they came
(`gathers`, `finish_draft`). So every loose text of the document spells the record (`reads`), and the written one is one
of them. Optional members that were left out stand for none; the state and its filter may lack any of their members, and
then have defaults in their places.

Key definitions: `State.document`, `State.without`.
Key theorems: `Port.reads`, `Equipment.reads`, `FilterOptions.reads`, `State.reads`, `State.ofSnapshot_snapshot`.
-/

namespace PortGrid

open Json

/-! ### Values of one token -/

/-- A value that is put into a draft. -/
theorem Json.Spells.fill {α δ : Type} {r : Reader α} {cs : List Char} {x : α} (h : Spells r cs x) (f : α → δ) {d : δ}
    (hd : f x = d) : Spells (r >>= fun y => pure (f y)) cs d :=
  h.bind fun _ => hd ▸ rfl

theorem spells_writeStatus (status : PortStatus) : Spells readStatus (writeStatus status) status :=
  spells_variant (by cases status <;> rfl)

theorem spells_writeLanguage (language : Language) : Spells readLanguage (writeLanguage language) language :=
  spells_variant (by cases language <;> rfl)

theorem spells_writeTimestamp (t : Timestamp) : Spells readTimestamp (writeTimestamp t) t :=
  (spells_text _ t.text).bind fun rest => by rw [Timestamp.parse_text]; rfl

/-! ### Optional members -/

namespace Json.Document

/-- A member that is there if its value is. -/
def whenSome (name : String) : Option String → List (String × Document)
  | some value => [(name, .token (writeText value))]
  | none => []

variable {name name' : String} {value : Option String}

theorem mem_whenSome {d : Document} :
    (name', d) ∈ whenSome name value ↔ name' = name ∧ ∃ s, value = some s ∧ d = .token (writeText s) := by
  cases value <;> simp [whenSome]

theorem mem_map_whenSome : name' ∈ (whenSome name value).map (·.1) ↔ name' = name ∧ value.isSome = true := by
  cases value <;> simp [whenSome]

theorem map_compact_whenSome : (whenSome name value).map (fun m => (m.1, m.2.compact)) = optionalMember name value := by
  cases value <;> simp [whenSome, optionalMember, compact]

/-- The value of a member that is there if the value is. -/
theorem SpelledIn.spells_optional {members : List (String × Document)} {cs : List Char}
    (h : SpelledIn members name cs) (value : Option String)
    (honly : ∀ d, (name, d) ∈ members → (name, d) ∈ whenSome name value) : Spells (Reader.option readText) cs value := by
  obtain ⟨d, hd, hcs⟩ := h
  obtain ⟨-, s, rfl, rfl⟩ := mem_whenSome.mp (honly d hd)
  exact reads_token ((spells_text _ s).some (by simp [writeText])) cs hcs

end Json.Document

open Json.Document

theorem getD_dropped {α : Type} {name : String} {names dropped : List String} (h : name ∈ names ↔ name ∉ dropped)
    (x default : α) : (if name ∈ names then some x else none).getD default = if name ∈ dropped then default else x := by
  by_cases hd : name ∈ dropped <;> simp [h, hd]

/-- An optional field that was not found, because it is none or was dropped. -/
theorem join_optional {name : String} {names dropped : List String} {value : Option String}
    (h : name ∈ names ↔ value.isSome = true ∧ name ∉ dropped) :
    (if name ∈ names then some value else none).join = if name ∈ dropped then none else value := by
  cases value with
  | none => split <;> split <;> rfl
  | some s => by_cases hd : name ∈ dropped <;> simp_all

theorem join_present {name : String} {names : List String} {value : Option String}
    (h : name ∈ names ↔ value.isSome = true) : (if name ∈ names then some value else none).join = value := by
  have hjoin : _ = if name ∈ [] then none else value := join_optional (by simpa using h)
  rwa [if_neg List.not_mem_nil] at hjoin

/-! ### Layouts -/

namespace Layout

def members (layout : Layout) : List (String × Document) :=
  [("rows", .token (writeNat layout.rows.toNat)), ("cols", .token (writeNat layout.cols.toNat))]

def document (layout : Layout) : Document := .object ["rows", "cols"] layout.members

theorem compact_document (layout : Layout) : layout.document.compact = writeLayout layout := by
  simp [document, members, compact, writeLayout]

/-- The draft with the fields of a layout that have the given names. -/
def draft (layout : Layout) (names : List String) : LayoutDraft where
  rows := if "rows" ∈ names then some layout.rows else none
  cols := if "cols" ∈ names then some layout.cols else none

theorem gathers (layout : Layout) : Gathers layoutShape.fields layout.draft (SpelledIn layout.members) := by
  intro field hfield names hnames
  simp only [layoutShape, List.mem_cons, List.not_mem_nil, or_false] at hfield
  rcases hfield with rfl | rfl <;> refine ⟨by simp_all [draft], fun cs hcs => ?_⟩
  · exact (hcs.spells (by simp [members]) (reads_token (spells_nat32 layout.rows))).fill _ (by simp [draft])
  · exact (hcs.spells (by simp [members]) (reads_token (spells_nat32 layout.cols))).fill _ (by simp [draft])

theorem reads (layout : Layout) : Reads readLayout layout.document layout := by
  have hobject : Reads layoutShape.read layout.document (layout.rows, layout.cols) := by
    refine reads_object rfl layout.gathers rfl ?_ ?_ fun names hnames => ?_
    · simp [layoutShape, members]
    · simp [members]
    · have hrows : "rows" ∈ names := (hnames _).mpr (by simp [members])
      have hcols : "cols" ∈ names := (hnames _).mpr (by simp [members])
      simp only [layoutShape, draft, hrows, hcols, if_true, required]
      rfl
  intro cs hcs
  refine (hobject cs hcs).bind fun rest => ?_
  -- The dimensions are read first and checked then, as those of a layout must be.
  have hmake : Layout.make layout.rows layout.cols = .ok layout := by
    rw [Layout.make, dif_pos ⟨layout.rows_pos, layout.cols_pos⟩]
  simp only [hmake]
  rfl

end Layout

/-! ### Ports -/

namespace Port

def members (port : Port) : List (String × Document) :=
  [("id", .token (writeText port.id.text)), ("name", .token (writeText port.name)),
    ("status", .token (writeStatus port.status)), ("row", .token (writeNat port.position.row.toNat)),
    ("col", .token (writeNat port.position.col.toNat))] ++ whenSome "note" port.note

def document (port : Port) : Document := .object ["id", "name", "status", "row", "col", "note"] port.members

theorem compact_document (port : Port) : port.document.compact = writePort port := by
  simp [document, members, compact, writePort, map_compact_whenSome]

def draft (port : Port) (names : List String) : PortDraft where
  id := if "id" ∈ names then some port.id else none
  name := if "name" ∈ names then some port.name else none
  status := if "status" ∈ names then some port.status else none
  row := if "row" ∈ names then some port.position.row else none
  col := if "col" ∈ names then some port.position.col else none
  note := if "note" ∈ names then some port.note else none

theorem gathers (port : Port) : Gathers portShape.fields port.draft (SpelledIn port.members) := by
  intro field hfield names hnames
  simp only [portShape, List.mem_cons, List.not_mem_nil, or_false] at hfield
  rcases hfield with rfl | rfl | rfl | rfl | rfl | rfl <;> refine ⟨by simp_all [draft], fun cs hcs => ?_⟩
  · exact (hcs.spells (by simp [members, mem_whenSome]) (reads_token ((spells_text _ port.id.text).map PortId.mk))).fill _
      (by simp [draft])
  · exact (hcs.spells (by simp [members, mem_whenSome]) (reads_token (spells_text _ port.name))).fill _
      (by simp [draft])
  · exact (hcs.spells (by simp [members, mem_whenSome]) (reads_token (spells_writeStatus port.status))).fill _
      (by simp [draft])
  · exact (hcs.spells (by simp [members, mem_whenSome]) (reads_token (spells_nat32 port.position.row))).fill _
      (by simp [draft])
  · exact (hcs.spells (by simp [members, mem_whenSome]) (reads_token (spells_nat32 port.position.col))).fill _
      (by simp [draft])
  · exact (hcs.spells_optional port.note (by simp [members, mem_whenSome])).fill _ (by simp [draft])

theorem finish_draft (port : Port) {names : List String}
    (h : ∀ name ∈ ["id", "name", "status", "row", "col"], name ∈ names)
    (hnote : "note" ∈ names ↔ port.note.isSome = true) : portShape.finish (port.draft names) = .ok port := by
  simp only [List.mem_cons, List.not_mem_nil, or_false, forall_eq_or_imp, forall_eq] at h
  obtain ⟨h1, h2, h3, h4, h5⟩ := h
  simp only [portShape, draft, join_present hnote, h1, h2, h3, h4, h5, if_true, required]
  rfl

theorem reads (port : Port) : Reads readPort port.document port := by
  refine reads_object rfl port.gathers rfl ?_ ?_ fun names hnames => port.finish_draft ?_ ?_
  · cases h : port.note <;> simp [portShape, members, whenSome, h]
  · cases h : port.note <;> simp [members, whenSome, h]
  · simp [hnames, members]
  · simp [hnames, members, mem_map_whenSome]

end Port

/-! ### Equipment -/

namespace Equipment

def members (e : Equipment) : List (String × Document) :=
  [("id", .token (writeText e.id.text)), ("name", .token (writeText e.name))] ++
    whenSome "location" e.location ++ whenSome "type" e.kind ++
    [("layout", e.layout.document), ("ports", .list (e.ports.map Port.document)),
      ("createdAt", .token (writeTimestamp e.createdAt)), ("updatedAt", .token (writeTimestamp e.updatedAt))]

def document (e : Equipment) : Document :=
  .object ["id", "name", "location", "type", "layout", "ports", "createdAt", "updatedAt"] e.members

theorem compact_document (e : Equipment) : e.document.compact = writeEquipment e := by
  simp [document, members, compact, writeEquipment, map_compact_whenSome, Layout.compact_document,
    Port.compact_document, Function.comp_def]

def draft (e : Equipment) (names : List String) : EquipmentDraft where
  id := if "id" ∈ names then some e.id else none
  name := if "name" ∈ names then some e.name else none
  location := if "location" ∈ names then some e.location else none
  kind := if "type" ∈ names then some e.kind else none
  layout := if "layout" ∈ names then some e.layout else none
  ports := if "ports" ∈ names then some e.ports else none
  createdAt := if "createdAt" ∈ names then some e.createdAt else none
  updatedAt := if "updatedAt" ∈ names then some e.updatedAt else none

theorem gathers (e : Equipment) : Gathers equipmentShape.fields e.draft (SpelledIn e.members) := by
  intro field hfield names hnames
  simp only [equipmentShape, List.mem_cons, List.not_mem_nil, or_false] at hfield
  rcases hfield with rfl | rfl | rfl | rfl | rfl | rfl | rfl | rfl <;> refine ⟨by simp_all [draft], fun cs hcs => ?_⟩
  · exact (hcs.spells (by simp [members, mem_whenSome]) (reads_token ((spells_text _ e.id.text).map EquipmentId.mk))).fill _
      (by simp [draft])
  · exact (hcs.spells (by simp [members, mem_whenSome]) (reads_token (spells_text _ e.name))).fill _ (by simp [draft])
  · exact (hcs.spells_optional e.location (by simp [members, mem_whenSome])).fill _ (by simp [draft])
  · exact (hcs.spells_optional e.kind (by simp [members, mem_whenSome])).fill _ (by simp [draft])
  · exact (hcs.spells (by simp [members, mem_whenSome]) e.layout.reads).fill _ (by simp [draft])
  · exact (hcs.spells (by simp [members, mem_whenSome]) (reads_list fun p (_ : p ∈ e.ports) => p.reads)).fill _
      (by simp [draft])
  · exact (hcs.spells (by simp [members, mem_whenSome]) (reads_token (spells_writeTimestamp e.createdAt))).fill _
      (by simp [draft])
  · exact (hcs.spells (by simp [members, mem_whenSome]) (reads_token (spells_writeTimestamp e.updatedAt))).fill _
      (by simp [draft])

theorem finish_draft (e : Equipment) {names : List String}
    (h : ∀ name ∈ ["id", "name", "layout", "ports", "createdAt", "updatedAt"], name ∈ names)
    (hlocation : "location" ∈ names ↔ e.location.isSome = true) (hkind : "type" ∈ names ↔ e.kind.isSome = true) :
    equipmentShape.finish (e.draft names) = .ok e := by
  simp only [List.mem_cons, List.not_mem_nil, or_false, forall_eq_or_imp, forall_eq] at h
  obtain ⟨h1, h2, h3, h4, h5, h6⟩ := h
  simp only [equipmentShape, draft, join_present hlocation, join_present hkind, h1, h2, h3, h4, h5, h6, if_true,
    required]
  rfl

theorem reads (e : Equipment) : Reads readEquipment e.document e := by
  refine reads_object rfl e.gathers rfl ?_ ?_ fun names hnames => e.finish_draft ?_ ?_ ?_
  · cases h : e.location <;> cases h' : e.kind <;> simp [equipmentShape, members, whenSome, h, h']
  · cases h : e.location <;> cases h' : e.kind <;> simp [members, whenSome, h, h']
  · simp [hnames, members]
  · simp [hnames, members, mem_map_whenSome]
  · simp [hnames, members, mem_map_whenSome]

end Equipment

/-! ### Filters -/

namespace FilterOptions

def members (f : FilterOptions) : List (String × Document) :=
  [("search", .token (writeText f.search))] ++ whenSome "location" f.location ++ whenSome "type" f.kind

def document (f : FilterOptions) : Document := .object ["search", "location", "type"] f.members

/-- The filter with defaults for what the names stand for. -/
def without (f : FilterOptions) (dropped : List String) : FilterOptions where
  search := if "search" ∈ dropped then "" else f.search
  location := if "location" ∈ dropped then none else f.location
  kind := if "type" ∈ dropped then none else f.kind

@[simp]
theorem without_nil (f : FilterOptions) : f.without [] = f := by
  simp [without]

theorem compact_document (f : FilterOptions) : f.document.compact = writeFilter f := by
  simp [document, members, compact, writeFilter, map_compact_whenSome]

def draft (f : FilterOptions) (names : List String) : FilterDraft where
  search := if "search" ∈ names then some f.search else none
  location := if "location" ∈ names then some f.location else none
  kind := if "type" ∈ names then some f.kind else none

theorem gathers (f : FilterOptions) : Gathers filterShape.fields f.draft (SpelledIn f.members) := by
  intro field hfield names hnames
  simp only [filterShape, List.mem_cons, List.not_mem_nil, or_false] at hfield
  rcases hfield with rfl | rfl | rfl <;> refine ⟨by simp_all [draft], fun cs hcs => ?_⟩
  · exact (hcs.spells (by simp [members, mem_whenSome]) (reads_token (spells_text _ f.search))).fill _ (by simp [draft])
  · exact (hcs.spells_optional f.location (by simp [members, mem_whenSome])).fill _ (by simp [draft])
  · exact (hcs.spells_optional f.kind (by simp [members, mem_whenSome])).fill _ (by simp [draft])

theorem finish_draft (f : FilterOptions) {names dropped : List String} (hsearch : "search" ∈ names ↔ "search" ∉ dropped)
    (hlocation : "location" ∈ names ↔ f.location.isSome = true ∧ "location" ∉ dropped)
    (hkind : "type" ∈ names ↔ f.kind.isSome = true ∧ "type" ∉ dropped) :
    filterShape.finish (f.draft names) = .ok (f.without dropped) := by
  simp only [filterShape, draft, without, getD_dropped hsearch, join_optional hlocation, join_optional hkind]
  rfl

theorem reads (f : FilterOptions) (dropped : List String) :
    Reads readFilter (f.document.without dropped) (f.without dropped) := by
  refine reads_without rfl f.gathers rfl ?_ ?_ dropped fun names hnames => f.finish_draft ?_ ?_ ?_
  · cases h : f.location <;> cases h' : f.kind <;> simp [filterShape, members, whenSome, h, h']
  · cases h : f.location <;> cases h' : f.kind <;> simp [members, whenSome, h, h']
  · simp [hnames, members, mem_map_whenSome]
  · simp [hnames, members, mem_map_whenSome]
  · simp [hnames, members, mem_map_whenSome]

end FilterOptions

/-! ### States -/

namespace State

/-- The members of a state, whose filter may lack some of its own. -/
def members (s : State) (dropped : List String) : List (String × Document) := [
  ("equipments", .list (s.equipments.map Equipment.document)),
  ("selectedEquipmentId", .token (writeOption (fun id : EquipmentId => writeText id.text) s.selected)),
  ("filterOptions", s.filter.document.without dropped),
  ("isDarkMode", .token (writeBoolean s.isDark)),
  ("language", .token (writeLanguage s.language))]

/-- The document of a state without the members of the given names, in the state itself and in its filter. -/
def document (s : State) (dropped filterDropped : List String) : Document :=
  (Document.object ["equipments", "selectedEquipmentId", "filterOptions", "isDarkMode", "language"]
    (s.members filterDropped)).without dropped

/-- The state with defaults for what the names stand for, in the state itself and in its filter. -/
def without (s : State) (dropped filterDropped : List String) : State where
  equipments := if "equipments" ∈ dropped then [] else s.equipments
  selected := if "selectedEquipmentId" ∈ dropped then none else s.selected
  filter := if "filterOptions" ∈ dropped then ⟨"", none, none⟩ else s.filter.without filterDropped
  isDark := if "isDarkMode" ∈ dropped then false else s.isDark
  language := if "language" ∈ dropped then .korean else s.language

@[simp]
theorem without_nil (s : State) : s.without [] [] = s := by
  simp [without]

theorem compact_document (s : State) : (s.document [] []).compact = writeState s := by
  simp [document, members, compact, writeState, Equipment.compact_document, FilterOptions.compact_document,
    Function.comp_def]

def draft (s : State) (names : List String) : StateDraft where
  equipments := if "equipments" ∈ names then some s.equipments else none
  selected := if "selectedEquipmentId" ∈ names then some s.selected else none
  filter := if "filterOptions" ∈ names then some s.filter else none
  isDark := if "isDarkMode" ∈ names then some s.isDark else none
  language := if "language" ∈ names then some s.language else none

theorem spells_writeSelected (selected : Option EquipmentId) :
    Spells (Reader.option readEquipmentId) (writeOption (fun id : EquipmentId => writeText id.text) selected)
      selected := by
  cases selected with
  | none => exact spells_none _
  | some id => exact ((spells_text _ id.text).map EquipmentId.mk).some (by simp [writeText])

theorem gathers (s : State) (dropped : List String) :
    Gathers stateShape.fields { s with filter := s.filter.without dropped }.draft (SpelledIn (s.members dropped)) := by
  intro field hfield names hnames
  simp only [stateShape, List.mem_cons, List.not_mem_nil, or_false] at hfield
  rcases hfield with rfl | rfl | rfl | rfl | rfl <;> refine ⟨by simp_all [draft], fun cs hcs => ?_⟩
  · exact (hcs.spells (by simp [members]) (reads_list fun e (_ : e ∈ s.equipments) => e.reads)).fill _ (by simp [draft])
  · exact (hcs.spells (by simp [members]) (reads_token (spells_writeSelected s.selected))).fill _ (by simp [draft])
  · exact (hcs.spells (by simp [members]) (s.filter.reads dropped)).fill _ (by simp [draft])
  · exact (hcs.spells (by simp [members]) (reads_token (spells_boolean s.isDark))).fill _ (by simp [draft])
  · exact (hcs.spells (by simp [members]) (reads_token (spells_writeLanguage s.language))).fill _ (by simp [draft])

theorem finish_draft (s : State) {names dropped : List String}
    (h : ∀ name ∈ ["equipments", "selectedEquipmentId", "filterOptions", "isDarkMode", "language"],
      name ∈ names ↔ name ∉ dropped) (filterDropped : List String) :
    stateShape.finish ({ s with filter := s.filter.without filterDropped }.draft names) =
      .ok (s.without dropped filterDropped) := by
  simp only [List.mem_cons, List.not_mem_nil, or_false, forall_eq_or_imp, forall_eq] at h
  obtain ⟨h1, h2, h3, h4, h5⟩ := h
  have hselected : (if "selectedEquipmentId" ∈ names then some s.selected else none).join =
      if "selectedEquipmentId" ∈ dropped then none else s.selected := by
    by_cases hd : "selectedEquipmentId" ∈ dropped <;> simp [h2, hd]
  simp only [stateShape, draft, without, getD_dropped h1, hselected, getD_dropped h3, getD_dropped h4, getD_dropped h5]
  rfl

theorem reads (s : State) (dropped filterDropped : List String) :
    Reads readState (s.document dropped filterDropped) (s.without dropped filterDropped) := by
  refine reads_without rfl (s.gathers filterDropped) rfl ?_ ?_ dropped fun names hnames => ?_
  · simp [stateShape, members]
  · simp [members]
  · exact s.finish_draft (by simp [hnames, members]) filterDropped

theorem spells_snapshot (s : State) : Spells readState s.snapshot.toList s := by
  have hcompact := s.reads [] [] _ (loosely_compact _)
  rw [compact_document, without_nil] at hcompact
  rwa [snapshot, String.toList_ofList]

theorem ofSnapshot_of_spells {text : String} {s : State} (h : Spells readState text.toList s) :
    ofSnapshot text = .ok s :=
  h.all spaces_nil spaces_nil (List.append_nil _).symm

/-- **A state is read back from its snapshot**, whatever it holds: any texts, any optional fields that are there or
not, any positions, layouts and points in time. -/
theorem ofSnapshot_snapshot (s : State) : ofSnapshot s.snapshot = .ok s :=
  ofSnapshot_of_spells s.spells_snapshot

end State

end PortGrid
