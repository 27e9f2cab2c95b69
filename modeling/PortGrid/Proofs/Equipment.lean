import Mathlib.Data.List.Nodup
import PortGrid.Equipment
import PortGrid.Proofs.Grid

/-!
# Equipment whose ports fill its grid

A good piece of equipment has one port on every cell and none elsewhere, in row-major order and under identifiers that
differ. One port per cell says that the positions of the ports are the cells in some order; in row-major order they are
the list of cells, and in this form goodness is carried through creation and change: moving to another layout keeps the
ports inside it and fills the cells without a port, so that sorting them by position gives the cells of that layout
again.

What a change does to the ports is said of their places, which are their identifiers with their positions: a port keeps
its place or is outside the new layout, and a new place has a fresh identifier.

Key definitions: `Equipment.cells`, `Equipment.portIds`, `Equipment.places`, `Equipment.portsAt`,
`Equipment.OnePerCell`, `Equipment.inside`, `FreshIds`, `Equipment.Good`.
Key theorems: `Equipment.onePerCell_iff`, `Equipment.good_iff`, `Draft.good_build`, `Equipment.cells_reconcile`,
`Equipment.onePerCell_reconcile_iff`, `Equipment.mem_places_apply`, `Equipment.of_mem_places_apply`,
`Equipment.Good.apply`, `Equipment.validate_eq_ok`.
-/

namespace PortGrid

/-! ### Fresh ports -/

/-- Identifiers for some ports that differ from each other and from those in use. -/
structure FreshIds (portId : Nat → PortId) (count : Nat) (used : List PortId) : Prop where
  distinct : ∀ i < count, ∀ j < count, portId i = portId j → i = j
  unused : ∀ i < count, portId i ∉ used

theorem FreshIds.nodup_append {portId : Nat → PortId} {count : Nat} {used ids : List PortId}
    (h : FreshIds portId count used) (hsub : ids ⊆ used) (hids : ids.Nodup) :
    (ids ++ (List.range count).map portId).Nodup := by
  rw [List.nodup_append]
  refine ⟨hids, ?_, ?_⟩
  · rw [List.Nodup, List.pairwise_map]
    refine List.nodup_range.imp_of_mem fun hi hj hne heq => ?_
    exact hne (h.distinct _ (List.mem_range.mp hi) _ (List.mem_range.mp hj) heq)
  · intro id hid id' hid' heq
    obtain ⟨i, hi, rfl⟩ := List.mem_map.mp hid'
    exact h.unused i (List.mem_range.mp hi) (heq ▸ hsub hid)

theorem mem_freshPorts {portId : Nat → PortId} {label : String} {first : Nat} {cells : List Position} {port : Port} :
    port ∈ freshPorts portId label first cells ↔
      ∃ i cell, cells[i]? = some cell ∧ port = .fresh (portId i) (defaultPortName label (first + i)) cell := by
  rw [freshPorts, List.mem_map]
  constructor
  · rintro ⟨⟨cell, i⟩, hmem, rfl⟩
    exact ⟨i, cell, List.mk_mem_zipIdx_iff_getElem?.mp hmem, rfl⟩
  · rintro ⟨i, cell, hcell, rfl⟩
    exact ⟨(cell, i), List.mk_mem_zipIdx_iff_getElem?.mpr hcell, rfl⟩

theorem position_freshPorts (portId : Nat → PortId) (label : String) (first : Nat) (cells : List Position) :
    (freshPorts portId label first cells).map (·.position) = cells := by
  rw [freshPorts, List.map_map]
  exact List.zipIdx_map_fst 0 cells

theorem position_mem_of_mem_freshPorts {portId : Nat → PortId} {label : String} {first : Nat} {cells : List Position}
    {port : Port} (h : port ∈ freshPorts portId label first cells) : port.position ∈ cells := by
  have hmem : port.position ∈ (freshPorts portId label first cells).map (·.position) := List.mem_map_of_mem h
  rwa [position_freshPorts] at hmem

theorem id_freshPorts (portId : Nat → PortId) (label : String) (first : Nat) (cells : List Position) :
    (freshPorts portId label first cells).map (·.id) = (List.range cells.length).map portId := by
  rw [freshPorts, List.map_map, List.range_eq_range', ← List.zipIdx_map_snd, List.map_map]
  rfl

namespace Equipment

/-- The positions of the ports, in their order. -/
def cells (e : Equipment) : List Position := e.ports.map (·.position)

def portIds (e : Equipment) : List PortId := e.ports.map (·.id)

/-- The identifiers of the ports with their positions, in their order. -/
def places (e : Equipment) : List (PortId × Position) := e.ports.map fun port => (port.id, port.position)

theorem cells_eq_places (e : Equipment) : e.cells = e.places.map (·.2) := by
  rw [places, List.map_map]
  rfl

theorem portIds_eq_places (e : Equipment) : e.portIds = e.places.map (·.1) := by
  rw [places, List.map_map]
  rfl

theorem mem_portIds_of_mem_places {e : Equipment} {id : PortId} {cell : Position} (h : (id, cell) ∈ e.places) :
    id ∈ e.portIds := by
  rw [portIds_eq_places]
  exact List.mem_map_of_mem h

theorem place_unique {e : Equipment} (hids : e.portIds.Nodup) {id : PortId} {cell cell' : Position}
    (h : (id, cell) ∈ e.places) (h' : (id, cell') ∈ e.places) : cell = cell' := by
  rw [portIds_eq_places] at hids
  exact congrArg Prod.snd (List.inj_on_of_nodup_map hids h h' rfl)

/-! ### The ports of a cell -/

def portsAt (e : Equipment) (cell : Position) : List Port := e.ports.filter (·.position = cell)

theorem mem_portsAt {e : Equipment} {cell : Position} {port : Port} :
    port ∈ e.portsAt cell ↔ port ∈ e.ports ∧ port.position = cell := by
  simp [portsAt]

theorem portsAt_eq_nil_iff {e : Equipment} {cell : Position} :
    e.portsAt cell = [] ↔ ∀ port ∈ e.ports, port.position ≠ cell := by
  simp [portsAt]

theorem length_filter_position (ports : List Port) (cell : Position) :
    (ports.filter (·.position = cell)).length = (ports.map (·.position)).count cell := by
  rw [List.count_eq_length_filter, List.filter_map, List.length_map]
  rfl

theorem length_portsAt (e : Equipment) (cell : Position) : (e.portsAt cell).length = e.cells.count cell :=
  length_filter_position e.ports cell

/-- Every cell of the grid has one port, and no port lies outside. -/
structure OnePerCell (e : Equipment) : Prop where
  filled : ∀ cell, e.layout.contains cell = true → ∃ port, e.portsAt cell = [port]
  inside : ∀ port ∈ e.ports, e.layout.contains port.position = true

/-- There is one port per cell if the positions of the ports are the cells in some order. -/
theorem onePerCell_iff {e : Equipment} : e.OnePerCell ↔ e.cells.Perm e.layout.positions := by
  constructor
  · intro h
    rw [List.perm_iff_count]
    intro cell
    rw [← length_portsAt, e.layout.positions_nodup.count]
    by_cases hin : e.layout.contains cell = true
    · obtain ⟨port, hport⟩ := h.filled cell hin
      rw [hport, if_pos (Layout.mem_positions.mpr hin)]
      rfl
    · have hnone : e.portsAt cell = [] :=
        portsAt_eq_nil_iff.mpr fun port hport hcell => hin (hcell ▸ h.inside port hport)
      rw [hnone, if_neg (fun hmem => hin (Layout.mem_positions.mp hmem))]
      rfl
  · intro h
    refine ⟨fun cell hin => ?_, fun port hport => ?_⟩
    · rw [← List.length_eq_one_iff, length_portsAt, h.count_eq, e.layout.positions_nodup.count,
        if_pos (Layout.mem_positions.mpr hin)]
    · rw [← Layout.mem_positions, ← h.mem_iff]
      exact List.mem_map_of_mem hport

theorem OnePerCell.nodup_cells {e : Equipment} (h : e.OnePerCell) : e.cells.Nodup :=
  (onePerCell_iff.mp h).nodup_iff.mpr e.layout.positions_nodup

theorem OnePerCell.mem_cells {e : Equipment} (h : e.OnePerCell) {cell : Position} :
    cell ∈ e.cells ↔ e.layout.contains cell = true := by
  rw [(onePerCell_iff.mp h).mem_iff, Layout.mem_positions]

theorem OnePerCell.length_ports {e : Equipment} (h : e.OnePerCell) : e.ports.length = e.layout.portCount := by
  have hlength := (onePerCell_iff.mp h).length_eq
  rwa [Layout.length_positions, cells, List.length_map] at hlength

/-! ### Good equipment -/

/-- The ports fill the grid one by one, in row-major order and under identifiers that differ. -/
structure Good (e : Equipment) : Prop where
  rows_pos : 0 < e.layout.rows
  cols_pos : 0 < e.layout.cols
  filled : ∀ cell, e.layout.contains cell = true → ∃ port, e.ports.filter (·.position = cell) = [port]
  inside : ∀ port ∈ e.ports, e.layout.contains port.position = true
  ascending : e.ports.Pairwise fun p q => p.position.Before q.position
  distinct : e.portIds.Nodup

theorem Good.onePerCell {e : Equipment} (h : e.Good) : e.OnePerCell := ⟨h.filled, h.inside⟩

theorem good_iff {e : Equipment} : e.Good ↔ e.cells = e.layout.positions ∧ e.portIds.Nodup := by
  constructor
  · intro h
    have hascending : e.cells.Pairwise Position.Before := List.pairwise_map.mpr h.ascending
    refine ⟨Position.eq_of_perm_of_ascending (onePerCell_iff.mp h.onePerCell) ?_ ?_, h.distinct⟩
    · exact hascending.imp Position.Before.le
    · exact e.layout.positions_ascending.imp Position.Before.le
  · rintro ⟨hcells, hids⟩
    have hone : e.OnePerCell := onePerCell_iff.mpr (hcells ▸ List.Perm.refl _)
    refine ⟨e.layout.rows_pos, e.layout.cols_pos, hone.filled, hone.inside, ?_, hids⟩
    rw [← List.pairwise_map (f := fun port : Port => port.position), ← cells, hcells]
    exact e.layout.positions_ascending

/-- What changes neither the layout nor the places of the ports keeps equipment good. -/
theorem Good.of_eq {e e' : Equipment} (h : e.Good) (hlayout : e'.layout = e.layout) (hplaces : e'.places = e.places) :
    e'.Good := by
  rw [good_iff, cells_eq_places, portIds_eq_places] at *
  rw [hlayout, hplaces]
  exact h

end Equipment

namespace Draft

variable (draft : Draft) (label : String)

theorem portIds_build (m : Moment) :
    (draft.build label m).portIds = (List.range draft.layout.portCount).map m.portId := by
  show (freshPorts m.portId label 1 draft.layout.positions).map (·.id) = _
  rw [id_freshPorts, Layout.length_positions]

theorem nodup_portIds_build {m : Moment} {used : List PortId}
    (hfresh : FreshIds m.portId draft.layout.portCount used) : (draft.build label m).portIds.Nodup := by
  rw [portIds_build, ← List.nil_append (List.map _ _)]
  exact hfresh.nodup_append (List.nil_subset used) List.nodup_nil

theorem onePerCell_build (m : Moment) : (draft.build label m).OnePerCell :=
  Equipment.onePerCell_iff.mpr (.of_eq (position_freshPorts m.portId label 1 draft.layout.positions))

/-- **A new device is good.** -/
theorem good_build {m : Moment} {used : List PortId} (hfresh : FreshIds m.portId draft.layout.portCount used) :
    (draft.build label m).Good := by
  rw [Equipment.good_iff]
  constructor
  · exact position_freshPorts m.portId label 1 draft.layout.positions
  · exact draft.nodup_portIds_build label hfresh

end Draft

/-! ### Moving to another layout -/

namespace Equipment

theorem sortPorts_perm (ports : List Port) : (sortPorts ports).Perm ports :=
  List.mergeSort_perm ports _

theorem sortPorts_pairwise (ports : List Port) :
    (sortPorts ports).Pairwise fun p q => p.position.le q.position = true := by
  unfold sortPorts
  apply List.pairwise_mergeSort
  · intro p q r
    exact Position.le_trans
  · intro p q
    exact Position.le_total p.position q.position

def inside (e : Equipment) (layout : Layout) : List Port :=
  e.ports.filter fun port => layout.contains port.position

theorem mem_vacantCells {layout : Layout} {ports : List Port} {p : Position} :
    p ∈ vacantCells layout ports ↔ layout.contains p = true ∧ p ∉ ports.map (·.position) := by
  rw [vacantCells, List.mem_filter, Layout.mem_positions]
  simp

theorem vacantCells_nodup (layout : Layout) (ports : List Port) : (vacantCells layout ports).Nodup :=
  layout.positions_nodup.sublist List.filter_sublist

variable (e : Equipment) (layout : Layout) (label : String) (portId : Nat → PortId)

theorem reconcile_perm : (e.reconcile layout label portId).ports.Perm (e.inside layout ++
    freshPorts portId label ((e.inside layout).length + 1) (vacantCells layout (e.inside layout))) :=
  sortPorts_perm _

theorem cells_reconcile_perm : (e.reconcile layout label portId).cells.Perm
    ((e.inside layout).map (·.position) ++ vacantCells layout (e.inside layout)) := by
  have h := (e.reconcile_perm layout label portId).map (·.position)
  rwa [List.map_append, position_freshPorts] at h

theorem portIds_reconcile_perm : (e.reconcile layout label portId).portIds.Perm ((e.inside layout).map (·.id) ++
    (List.range (vacantCells layout (e.inside layout)).length).map portId) := by
  have h := (e.reconcile_perm layout label portId).map (·.id)
  rwa [List.map_append, id_freshPorts] at h

variable {e}

/-- The move covers every cell and nothing else. -/
theorem mem_cells_reconcile {p : Position} :
    p ∈ (e.reconcile layout label portId).cells ↔ layout.contains p = true := by
  rw [(e.cells_reconcile_perm layout label portId).mem_iff, List.mem_append, mem_vacantCells]
  constructor
  · rintro (hp | ⟨hp, -⟩)
    · obtain ⟨port, hport, rfl⟩ := List.mem_map.mp hp
      exact (List.mem_filter.mp hport).2
    · exact hp
  · intro hp
    by_cases hin : p ∈ (e.inside layout).map (·.position)
    · exact .inl hin
    · exact .inr ⟨hp, hin⟩

/-- **A move fills the grid**: if no two ports inside the layout share a cell, the positions after the move are the
cells of the layout in their order. -/
theorem cells_reconcile (h : ((e.inside layout).map (·.position)).Nodup) :
    (e.reconcile layout label portId).cells = layout.positions := by
  have hperm := e.cells_reconcile_perm layout label portId
  have hnodup : (e.reconcile layout label portId).cells.Nodup := by
    rw [hperm.nodup_iff, List.nodup_append]
    refine ⟨h, vacantCells_nodup layout _, ?_⟩
    rintro p hp q hq rfl
    exact (mem_vacantCells.mp hq).2 hp
  have hsorted : (e.reconcile layout label portId).cells.Pairwise fun p q => p.le q = true :=
    List.pairwise_map.mpr (sortPorts_pairwise _)
  apply Layout.eq_positions (Position.ascending_of_nodup hsorted hnodup)
  intro p
  exact mem_cells_reconcile layout label portId

/-- A move leaves one port on every cell exactly if no two ports that stay share a cell. -/
theorem onePerCell_reconcile_iff :
    (e.reconcile layout label portId).OnePerCell ↔ ((e.inside layout).map (·.position)).Nodup := by
  constructor
  · intro h
    have hnodup := (e.cells_reconcile_perm layout label portId).nodup_iff.mp h.nodup_cells
    exact (List.nodup_append.mp hnodup).1
  · intro h
    exact onePerCell_iff.mpr (.of_eq (cells_reconcile layout label portId h))

/-- Where no two ports share a cell, no two of those inside a layout do. -/
theorem nodup_cells_inside (h : e.cells.Nodup) : ((e.inside layout).map (·.position)).Nodup :=
  h.sublist (List.filter_sublist.map _)

theorem nodup_portIds_reconcile (hids : e.portIds.Nodup) {used : List PortId} (hused : e.portIds ⊆ used)
    (hfresh : FreshIds portId (vacantCells layout (e.inside layout)).length used) :
    (e.reconcile layout label portId).portIds.Nodup := by
  rw [(e.portIds_reconcile_perm layout label portId).nodup_iff]
  have hsub : ((e.inside layout).map (·.id)).Sublist e.portIds := List.filter_sublist.map _
  exact hfresh.nodup_append (fun _ hid => hused (hsub.subset hid)) (hids.sublist hsub)

theorem Good.reconcile (h : e.Good) {used : List PortId} (hused : e.portIds ⊆ used)
    (hfresh : FreshIds portId (vacantCells layout (e.inside layout)).length used) :
    (e.reconcile layout label portId).Good := by
  rw [good_iff]
  constructor
  · exact cells_reconcile layout label portId (nodup_cells_inside layout h.onePerCell.nodup_cells)
  · exact nodup_portIds_reconcile layout label portId h.distinct hused hfresh

/-- A port keeps its place in a move if that is inside the layout. -/
theorem mem_places_reconcile {id : PortId} {cell : Position} (h : (id, cell) ∈ e.places)
    (hin : layout.contains cell = true) : (id, cell) ∈ (e.reconcile layout label portId).places := by
  obtain ⟨port, hport, hplace⟩ := List.mem_map.mp h
  refine List.mem_map.mpr ⟨port, ?_, hplace⟩
  rw [(e.reconcile_perm layout label portId).mem_iff]
  obtain ⟨rfl, rfl⟩ := Prod.mk.inj hplace
  exact List.mem_append_left _ (List.mem_filter.mpr ⟨hport, hin⟩)

theorem of_mem_places_reconcile {id : PortId} {cell : Position}
    (h : (id, cell) ∈ (e.reconcile layout label portId).places) :
    (id, cell) ∈ e.places ∨ ∃ i < (vacantCells layout (e.inside layout)).length, id = portId i := by
  obtain ⟨port, hport, hplace⟩ := List.mem_map.mp h
  rw [(e.reconcile_perm layout label portId).mem_iff] at hport
  rcases List.mem_append.mp hport with hport | hport
  · exact .inl (List.mem_map.mpr ⟨port, (List.mem_filter.mp hport).1, hplace⟩)
  · have hid : port.id ∈ _ := List.mem_map_of_mem (f := fun port : Port => port.id) hport
    rw [id_freshPorts] at hid
    obtain ⟨i, hi, hid⟩ := List.mem_map.mp hid
    exact .inr ⟨i, List.mem_range.mp hi, (congrArg Prod.fst hplace).symm.trans hid.symm⟩

/-! ### Changes -/

/-- How many fresh ports a change asks for. -/
def freshCount (e : Equipment) (change : EquipmentUpdate) : Nat :=
  match e.resizedBy change with
  | some layout => (vacantCells layout (e.inside layout)).length
  | none => 0

variable {change : EquipmentUpdate} {m : Moment}

theorem id_apply : (e.apply change label m).id = e.id := by
  unfold Equipment.apply
  cases e.resizedBy change <;> rfl

theorem ports_apply_of_none (h : e.resizedBy change = none) : (e.apply change label m).ports = e.ports := by
  unfold Equipment.apply
  rw [h]

theorem ports_apply_of_some {layout : Layout} (h : e.resizedBy change = some layout) :
    (e.apply change label m).ports = (e.reconcile layout label m.portId).ports := by
  unfold Equipment.apply
  rw [h]
  rfl

/-- A port keeps its place in a change, unless that is outside the new layout. -/
theorem mem_places_apply {id : PortId} {cell : Position} (h : (id, cell) ∈ e.places) :
    (id, cell) ∈ (e.apply change label m).places ∨
      ∃ layout, change.layout = some layout ∧ layout.contains cell = false := by
  unfold places
  cases hresized : e.resizedBy change with
  | none =>
    rw [ports_apply_of_none label hresized]
    exact .inl h
  | some layout =>
    rw [ports_apply_of_some label hresized]
    cases hin : layout.contains cell with
    | true => exact .inl (mem_places_reconcile layout label m.portId h hin)
    | false => exact .inr ⟨layout, (Option.filter_eq_some_iff.mp hresized).1, hin⟩

theorem of_mem_places_apply {id : PortId} {cell : Position} (h : (id, cell) ∈ (e.apply change label m).places) :
    (id, cell) ∈ e.places ∨ ∃ i < e.freshCount change, id = m.portId i := by
  unfold places at h
  unfold freshCount
  cases hresized : e.resizedBy change with
  | none =>
    rw [ports_apply_of_none label hresized] at h
    exact .inl h
  | some layout =>
    rw [ports_apply_of_some label hresized] at h
    exact of_mem_places_reconcile layout label m.portId h

theorem nodup_portIds_apply (hids : e.portIds.Nodup) {used : List PortId} (hused : e.portIds ⊆ used)
    (hfresh : FreshIds m.portId (e.freshCount change) used) : (e.apply change label m).portIds.Nodup := by
  unfold freshCount at hfresh
  cases hresized : e.resizedBy change with
  | none =>
    rw [portIds, ports_apply_of_none label hresized]
    exact hids
  | some layout =>
    rw [hresized] at hfresh
    rw [portIds, ports_apply_of_some label hresized]
    exact nodup_portIds_reconcile layout label m.portId hids hused hfresh

/-- **A change keeps equipment good**, whether it moves it to another layout or not. -/
theorem Good.apply (h : e.Good) {used : List PortId} (hused : e.portIds ⊆ used)
    (hfresh : FreshIds m.portId (e.freshCount change) used) : (e.apply change label m).Good := by
  unfold freshCount at hfresh
  unfold Equipment.apply
  cases hresized : e.resizedBy change with
  | none => exact h.of_eq rfl rfl
  | some layout =>
    rw [hresized] at hfresh
    exact (h.reconcile layout label m.portId hused hfresh).of_eq rfl rfl

/-! ### Finding out -/

/-- No port is found to be misplaced exactly if all lie inside, on cells that differ and are not taken. -/
theorem misplaced?_eq_none (e : Equipment) : ∀ (ports : List Port) (taken : List Position),
    e.misplaced? taken ports = none ↔ (∀ port ∈ ports, e.layout.contains port.position = true) ∧
      (ports.map (·.position)).Nodup ∧ ∀ port ∈ ports, port.position ∉ taken
  | [], taken => by simp [misplaced?]
  | port :: ports, taken => by
    rw [misplaced?, List.forall_mem_cons, List.forall_mem_cons, List.map_cons, List.nodup_cons]
    by_cases hin : e.layout.contains port.position = true
    · by_cases htaken : port.position ∈ taken
      · simp [hin, htaken]
      · -- The port takes its cell, so none of those after it may stand there.
        have hnew : (∀ q ∈ ports, q.position ∉ port.position :: taken) ↔
            port.position ∉ ports.map (·.position) ∧ ∀ q ∈ ports, q.position ∉ taken := by
          simp only [List.mem_cons, not_or, List.mem_map, not_exists, not_and]
          constructor
          · intro h
            exact ⟨fun q hq => (h q hq).1, fun q hq => (h q hq).2⟩
          · rintro ⟨hne, hothers⟩ q hq
            exact ⟨hne q hq, hothers q hq⟩
        simp only [hin, htaken, List.contains_iff_mem, Bool.not_true, Bool.false_eq_true, if_false,
          misplaced?_eq_none e ports, hnew, true_and, not_false_eq_true]
        constructor
        · rintro ⟨hall, hnodup, hne, hothers⟩
          exact ⟨hall, ⟨hne, hnodup⟩, hothers⟩
        · rintro ⟨hall, ⟨hne, hnodup⟩, hothers⟩
          exact ⟨hall, hnodup, hne, hothers⟩
    · simp [hin]

/-- Equipment passes the check exactly if it has as many ports as cells, all of them inside and on cells that differ. -/
theorem validate_eq_ok {e : Equipment} : e.validate = .ok () ↔ e.ports.length = e.layout.portCount ∧
    (∀ port ∈ e.ports, e.layout.contains port.position = true) ∧ e.cells.Nodup := by
  have hmisplaced := e.misplaced?_eq_none e.ports []
  simp only [List.not_mem_nil, not_false_eq_true, implies_true, and_true] at hmisplaced
  unfold validate
  by_cases hlength : e.ports.length = e.layout.portCount
  · rw [if_neg (not_not_intro hlength), cells, ← hmisplaced]
    cases e.misplaced? [] e.ports <;> simp [hlength]
  · simp [hlength]

theorem Good.validate (h : e.Good) : e.validate = .ok () :=
  validate_eq_ok.mpr ⟨h.onePerCell.length_ports, h.inside, h.onePerCell.nodup_cells⟩

end Equipment
end PortGrid
