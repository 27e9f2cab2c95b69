import Mathlib.Data.Set.Function
import PortGrid.Proofs.Equipment.Resizing
import PortGrid.Proofs.Naming.Tidiness

/-!
# The numbers in default names

The default name of a port is the label with a number. A new device has the numbers from one on, in row-major order.
Behind a move the ports that stay have their numbers, and those that come in are counted on from how many stay. So the
numbers, and with them the names, follow from the layouts alone.

The ports that stay need not be those of the lowest numbers. Of a square of four ports a column keeps the first and the
third one, and the next port that comes in is the third one again. Numbers can clash in no other way: two ports have
the same name at the end exactly if some move gave the one, which came in, the number that the other, which stayed, had
already. As long as no port is dropped this cannot happen.

Key definitions: `Layout.renumber`, `numbersAlong`, `NoClash`, `Equipment.NamedBy`.
Key theorems: `Layout.injOn_renumber_iff`, `injOn_numbersAlong_iff`, `noClash_of_growing`,
`Equipment.nodup_names_iff`, `Equipment.NamedBy.moveAll`, `Equipment.nodup_names_moveAll`.
-/

namespace PortGrid

theorem defaultPortName_injective (label : String) : Function.Injective (defaultPortName label) := by
  intro m n h
  have hchars := congrArg String.toList h
  rw [toList_defaultPortName, toList_defaultPortName] at hchars
  exact toDigits_injective (List.append_cancel_left (List.append_cancel_left hchars))

/-! ### Numbers of cells -/

namespace Layout

/-- The cells of a layout, each with its number from one on, row by row. -/
def firstNumbers (layout : Layout) (cell : Position) : Nat := layout.number cell + 1

def sharedCount (old new : Layout) : Nat := (old.positions.filter new.contains).length

/-- The cells of a layout that the one before did not have, in row-major order. -/
def added (old new : Layout) : List Position := new.positions.filter fun cell => !old.contains cell

/-- The numbers behind a move: a cell that stays keeps its number, and those that come in are counted on from the number
of cells that stay. -/
def renumber (old new : Layout) (number : Position → Nat) (cell : Position) : Nat :=
  if old.contains cell then number cell else old.sharedCount new + ((old.added new).idxOf cell + 1)

/-- Whatever one layout has, the other one has too. -/
def Within (old new : Layout) : Prop := ∀ cell, old.contains cell = true → new.contains cell = true

variable {old new : Layout} {number : Position → Nat} {cell : Position}

theorem mem_added : cell ∈ old.added new ↔ new.contains cell = true ∧ old.contains cell = false := by
  simp [added, mem_positions]

theorem renumber_of_stays (h : old.contains cell = true) : old.renumber new number cell = number cell := by
  simp [renumber, h]

theorem renumber_of_added (h : old.contains cell = false) :
    old.renumber new number cell = old.sharedCount new + ((old.added new).idxOf cell + 1) := by
  simp [renumber, h]

theorem injOn_firstNumbers (layout : Layout) :
    Set.InjOn layout.firstNumbers {cell | layout.contains cell = true} := by
  intro p hp q hq h
  have hnumber : layout.number p = layout.number q := Nat.succ.inj h
  rw [← cell_number hp, hnumber, cell_number hq]

theorem firstNumbers_le {layout : Layout} (h : layout.contains cell = true) :
    layout.firstNumbers cell ≤ layout.portCount := number_lt h

/-- The cells that stay and those that come in are all the cells. -/
theorem sharedCount_add_length_added (old new : Layout) :
    old.sharedCount new + (old.added new).length = new.portCount := by
  have hshared : (old.positions.filter new.contains).Perm (new.positions.filter old.contains) := by
    rw [List.perm_ext_iff_of_nodup (old.positions_nodup.filter _) (new.positions_nodup.filter _)]
    intro cell
    simp [mem_positions, and_comm]
  calc old.sharedCount new + (old.added new).length
      = (new.positions.filter old.contains).length + (old.added new).length := by
        rw [sharedCount, hshared.length_eq]
    _ = new.positions.length := (List.length_eq_length_filter_add old.contains).symm
    _ = new.portCount := new.length_positions

theorem sharedCount_of_within (h : old.Within new) : old.sharedCount new = old.portCount := by
  have hall : old.positions.filter new.contains = old.positions :=
    List.filter_eq_self.mpr fun cell hcell => h cell (mem_positions.mp hcell)
  rw [sharedCount, hall, length_positions]

/-- The numbers behind a move differ on some cells exactly if they differed on those that stay, and no cell comes in
with the number of one that stays. -/
theorem injOn_renumber_iff {cells : Set Position} (hcells : ∀ cell ∈ cells, new.contains cell = true) :
    Set.InjOn (old.renumber new number) cells ↔
      Set.InjOn number {cell | old.contains cell = true ∧ cell ∈ cells} ∧
        ∀ kept ∈ cells, ∀ other ∈ cells, old.contains kept = true → old.contains other = false →
          number kept ≠ old.renumber new number other := by
  constructor
  · intro h
    refine ⟨fun p hp q hq hpq => ?_, fun kept hkept other hother hstays hadded hsame => ?_⟩
    · apply h hp.2 hq.2
      rw [renumber_of_stays hp.1, renumber_of_stays hq.1, hpq]
    · have heq : kept = other := h hkept hother ((renumber_of_stays hstays).trans hsame)
      rw [heq, hadded] at hstays
      cases hstays
  · rintro ⟨hstays, hclash⟩ p hp q hq hpq
    cases hpold : old.contains p with
    | true =>
      cases hqold : old.contains q with
      | true =>
        rw [renumber_of_stays hpold, renumber_of_stays hqold] at hpq
        exact hstays ⟨hpold, hp⟩ ⟨hqold, hq⟩ hpq
      | false =>
        rw [renumber_of_stays hpold] at hpq
        exact absurd hpq (hclash p hp q hq hpold hqold)
    | false =>
      cases hqold : old.contains q with
      | true =>
        rw [renumber_of_stays hqold] at hpq
        exact absurd hpq.symm (hclash q hq p hp hqold hpold)
      | false =>
        -- Both come in, and are counted in their order.
        rw [renumber_of_added hpold, renumber_of_added hqold] at hpq
        have hindex : (old.added new).idxOf p = (old.added new).idxOf q := by omega
        exact (List.idxOf_inj (mem_added.mpr ⟨hcells p hp, hpold⟩)).mp hindex

end Layout

/-! ### Numbers along some moves -/

/-- The numbers behind moves to some layouts, one after another. -/
def numbersAlong : Layout → (Position → Nat) → List Layout → Position → Nat
  | _, number, [] => number
  | old, number, new :: layouts => numbersAlong new (old.renumber new number) layouts

/-- No move to one of the layouts gives a cell that comes in the number of a cell that stays, if both of them are there
to the end. -/
def NoClash : Layout → (Position → Nat) → List Layout → Prop
  | _, _, [] => True
  | old, number, new :: layouts =>
    (∀ kept other, (∀ layout ∈ new :: layouts, layout.contains kept = true) →
      (∀ layout ∈ new :: layouts, layout.contains other = true) →
      old.contains kept = true → old.contains other = false → number kept ≠ old.renumber new number other) ∧
    NoClash new (old.renumber new number) layouts

/-- **The numbers at the end differ** exactly if those at the beginning differed, on the cells that are there all the
time, and there has been no clash. -/
theorem injOn_numbersAlong_iff : ∀ (old : Layout) (number : Position → Nat) (layouts : List Layout),
    Set.InjOn (numbersAlong old number layouts) {cell | (layouts.getLastD old).contains cell = true} ↔
      Set.InjOn number {cell | ∀ layout ∈ old :: layouts, layout.contains cell = true} ∧ NoClash old number layouts
  | old, number, [] => by simp [numbersAlong, NoClash]
  | old, number, new :: layouts => by
    have hcells : ∀ cell ∈ {cell | ∀ layout ∈ new :: layouts, layout.contains cell = true},
        new.contains cell = true := fun cell hcell => hcell new List.mem_cons_self
    rw [numbersAlong, NoClash, List.getLastD_cons, injOn_numbersAlong_iff new, Layout.injOn_renumber_iff hcells,
      and_assoc]
    simp only [List.forall_mem_cons, Set.mem_ofPred_eq]
    constructor
    · rintro ⟨hstays, hclash, hrest⟩
      exact ⟨hstays, fun kept other hkept hother => hclash kept hkept other hother, hrest⟩
    · rintro ⟨hstays, hclash, hrest⟩
      exact ⟨hstays, fun kept hkept other hother => hclash kept other hkept hother, hrest⟩

/-- Where no cell ever goes, numbers that begin with one do not clash: those of the cells that stay are the lowest. -/
theorem noClash_of_growing : ∀ {old : Layout} {number : Position → Nat} {layouts : List Layout},
    (∀ cell, old.contains cell = true → number cell ≤ old.portCount) → (old :: layouts).IsChain Layout.Within →
    NoClash old number layouts
  | _, _, [], _, _ => trivial
  | old, number, new :: layouts, hle, hchain => by
    obtain ⟨hwithin, hrest⟩ := List.isChain_cons_cons.mp hchain
    have hcount := Layout.sharedCount_add_length_added old new
    have hshared := Layout.sharedCount_of_within hwithin
    refine ⟨fun kept other _ _ hkept hother => ?_, noClash_of_growing (fun cell hcell => ?_) hrest⟩
    · have := hle kept hkept
      rw [Layout.renumber_of_added hother]
      omega
    · cases hold : old.contains cell with
      | true =>
        have := hle cell hold
        rw [Layout.renumber_of_stays hold]
        omega
      | false =>
        have := List.idxOf_lt_length_of_mem (Layout.mem_added.mpr ⟨hcell, hold⟩)
        rw [Layout.renumber_of_added hold]
        omega

/-! ### Names of devices -/

namespace Equipment

variable {e : Equipment} {label : String} {number : Position → Nat}

/-- Every port has the default name with the number of its cell. -/
def NamedBy (e : Equipment) (label : String) (number : Position → Nat) : Prop :=
  ∀ port ∈ e.ports, port.name = defaultPortName label (number port.position)

theorem nodup_names_iff (hone : e.OnePerCell) (hnamed : e.NamedBy label number) :
    (e.ports.map (·.name)).Nodup ↔ Set.InjOn number {cell | e.layout.contains cell = true} := by
  have hnames : e.ports.map (·.name) = e.cells.map fun cell => defaultPortName label (number cell) := by
    rw [cells, List.map_map]
    exact List.map_congr_left hnamed
  rw [hnames, List.nodup_map_iff_inj_on hone.nodup_cells]
  constructor
  · intro h p hp q hq hpq
    exact h p (hone.mem_cells.mpr hp) q (hone.mem_cells.mpr hq) (congrArg (defaultPortName label) hpq)
  · intro h p hp q hq hpq
    exact h (hone.mem_cells.mp hp) (hone.mem_cells.mp hq) (defaultPortName_injective label hpq)

theorem OnePerCell.length_inside (h : e.OnePerCell) (layout : Layout) :
    (e.inside layout).length = e.layout.sharedCount layout := by
  have hcells : (e.inside layout).map (·.position) = e.cells.filter layout.contains := by
    rw [cells, List.filter_map]
    rfl
  have hperm := (onePerCell_iff.mp h).filter layout.contains
  rw [← hcells] at hperm
  rw [Layout.sharedCount, ← hperm.length_eq, List.length_map]

theorem OnePerCell.gaps_eq (h : e.OnePerCell) (layout : Layout) : e.gaps layout = e.layout.added layout := by
  apply List.filter_congr
  intro cell _
  rw [Bool.eq_iff_iff, List.isEmpty_iff, Bool.not_eq_true', ← Bool.not_eq_true]
  constructor
  · intro hnone hin
    exact h.ne_nil hin hnone
  · intro hout
    by_contra hports
    exact hout (h.contains_of_ne_nil hports)

theorem namedBy_build (draft : Draft) (label : String) (m : Moment) :
    (draft.build label m).NamedBy label draft.layout.firstNumbers := by
  intro port hport
  obtain ⟨i, cell, hcell, rfl⟩ := mem_freshPorts.mp hport
  obtain ⟨hi, hcell⟩ := List.getElem?_eq_some_iff.mp hcell
  rw [Layout.positions, List.length_map, List.length_range] at hi
  have hnumber : draft.layout.number cell = i := by
    rw [← hcell]
    simp only [Layout.positions, List.getElem_map, List.getElem_range]
    rw [Layout.number, Layout.cell_row hi, Layout.cell_col, Nat.mul_comm, Nat.div_add_mod]
  show defaultPortName label (1 + i) = defaultPortName label (draft.layout.number cell + 1)
  rw [hnumber, Nat.add_comm]

/-- Behind a move the names have the numbers behind that move. -/
theorem NamedBy.move (hnamed : e.NamedBy label number) (hone : e.OnePerCell) {m : Move} (hlabel : m.label = label) :
    (e.move m).NamedBy label (e.layout.renumber m.layout number) := by
  intro port hport
  rw [Equipment.move, (e.reconcile_perm _ _ _).mem_iff, vacantCells_inside, hone.length_inside, hone.gaps_eq] at hport
  rcases List.mem_append.mp hport with hport | hport
  · have hmem := (List.mem_filter.mp hport).1
    rw [Layout.renumber_of_stays (hone.inside port hmem), hnamed port hmem]
  · obtain ⟨i, cell, hcell, rfl⟩ := mem_freshPorts.mp hport
    have hadded := Layout.mem_added.mp (List.mem_of_getElem? hcell)
    have hindex : (e.layout.added m.layout).idxOf cell = i := by
      obtain ⟨hi, rfl⟩ := List.getElem?_eq_some_iff.mp hcell
      exact (m.layout.positions_nodup.filter _).idxOf_getElem i hi
    show defaultPortName m.label (e.layout.sharedCount m.layout + 1 + i) =
      defaultPortName label (e.layout.renumber m.layout number cell)
    rw [Layout.renumber_of_added hadded.2, hindex, hlabel, Nat.add_right_comm]
    rfl

/-- Behind some moves with one label the names have the numbers along their layouts. -/
theorem NamedBy.moveAll (hnamed : e.NamedBy label number) (hone : e.OnePerCell) {moves : List Move}
    (hlabels : ∀ m ∈ moves, m.label = label) :
    (e.moveAll moves).NamedBy label (numbersAlong e.layout number (moves.map (·.layout))) := by
  induction moves generalizing e number with
  | nil => exact hnamed
  | cons m moves ih =>
    rw [List.forall_mem_cons] at hlabels
    exact ih (hnamed.move hone hlabels.1) (hone.move m) hlabels.2

theorem layout_moveAll (e : Equipment) (moves : List Move) :
    (e.moveAll moves).layout = (moves.map (·.layout)).getLastD e.layout := by
  induction moves generalizing e with
  | nil => rfl
  | cons m moves ih =>
    rw [moveAll_cons, ih, List.map_cons, List.getLastD_cons]
    rfl

/-- **When default names stay distinct under resizing.** Let a new device be moved again and again, with its own label.
Every port then has the label with the number of its cell along the layouts; the names differ exactly if no move has
given a port that came in the number of a port that stayed, of which both are still there; and they do if every layout
has all the cells of the one before it. -/
theorem nodup_names_moveAll (draft : Draft) (label : String) (m : Moment) {moves : List Move}
    (hlabels : ∀ move ∈ moves, move.label = label) :
    ((draft.build label m).moveAll moves).NamedBy label
        (numbersAlong draft.layout draft.layout.firstNumbers (moves.map (·.layout))) ∧
      ((((draft.build label m).moveAll moves).ports.map (·.name)).Nodup ↔
        NoClash draft.layout draft.layout.firstNumbers (moves.map (·.layout))) ∧
      ((draft.layout :: moves.map (·.layout)).IsChain Layout.Within →
        (((draft.build label m).moveAll moves).ports.map (·.name)).Nodup) := by
  have hone := draft.onePerCell_build label m
  have hnamed := (namedBy_build draft label m).moveAll hone hlabels
  have hfirst : Set.InjOn draft.layout.firstNumbers
      {cell | ∀ layout ∈ draft.layout :: moves.map (·.layout), layout.contains cell = true} :=
    draft.layout.injOn_firstNumbers.mono fun cell hcell => hcell draft.layout List.mem_cons_self
  have hiff : (((draft.build label m).moveAll moves).ports.map (·.name)).Nodup ↔
      NoClash draft.layout draft.layout.firstNumbers (moves.map (·.layout)) := by
    rw [nodup_names_iff (hone.moveAll moves) hnamed, layout_moveAll]
    exact (injOn_numbersAlong_iff _ _ _).trans (and_iff_right hfirst)
  refine ⟨hnamed, hiff, fun hgrowing => hiff.mpr (noClash_of_growing (fun cell hcell => ?_) hgrowing)⟩
  exact Layout.firstNumbers_le hcell

def newYear : Moment := ⟨.atMinute ⟨1970, 1, 1, isDate_newYear⟩ 0 0 0, ⟨"square"⟩, fun i => ⟨i.repr⟩⟩

def newSquare : Draft where
  name := "switch"
  layout := ⟨2, 2, two_pos, two_pos⟩

def toRow : Move := ⟨⟨1, 2, one_pos, two_pos⟩, "Port", fun i => ⟨(4 + i).repr⟩⟩

/-- The row keeps the lower numbers of the square, so that it can become a square again. -/
theorem nodup_names_rowAndBack :
    (((newSquare.build "Port" newYear).moveAll [toRow, toSquare]).ports.map (·.name)).Nodup := by
  have hlabels : ∀ move ∈ [toRow, toSquare], move.label = "Port" := by simp [toRow, toSquare]
  obtain ⟨-, hiff, -⟩ := nodup_names_moveAll newSquare "Port" newYear hlabels
  apply hiff.mpr
  have hwithin : toRow.layout.Within newSquare.layout := by
    intro cell hcell
    rw [Layout.contains_iff] at hcell ⊢
    exact ⟨Nat.lt_trans hcell.1 (by decide), hcell.2⟩
  have hlow : ∀ cell, toRow.layout.contains cell = true →
      newSquare.layout.renumber toRow.layout newSquare.layout.firstNumbers cell ≤ toRow.layout.portCount := by
    intro cell hcell
    rw [Layout.renumber_of_stays (hwithin cell hcell)]
    show toRow.layout.firstNumbers cell ≤ toRow.layout.portCount
    exact Layout.firstNumbers_le hcell
  refine ⟨fun kept other _ hother _ hnew => ?_, noClash_of_growing hlow ?_⟩
  · have hold := hwithin other (hother _ List.mem_cons_self)
    exact absurd (hold.symm.trans hnew) (by decide)
  · exact List.isChain_cons_cons.mpr ⟨hwithin, .singleton _⟩

def toLongColumn : Move := ⟨⟨3, 1, by decide, one_pos⟩, "Port", fun i => ⟨(4 + i).repr⟩⟩

/-- The column keeps the first and the third port of the square, and the one that comes in is a third one too. -/
theorem not_nodup_names_longColumn :
    ¬ (((newSquare.build "Port" newYear).moveAll [toLongColumn]).ports.map (·.name)).Nodup := by
  have hone := newSquare.onePerCell_build "Port" newYear
  have hlabels : ∀ move ∈ [toLongColumn], move.label = "Port" := by simp [toLongColumn]
  have hnamed := (namedBy_build newSquare "Port" newYear).moveAll hone hlabels
  rw [nodup_names_iff (hone.moveAll _) hnamed]
  intro h
  have hsame : (⟨1, 0⟩ : Position) = ⟨2, 0⟩ := h (by decide) (by decide) (by decide)
  exact absurd hsame (by decide)

end Equipment
end PortGrid
