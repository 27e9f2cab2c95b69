import PortGrid.Proofs.Equipment.Reconciliation

/-!
# Moves one after another

A device that has one port on every cell of its grid, and none elsewhere, still has so after any moves to other
layouts. A port is lost with its cell: if a cell lies inside the layout of the device and inside all layouts that it is
moved to, the port on it at the end is the one from the beginning, as it was; and if it was outside at any time, the
port on it has been made by one of the moves. So a device that only grows and then comes back to its layout has the
ports it had.

Key definitions: `Move`, `Equipment.moveAll`, `Equipment.StaysInside`, `FreshMoves`, `MadeBy`.
Key theorems: `Equipment.OnePerCell.move`, `Equipment.portsAt_moveAll_of_inside`, `Equipment.portsAt_moveAll_of_left`,
`Equipment.moveAll_remembers`.
-/

namespace PortGrid

/-- A move of a device: the layout to which it goes, the label of fresh ports, and the identifiers for them. -/
structure Move where
  layout : Layout
  label : String
  portId : Nat → PortId

namespace Equipment

def move (e : Equipment) (m : Move) : Equipment := e.reconcile m.layout m.label m.portId

/-- The device after moves one after another. -/
def moveAll (e : Equipment) (moves : List Move) : Equipment := moves.foldl move e

variable {e e' : Equipment} {moves : List Move} {m : Move} {cell : Position}

theorem moveAll_cons (e : Equipment) (m : Move) (moves : List Move) :
    e.moveAll (m :: moves) = (e.move m).moveAll moves := rfl

theorem moveAll_append_singleton (e : Equipment) (moves : List Move) (m : Move) :
    e.moveAll (moves ++ [m]) = (e.moveAll moves).move m := by
  simp [moveAll]

/-! ### One port on every cell -/

theorem OnePerCell.contains_of_ne_nil (h : e.OnePerCell) (hports : e.portsAt cell ≠ []) :
    e.layout.contains cell = true := by
  obtain ⟨port, hport⟩ := List.exists_mem_of_ne_nil _ hports
  obtain ⟨hmem, rfl⟩ := mem_portsAt.mp hport
  exact h.inside port hmem

theorem OnePerCell.ne_nil (h : e.OnePerCell) (hin : e.layout.contains cell = true) : e.portsAt cell ≠ [] := by
  obtain ⟨port, hport⟩ := h.filled cell hin
  rw [hport]
  exact List.cons_ne_nil port []

theorem OnePerCell.exists_fresh (h : e.OnePerCell) (m : Move) (hin : m.layout.contains cell = true)
    (hout : ¬ e.layout.contains cell = true) :
    ∃ i < (e.gaps m.layout).length, ∃ name, (e.move m).portsAt cell = [Port.fresh (m.portId i) name cell] := by
  have hgap : cell ∈ e.gaps m.layout :=
    mem_gaps.mpr ⟨hin, by_contra fun hports => hout (h.contains_of_ne_nil hports)⟩
  obtain ⟨i, hi⟩ := List.getElem?_of_mem hgap
  exact ⟨i, (List.getElem?_eq_some_iff.mp hi).1, _, portsAt_reconcile_of_gap m.label m.portId hi⟩

/-- **A move keeps one port on every cell.** -/
theorem OnePerCell.move (h : e.OnePerCell) (m : Move) : (e.move m).OnePerCell :=
  (onePerCell_reconcile_iff m.layout m.label m.portId).mpr (nodup_cells_inside m.layout h.nodup_cells)

/-! ### Cells that stay inside, and others -/

/-- The cell lies inside the layout of the device and inside every layout that it is moved to. -/
def StaysInside (e : Equipment) (moves : List Move) (cell : Position) : Prop :=
  e.layout.contains cell = true ∧ ∀ m ∈ moves, m.layout.contains cell = true

theorem staysInside_cons : e.StaysInside (m :: moves) cell ↔
    e.layout.contains cell = true ∧ (e.move m).StaysInside moves cell := by
  unfold StaysInside
  rw [List.forall_mem_cons]
  rfl

/-- A cell with ports keeps them as long as it is not outside. -/
theorem portsAt_moveAll_of_inside : ∀ {moves : List Move} {e : Equipment}, e.portsAt cell ≠ [] →
    (∀ m ∈ moves, m.layout.contains cell = true) → (e.moveAll moves).portsAt cell = e.portsAt cell
  | [], _, _, _ => rfl
  | m :: moves, e, hports, hin => by
    rw [List.forall_mem_cons] at hin
    have hkept : (e.move m).portsAt cell = e.portsAt cell :=
      portsAt_reconcile_of_ne_nil m.label m.portId hin.1 hports
    rw [moveAll_cons, ← hkept]
    exact portsAt_moveAll_of_inside (hkept ▸ hports) hin.2

end Equipment

/-- Along the moves no identifier is drawn that is in use or has been drawn before. -/
def FreshMoves (used : List PortId) (e : Equipment) : List Move → Prop
  | [] => True
  | m :: moves => FreshIds m.portId (e.gaps m.layout).length used ∧
    FreshMoves (used ++ (List.range (e.gaps m.layout).length).map m.portId) (e.move m) moves

/-- The port has been made by one of the moves: it is unused, has no note, and has an identifier that was drawn for the
move and is not one of those in use before. -/
structure MadeBy (moves : List Move) (used : List PortId) (port : Port) : Prop where
  status : port.status = .unused
  note : port.note = none
  drawn : ∃ m ∈ moves, ∃ i, port.id = m.portId i
  unused : port.id ∉ used

namespace Equipment

variable {e e' : Equipment} {moves : List Move} {cell : Position}

/-- A cell that was outside at any time has a port that was made since. -/
theorem portsAt_moveAll_of_left : ∀ {moves : List Move} {e : Equipment} {used : List PortId}, e.OnePerCell →
    FreshMoves used e moves → (e.moveAll moves).layout.contains cell = true → ¬ e.StaysInside moves cell →
    ∃ port, (e.moveAll moves).portsAt cell = [port] ∧ MadeBy moves used port
  | [], _, _, _, _, hin, hleft => absurd ⟨hin, fun m hm => absurd hm List.not_mem_nil⟩ hleft
  | m :: moves, e, used, hone, ⟨hfresh, hrest⟩, hin, hleft => by
    rw [moveAll_cons] at hin ⊢
    by_cases hstays : (e.move m).StaysInside moves cell
    · -- The cell came inside with this move and has been there since.
      have hout : ¬ e.layout.contains cell = true := fun h => hleft (staysInside_cons.mpr ⟨h, hstays⟩)
      obtain ⟨i, hi, name, hport⟩ := hone.exists_fresh m hstays.1 hout
      refine ⟨_, (portsAt_moveAll_of_inside (hport ▸ List.cons_ne_nil _ _) hstays.2).trans hport, rfl, rfl, ?_, ?_⟩
      · exact ⟨m, List.mem_cons_self, i, rfl⟩
      · exact hfresh.unused i hi
    · obtain ⟨port, hport, hmade⟩ := portsAt_moveAll_of_left (hone.move m) hrest hin hstays
      obtain ⟨m', hm', i, hid⟩ := hmade.drawn
      exact ⟨port, hport, hmade.status, hmade.note, ⟨m', List.mem_cons_of_mem m hm', i, hid⟩,
        fun h => hmade.unused (List.mem_append_left _ h)⟩

/-! ### There and back -/

/-- Devices with the same ports on every cell have the same ports. -/
theorem perm_of_portsAt (h : ∀ cell, e'.portsAt cell = e.portsAt cell) : e'.ports.Perm e.ports := by
  have hcount : ∀ (e : Equipment) (port : Port), (e.portsAt port.position).count port = e.ports.count port :=
    fun e port => List.count_filter (decide_eq_true rfl)
  rw [List.perm_iff_count]
  intro port
  rw [← hcount e' port, ← hcount e port, h]

theorem OnePerCell.moveAll (h : e.OnePerCell) (moves : List Move) : (e.moveAll moves).OnePerCell := by
  induction moves generalizing e with
  | nil => exact h
  | cons m moves ih => exact ih (h.move m)

/-- A device that has always had all its cells, and is moved back to its layout, has its ports again. -/
theorem perm_moveAll_back (hone : e.OnePerCell)
    (hwide : ∀ m ∈ moves, ∀ cell, e.layout.contains cell = true → m.layout.contains cell = true) {back : Move}
    (hback : back.layout = e.layout) : (e.moveAll (moves ++ [back])).ports.Perm e.ports := by
  have hlayout : (e.moveAll (moves ++ [back])).layout = e.layout := by
    rw [moveAll_append_singleton]
    exact hback
  apply perm_of_portsAt
  intro cell
  by_cases hin : e.layout.contains cell = true
  · apply portsAt_moveAll_of_inside (hone.ne_nil hin)
    intro m hm
    rcases List.mem_append.mp hm with hm | hm
    · exact hwide m hm cell hin
    · rw [List.mem_singleton.mp hm, hback]
      exact hin
  · have hnone : ∀ {d : Equipment}, d.OnePerCell → d.layout = e.layout → d.portsAt cell = [] := fun hd hl =>
      by_contra fun hports => hin (hl ▸ hd.contains_of_ne_nil hports)
    rw [hnone (hone.moveAll _) hlayout, hnone hone rfl]

/-- **Resizing remembers what stayed inside.** Let a device with one port on every cell be moved again and again, with
fresh identifiers. A cell of the last layout that lay inside all of them still has the port that it had, and any other
has a port that was made by one of the moves. If all of the layouts have all cells of the first, moving back to that
brings back the same ports, in row-major order. And moving twice to the same layout changes nothing the second time. -/
theorem moveAll_remembers (hone : e.OnePerCell) (hfresh : FreshMoves e.portIds e moves) :
    (∀ cell, (e.moveAll moves).layout.contains cell = true →
        (e.StaysInside moves cell → ∃ port, e.portsAt cell = [port] ∧ (e.moveAll moves).portsAt cell = [port]) ∧
          (¬ e.StaysInside moves cell →
            ∃ port, (e.moveAll moves).portsAt cell = [port] ∧ MadeBy moves e.portIds port)) ∧
      (∀ back : Move, back.layout = e.layout →
        (∀ m ∈ moves, ∀ cell, e.layout.contains cell = true → m.layout.contains cell = true) →
        (e.moveAll (moves ++ [back])).ports.Perm e.ports ∧
          (e.moveAll (moves ++ [back])).ports.Pairwise fun p q => p.position.le q.position = true) ∧
      ∀ m again : Move, again.layout = m.layout →
        e.moveAll (moves ++ [m] ++ [again]) = e.moveAll (moves ++ [m]) := by
  refine ⟨fun cell hin => ⟨fun hstays => ?_, portsAt_moveAll_of_left hone hfresh hin⟩, fun back hback hwide => ?_,
    fun m again hagain => ?_⟩
  · obtain ⟨port, hport⟩ := hone.filled cell hstays.1
    refine ⟨port, hport, ?_⟩
    rw [portsAt_moveAll_of_inside (hone.ne_nil hstays.1) hstays.2, hport]
  · refine ⟨perm_moveAll_back hone hwide hback, ?_⟩
    rw [moveAll_append_singleton]
    exact sortPorts_pairwise _
  · rw [moveAll_append_singleton, moveAll_append_singleton, move, hagain]
    exact reconcile_reconcile _ m.layout m.label again.label m.portId again.portId

def leftPort : Port := ⟨⟨"a"⟩, "uplink", .needsCheck, ⟨0, 0⟩, some "loose"⟩

theorem isDate_newYear : isDate 1970 1 1 = true := by decide

/-- A row of two ports, listed from the right. -/
def rowOfTwo : Equipment where
  id := ⟨"row"⟩
  name := "switch"
  location := none
  kind := none
  layout := ⟨1, 2, one_pos, two_pos⟩
  ports := [.fresh ⟨"b"⟩ "downlink" ⟨0, 1⟩, leftPort]
  createdAt := .atMinute ⟨1970, 1, 1, isDate_newYear⟩ 0 0 0
  updatedAt := .atMinute ⟨1970, 1, 1, isDate_newYear⟩ 0 0 0

def toColumn : Move := ⟨⟨2, 1, two_pos, one_pos⟩, "Port", fun i => ⟨(2 + i).repr⟩⟩

def toSquare : Move := ⟨⟨2, 2, two_pos, two_pos⟩, "Port", fun i => ⟨(3 + i).repr⟩⟩

/-- The column has the left port of the row but not the right one, and so the square has a fresh port in its place. -/
theorem moveAll_remembers_leftPort :
    (rowOfTwo.moveAll [toColumn, toSquare]).portsAt ⟨0, 0⟩ = [leftPort] ∧
      ∃ port, (rowOfTwo.moveAll [toColumn, toSquare]).portsAt ⟨0, 1⟩ = [port] ∧
        MadeBy [toColumn, toSquare] rowOfTwo.portIds port := by
  have hone : rowOfTwo.OnePerCell := onePerCell_iff.mpr (by decide)
  have hcolumn : FreshIds toColumn.portId 1 [⟨"b"⟩, ⟨"a"⟩] := ⟨by decide, by decide +kernel⟩
  have hgaps : ((rowOfTwo.move toColumn).gaps toSquare.layout).length = 2 := by
    rw [move, gaps_reconcile]
    decide
  have hsquare : FreshIds toSquare.portId ((rowOfTwo.move toColumn).gaps toSquare.layout).length
      [⟨"b"⟩, ⟨"a"⟩, ⟨"2"⟩] := by
    rw [hgaps]
    exact ⟨by decide +kernel, by decide +kernel⟩
  have hfresh : FreshMoves rowOfTwo.portIds rowOfTwo [toColumn, toSquare] := ⟨hcolumn, hsquare, trivial⟩
  obtain ⟨hcells, -⟩ := moveAll_remembers hone hfresh
  constructor
  · obtain ⟨port, hbefore, hafter⟩ := (hcells ⟨0, 0⟩ (by decide)).1 ⟨by decide, by decide⟩
    have hleft : rowOfTwo.portsAt ⟨0, 0⟩ = [leftPort] := by decide
    rw [hafter, ← hbefore, hleft]
  · refine (hcells ⟨0, 1⟩ (by decide)).2 fun hstays => ?_
    exact absurd (hstays.2 toColumn List.mem_cons_self) (by decide)

end Equipment
end PortGrid
