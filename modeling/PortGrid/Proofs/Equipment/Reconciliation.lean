import PortGrid.Proofs.Equipment

/-!
# A move to another layout, cell by cell

A device may hold any ports: none on some cells, several on others, and some outside its grid. Moving it to a layout is
told cell by cell. A cell of the layout with ports keeps them as they are and in their order, because sorting by
position does not change the order of ports in one place; a cell of the layout without ports gets one fresh port; and a
cell outside the layout has no ports. The fresh ports are numbered in row-major order of their cells, behind the ports
that stay. A device that is moved to the layout to which it has just been moved is not changed.

Key definitions: `Equipment.gaps`, `Equipment.MovedTo`.
Key theorems: `Equipment.filter_sortPorts`, `Equipment.sortPorts_filter`, `Equipment.portsAt_reconcile_of_ne_nil`,
`Equipment.portsAt_reconcile_of_gap`, `Equipment.movedTo_reconcile`, `Equipment.reconcile_reconcile`.
-/

namespace PortGrid
namespace Equipment

/-! ### Gaps -/

/-- The cells of a layout on which no port stands, in row-major order. -/
def gaps (e : Equipment) (layout : Layout) : List Position :=
  layout.positions.filter fun cell => (e.portsAt cell).isEmpty

variable {e : Equipment} {layout : Layout} {cell : Position} {port : Port}

theorem mem_gaps : cell ∈ e.gaps layout ↔ layout.contains cell = true ∧ e.portsAt cell = [] := by
  simp [gaps, Layout.mem_positions]

theorem nodup_gaps (e : Equipment) (layout : Layout) : (e.gaps layout).Nodup :=
  layout.positions_nodup.sublist List.filter_sublist

/-- The cells that the ports inside a layout leave vacant are its gaps. -/
theorem vacantCells_inside (e : Equipment) (layout : Layout) :
    vacantCells layout (e.inside layout) = e.gaps layout := by
  apply List.filter_congr
  intro cell hcell
  have hin := Layout.mem_positions.mp hcell
  rw [Bool.eq_iff_iff, List.isEmpty_iff, portsAt_eq_nil_iff]
  simp only [Bool.not_eq_true', List.any_eq_false, decide_eq_true_eq, inside, List.mem_filter, and_imp]
  constructor
  · intro h port hport hcell
    exact h port hport (hcell ▸ hin) hcell
  · intro h port hport _
    exact h port hport

/-! ### Ports of one cell -/

theorem filter_inside (e : Equipment) (layout : Layout) (cell : Position) :
    (e.inside layout).filter (·.position = cell) = if layout.contains cell = true then e.portsAt cell else [] := by
  rw [inside, List.filter_filter]
  by_cases hin : layout.contains cell = true
  · rw [if_pos hin, portsAt]
    apply List.filter_congr
    intro port _
    by_cases hcell : port.position = cell <;> simp [hcell, hin]
  · rw [if_neg hin, List.filter_eq_nil_iff]
    intro port _ h
    simp only [Bool.and_eq_true, decide_eq_true_eq] at h
    exact hin (h.1 ▸ h.2)

/-- **Sorting keeps the order of ports on one cell.** -/
theorem filter_sortPorts (ports : List Port) (cell : Position) :
    (sortPorts ports).filter (·.position = cell) = ports.filter (·.position = cell) := by
  have hsame : (ports.filter (·.position = cell)).Pairwise fun p q => p.position.le q.position = true := by
    rw [List.pairwise_filter]
    refine List.pairwise_of_forall fun p q hp hq => ?_
    have hpq : p.position = q.position := (of_decide_eq_true hp).trans (of_decide_eq_true hq).symm
    rw [hpq, Position.le_iff]
    omega
  have hsub : (ports.filter (·.position = cell)).Sublist (sortPorts ports) := by
    unfold sortPorts
    apply List.sublist_mergeSort
    · intro p q r
      exact Position.le_trans
    · intro p q
      exact Position.le_total p.position q.position
    · exact hsame
    · exact List.filter_sublist
  have hsub' := hsub.filter (·.position = cell)
  rw [List.filter_filter] at hsub'
  simp only [Bool.and_self] at hsub'
  exact (hsub'.eq_of_length ((sortPorts_perm ports).filter _).length_eq.symm).symm

/-- Ports in row-major order are known from the ports of each cell. -/
theorem eq_of_filter_position : ∀ {ports ports' : List Port},
    (ports.Pairwise fun p q => p.position.le q.position = true) →
    (ports'.Pairwise fun p q => p.position.le q.position = true) →
    (∀ cell, ports.filter (·.position = cell) = ports'.filter (·.position = cell)) → ports = ports'
  | [], [], _, _, _ => rfl
  | [], q :: _, _, _, h => by simpa using h q.position
  | p :: _, [], _, _, h => by simpa using h p.position
  | p :: ports, q :: ports', hp, hq, h => by
    rw [List.pairwise_cons] at hp hq
    have hmem : ∀ port, port ∈ p :: ports ↔ port ∈ q :: ports' := by
      intro port
      have hport := congrArg (port ∈ ·) (h port.position)
      simpa only [List.mem_filter, decide_true, and_true, eq_iff_iff] using hport
    -- Each of the two heads is among the other list, and so stands behind the other head.
    have hpq : p.position.le q.position = true := by
      rcases List.mem_cons.mp ((hmem q).mpr List.mem_cons_self) with rfl | hmem
      · exact Position.le_refl _
      · exact hp.1 q hmem
    have hqp : q.position.le p.position = true := by
      rcases List.mem_cons.mp ((hmem p).mp List.mem_cons_self) with rfl | hmem
      · exact Position.le_refl _
      · exact hq.1 p hmem
    have hcell := Position.le_antisymm hpq hqp
    have hheads := h p.position
    rw [List.filter_cons_of_pos (by simp), List.filter_cons_of_pos (by simp [hcell]), List.cons.injEq] at hheads
    obtain ⟨rfl, -⟩ := hheads
    refine congrArg (p :: ·) (eq_of_filter_position hp.2 hq.2 fun cell => ?_)
    have hrest := h cell
    by_cases hp : p.position = cell
    · simpa [hp] using hrest
    · simpa [hp] using hrest

/-- **Sorting some of the ports** is to take them from the sorted ones. -/
theorem sortPorts_filter (ports : List Port) (test : Port → Bool) :
    sortPorts (ports.filter test) = (sortPorts ports).filter test := by
  apply eq_of_filter_position (sortPorts_pairwise _) ((sortPorts_pairwise ports).sublist List.filter_sublist)
  intro cell
  calc (sortPorts (ports.filter test)).filter (·.position = cell)
      = (ports.filter (·.position = cell)).filter test := by
        rw [filter_sortPorts, List.filter_comm]
    _ = ((sortPorts ports).filter test).filter (·.position = cell) := by
        rw [← filter_sortPorts, List.filter_comm]

/-! ### Fresh ports of a cell -/

section Fresh

variable {portId : Nat → PortId} {label : String} {first : Nat} {cells : List Position}

theorem filter_freshPorts_of_notMem (h : cell ∉ cells) :
    (freshPorts portId label first cells).filter (·.position = cell) = [] := by
  rw [List.filter_eq_nil_iff]
  intro port hport hcell
  exact h (of_decide_eq_true hcell ▸ position_mem_of_mem_freshPorts hport)

theorem filter_freshPorts_of_getElem? (hcells : cells.Nodup) {i : Nat} (hi : cells[i]? = some cell) :
    (freshPorts portId label first cells).filter (·.position = cell) =
      [Port.fresh (portId i) (defaultPortName label (first + i)) cell] := by
  have hone : ((freshPorts portId label first cells).filter (·.position = cell)).length = 1 := by
    rw [length_filter_position, position_freshPorts, hcells.count, if_pos (List.mem_of_getElem? hi)]
  obtain ⟨port, hport⟩ := List.length_eq_one_iff.mp hone
  have hfresh : (freshPorts portId label first cells)[i]? =
      some (Port.fresh (portId i) (defaultPortName label (first + i)) cell) := by
    simp [freshPorts, hi]
  have hmem : Port.fresh (portId i) (defaultPortName label (first + i)) cell ∈
      (freshPorts portId label first cells).filter (·.position = cell) :=
    List.mem_filter.mpr ⟨List.mem_of_getElem? hfresh, decide_eq_true rfl⟩
  rw [hport] at hmem ⊢
  rw [List.mem_singleton.mp hmem]

end Fresh

/-! ### The move -/

section Move

variable (label : String) (portId : Nat → PortId)

/-- After a move a cell has the ports inside the layout that stand on it, and the fresh ones. -/
theorem portsAt_reconcile (e : Equipment) (layout : Layout) (cell : Position) :
    (e.reconcile layout label portId).portsAt cell = (e.inside layout).filter (·.position = cell) ++
      (freshPorts portId label ((e.inside layout).length + 1) (e.gaps layout)).filter (·.position = cell) := by
  rw [← vacantCells_inside, ← List.filter_append]
  exact filter_sortPorts _ cell

theorem portsAt_reconcile_of_outside (hout : layout.contains cell = false) :
    (e.reconcile layout label portId).portsAt cell = [] := by
  have hgap : cell ∉ e.gaps layout := fun h => Bool.false_ne_true (hout.symm.trans (mem_gaps.mp h).1)
  rw [portsAt_reconcile, filter_inside, if_neg (by simp [hout]), filter_freshPorts_of_notMem hgap, List.append_nil]

theorem portsAt_reconcile_of_ne_nil (hin : layout.contains cell = true) (hports : e.portsAt cell ≠ []) :
    (e.reconcile layout label portId).portsAt cell = e.portsAt cell := by
  have hgap : cell ∉ e.gaps layout := fun h => hports (mem_gaps.mp h).2
  rw [portsAt_reconcile, filter_inside, if_pos hin, filter_freshPorts_of_notMem hgap, List.append_nil]

theorem portsAt_reconcile_of_gap {i : Nat} (hi : (e.gaps layout)[i]? = some cell) :
    (e.reconcile layout label portId).portsAt cell =
      [Port.fresh (portId i) (defaultPortName label ((e.inside layout).length + 1 + i)) cell] := by
  obtain ⟨hin, hports⟩ := mem_gaps.mp (List.mem_of_getElem? hi)
  rw [portsAt_reconcile, filter_inside, if_pos hin, hports, filter_freshPorts_of_getElem? (e.nodup_gaps layout) hi,
    List.nil_append]

theorem contains_of_mem_reconcile (h : port ∈ (e.reconcile layout label portId).ports) :
    layout.contains port.position = true :=
  (mem_cells_reconcile layout label portId).mp (List.mem_map_of_mem h)

theorem portsAt_reconcile_eq_nil_iff :
    (e.reconcile layout label portId).portsAt cell = [] ↔ layout.contains cell = false := by
  refine ⟨fun hnone => ?_, portsAt_reconcile_of_outside label portId⟩
  by_contra hin
  have hcell := (mem_cells_reconcile (e := e) layout label portId).mpr (by simpa using hin)
  obtain ⟨port, hport, rfl⟩ := List.mem_map.mp hcell
  exact portsAt_eq_nil_iff.mp hnone port hport rfl

/-- After a move the gaps of a layout are its cells outside that of the move. -/
theorem gaps_reconcile (e : Equipment) (layout layout' : Layout) :
    (e.reconcile layout label portId).gaps layout' = layout'.positions.filter fun cell => !layout.contains cell := by
  apply List.filter_congr
  intro cell _
  rw [Bool.eq_iff_iff, List.isEmpty_iff, portsAt_reconcile_eq_nil_iff, Bool.not_eq_true']

/-- What a move to a layout makes of a device. -/
structure MovedTo (e : Equipment) (layout : Layout) (label : String) (portId : Nat → PortId) (e' : Equipment) :
    Prop where
  /-- The ports are in row-major order. -/
  sorted : e'.ports.Pairwise fun p q => p.position.le q.position = true
  /-- Of the old ports those inside the layout are there, each as often as before, and no others. -/
  old : (e'.ports.filter (· ∈ e.ports)).Perm (e.inside layout)
  /-- A cell of the layout with ports has the same ports, in the same order. -/
  kept : ∀ cell, layout.contains cell = true → e.portsAt cell ≠ [] → e'.portsAt cell = e.portsAt cell
  /-- A cell of the layout without ports has one, which is fresh and has the number of the cell among such cells,
  counted on from the ports that stay. -/
  added : ∀ cell, layout.contains cell = true → e.portsAt cell = [] → ∃ i, (e.gaps layout)[i]? = some cell ∧
    e'.portsAt cell =
      [⟨portId i, label ++ " " ++ ((e.inside layout).length + (i + 1)).repr, .unused, cell, none⟩]
  /-- No port lies outside the layout. -/
  inside : ∀ port ∈ e'.ports, layout.contains port.position = true
  /-- Nothing else is changed. -/
  described : e' = { e with layout := layout, ports := e'.ports }

/-- A port is on one cell alone, so that a fresh port is none of the old ones. -/
theorem filter_freshPorts_gaps (e : Equipment) (layout : Layout) (first : Nat) :
    (freshPorts portId label first (e.gaps layout)).filter (· ∈ e.ports) = [] := by
  rw [List.filter_eq_nil_iff]
  intro port hport hold
  have hnone := (mem_gaps.mp (position_mem_of_mem_freshPorts hport)).2
  exact portsAt_eq_nil_iff.mp hnone port (of_decide_eq_true hold) rfl

/-- **A move keeps the ports inside and fills the gaps**, whatever ports there are. -/
theorem movedTo_reconcile (e : Equipment) (layout : Layout) :
    e.MovedTo layout label portId (e.reconcile layout label portId) where
  sorted := sortPorts_pairwise _
  old := by
    have hold : (e.inside layout).filter (· ∈ e.ports) = e.inside layout :=
      List.filter_eq_self.mpr fun port hport => decide_eq_true (List.mem_filter.mp hport).1
    have hperm := (e.reconcile_perm layout label portId).filter (· ∈ e.ports)
    rwa [vacantCells_inside, List.filter_append, hold, filter_freshPorts_gaps, List.append_nil] at hperm
  kept := fun _ => portsAt_reconcile_of_ne_nil label portId
  added := by
    intro cell hin hports
    obtain ⟨i, hi⟩ := List.getElem?_of_mem (mem_gaps.mpr ⟨hin, hports⟩)
    refine ⟨i, hi, ?_⟩
    rw [portsAt_reconcile_of_gap label portId hi, Nat.add_assoc, Nat.add_comm 1 i]
    rfl
  inside := fun _ => contains_of_mem_reconcile label portId
  described := rfl

end Move

/-! ### The same move again -/

/-- Ports that stand inside a layout, in row-major order and without gaps, are left alone by a move to it. -/
theorem ports_reconcile_of_settled (hsorted : e.ports.Pairwise fun p q => p.position.le q.position = true)
    (hinside : ∀ port ∈ e.ports, layout.contains port.position = true) (hgaps : e.gaps layout = []) (label : String)
    (portId : Nat → PortId) : (e.reconcile layout label portId).ports = e.ports := by
  have hall : e.inside layout = e.ports := List.filter_eq_self.mpr hinside
  have hvacant : vacantCells layout (e.inside layout) = [] := (vacantCells_inside e layout).trans hgaps
  calc (e.reconcile layout label portId).ports
      = sortPorts (e.inside layout ++ freshPorts portId label ((e.inside layout).length + 1)
          (vacantCells layout (e.inside layout))) := rfl
    _ = sortPorts (e.ports ++ freshPorts portId label (e.ports.length + 1) []) := by rw [hvacant, hall]
    _ = sortPorts e.ports := congrArg sortPorts (List.append_nil e.ports)
    _ = e.ports := List.mergeSort_of_pairwise hsorted

/-- To move to the same layout once more changes nothing. -/
theorem reconcile_reconcile (e : Equipment) (layout : Layout) (label label' : String)
    (portId portId' : Nat → PortId) :
    (e.reconcile layout label portId).reconcile layout label' portId' = e.reconcile layout label portId := by
  have hinside : ∀ port ∈ (e.reconcile layout label portId).ports, layout.contains port.position = true :=
    fun _ => contains_of_mem_reconcile label portId
  have hgaps : (e.reconcile layout label portId).gaps layout = [] := by
    rw [gaps_reconcile, List.filter_eq_nil_iff]
    intro cell hcell
    simp [Layout.mem_positions.mp hcell]
  have hports := ports_reconcile_of_settled (sortPorts_pairwise _) hinside hgaps label' portId'
  exact congrArg (fun ports => { e with layout := layout, ports := ports }) hports

end Equipment
end PortGrid
