import PortGrid.Proofs.Equipment
import PortGrid.Proofs.Naming.Names
import PortGrid.Proofs.Naming.Walk

/-!
# What names depend on

The names that a pattern gives depend on the identifiers and the positions of the ports, and on nothing else of them.
They do not depend on the order of the list either, if the ports differ in their identifiers and in their positions. A
template looks at each port alone, so that it gives the same names in another order. A range and an increment visit the
ports in row-major order, and ports in different positions have only one such order.

Key theorems: `Equipment.sortPorts_eq_of_perm`, `assignNames_of_parse`, `NamePattern.assign_congr`,
`NamePattern.mem_ids_of_get?_assign`, `NamePattern.assign_of_perm`.
-/

namespace PortGrid

/-! ### Row-major order -/

namespace Equipment

/-- Ports in different positions have only one row-major order. -/
theorem sortPorts_eq_of_perm {ports ports' : List Port} (hplaces : (ports.map (·.position)).Nodup)
    (hperm : ports'.Perm ports) : sortPorts ports' = sortPorts ports := by
  have hsorted : (sortPorts ports').Perm (sortPorts ports) :=
    ((sortPorts_perm ports').trans hperm).trans (sortPorts_perm ports).symm
  refine hsorted.eq_of_pairwise (fun p q hp hq hpq hqp => ?_) (sortPorts_pairwise ports') (sortPorts_pairwise ports)
  have hp : p ∈ ports := ((sortPorts_perm ports').trans hperm).mem_iff.mp hp
  have hq : q ∈ ports := (sortPorts_perm ports).mem_iff.mp hq
  exact List.inj_on_of_nodup_map hplaces hp hq (Position.le_antisymm hpq hqp)

theorem places_sortPorts (ports : List Port) : (sortPorts ports).map (fun port => (port.id, port.position)) =
    (ports.map fun port => (port.id, port.position)).mergeSort fun p q => p.2.le q.2 :=
  List.map_mergeSort fun _ _ _ _ => rfl

end Equipment

/-! ### Patterns -/

theorem assignNames_of_parse {text : String} {pattern : NamePattern} (h : NamePattern.parse text = .ok pattern)
    (ports : List Port) : assignNames text ports = .ok (pattern.assign ports) := by
  rw [assignNames, h, Except.map]

namespace NamePattern

/-- **Names depend on the identifiers and the positions of the ports alone.** -/
theorem assign_congr (pattern : NamePattern) {ports ports' : List Port}
    (h : ports'.map (fun port => (port.id, port.position)) = ports.map fun port => (port.id, port.position)) :
    pattern.assign ports' = pattern.assign ports := by
  have hids : (Equipment.sortPorts ports').map (·.id) = (Equipment.sortPorts ports).map (·.id) := by
    have hsorted := Equipment.places_sortPorts ports'
    rw [h, ← Equipment.places_sortPorts ports] at hsorted
    have hfirst := congrArg (List.map Prod.fst) hsorted
    rwa [List.map_map, List.map_map] at hfirst
  cases pattern with
  | template text =>
    have hrender := congrArg (List.map fun place => (place.1, renderTemplate text place.2)) h
    rw [List.map_map, List.map_map] at hrender
    exact congrArg Names.mk hrender
  | range stem start stop =>
    simp only [assign, rangeNames_eq_walk]
    rw [walk_congr _ hids]
  | increment stem start =>
    simp only [assign, incrementNames_eq_walk]
    rw [walk_congr _ hids]

theorem mem_ids_of_get?_assign (pattern : NamePattern) {ports : List Port} {i : PortId}
    (h : (pattern.assign ports).get? i ≠ none) : i ∈ ports.map (·.id) := by
  have hperm : ((Equipment.sortPorts ports).map (·.id)).Perm (ports.map (·.id)) := (Equipment.sortPorts_perm ports).map _
  by_contra hnone
  have hsorted : i ∉ (Equipment.sortPorts ports).map (·.id) := fun hmem => hnone (hperm.mem_iff.mp hmem)
  cases pattern with
  | template text =>
    refine h (Names.get?_eq_none_iff.mpr ?_)
    rw [assign, List.map_map]
    exact hnone
  | range stem start stop =>
    rw [assign, rangeNames_eq_walk] at h
    exact h (get?_walk_of_notMem hsorted _)
  | increment stem start =>
    rw [assign, incrementNames_eq_walk] at h
    exact h (get?_walk_of_notMem hsorted _)

/-- **Names do not depend on the order of the list.** Ports that differ in their identifiers and in their positions get
the same names in any order. -/
theorem assign_of_perm (pattern : NamePattern) {ports ports' : List Port} (hids : (ports.map (·.id)).Nodup)
    (hplaces : (ports.map (·.position)).Nodup) (hperm : ports'.Perm ports) :
    (∀ id, (pattern.assign ports').get? id = (pattern.assign ports).get? id) ∧
      (pattern.assign ports').size = (pattern.assign ports).size := by
  have hget : ∀ id, (pattern.assign ports').get? id = (pattern.assign ports).get? id := by
    cases pattern with
    | template text =>
      apply Names.get?_eq_of_perm
      · rw [assign, List.map_map]
        exact hids
      · exact hperm.map _
    | range stem start stop =>
      intro id
      rw [assign, assign, Equipment.sortPorts_eq_of_perm hplaces hperm]
    | increment stem start =>
      intro id
      rw [assign, assign, Equipment.sortPorts_eq_of_perm hplaces hperm]
  exact ⟨hget, Names.size_congr hget⟩

/-- Three of the cells of a square, in row-major order. -/
def corner : List Port := [.fresh ⟨"a"⟩ "" ⟨0, 0⟩, .fresh ⟨"b"⟩ "" ⟨0, 1⟩, .fresh ⟨"c"⟩ "" ⟨1, 0⟩]

theorem sortPorts_corner : Equipment.sortPorts corner = corner :=
  List.mergeSort_of_pairwise (by decide)

theorem sortPorts_reverse_corner : Equipment.sortPorts corner.reverse = corner :=
  (Equipment.sortPorts_eq_of_perm (by decide) corner.reverse_perm).trans sortPorts_corner

/-- Listed the other way round, the last cell still gets the last name of the range, which begins a new row. -/
theorem assign_of_perm_reversed :
    ((range "E" ⟨1, 1⟩ ⟨2, 2⟩).assign corner.reverse).get? ⟨"c"⟩ = some "E2/1" ∧
      ((range "E" ⟨1, 1⟩ ⟨2, 2⟩).assign corner.reverse).size = 3 := by
  have hids : (corner.map (·.id)).Nodup := by decide
  have hplaces : (corner.map (·.position)).Nodup := by decide
  obtain ⟨hget, hsize⟩ := assign_of_perm (range "E" ⟨1, 1⟩ ⟨2, 2⟩) hids hplaces corner.reverse_perm
  rw [hget, hsize, assign, sortPorts_corner]
  decide +kernel

end NamePattern
end PortGrid
