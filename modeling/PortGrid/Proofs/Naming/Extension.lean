import PortGrid.Proofs.Naming.Invariance

/-!
# Names when ports are added

A walk over more ports names the first of them as before and goes on from there, so that it does not matter for a port
how many stand behind it in row-major order. A template looks at each port alone, so that it does not matter for it
where others are added at all. Hence ports keep the names of a pattern when others are added with identifiers and
positions of their own: behind them if the pattern is a range or an increment, and anywhere if it is a template.

Key theorems: `walk_append`, `get?_walk_append`, `Equipment.sortPorts_append`, `NamePattern.get?_assign_of_added`.
-/

namespace PortGrid

/-- A walk over more ports goes on behind the names that it gave before, and there it names only those that are added. -/
theorem walk_append {next : Cursor → Cursor} {ended : Cursor → Bool} {stem : String} (ports more : List Port)
    (c : Cursor) : ∃ rest, walk next ended stem c (ports ++ more) = walk next ended stem c ports ++ rest ∧
      rest.map (·.1) ⊆ more.map (·.id) := by
  induction ports generalizing c with
  | nil => exact ⟨walk next ended stem c more, rfl, (walk_ids_initial c).subset⟩
  | cons port ports ih =>
    by_cases hended : ended c = true
    · exact ⟨[], by simp [walk, hended], List.nil_subset _⟩
    · obtain ⟨rest, hrest, hids⟩ := ih (next c)
      exact ⟨rest, by simp [walk, hended, hrest], hids⟩

theorem get?_walk_append {next : Cursor → Cursor} {ended : Cursor → Bool} {stem : String} {ports more : List Port}
    {i : PortId} (hi : i ∉ more.map (·.id)) (c : Cursor) :
    (Names.mk (walk next ended stem c (ports ++ more))).get? i = (Names.mk (walk next ended stem c ports)).get? i := by
  obtain ⟨rest, hwalk, hids⟩ := walk_append ports more c
  rw [hwalk]
  exact Names.get?_append_of_notMem fun hrest => hi (hids hrest)

/-- Ports in other places, behind all the rest, come behind them in row-major order. -/
theorem Equipment.sortPorts_append {ports more : List Port} (hplaces : ((ports ++ more).map (·.position)).Nodup)
    (hbehind : ∀ p ∈ ports, ∀ q ∈ more, p.position.le q.position = true) :
    sortPorts (ports ++ more) = sortPorts ports ++ sortPorts more := by
  have hperm : (sortPorts ports ++ sortPorts more).Perm (ports ++ more) :=
    (sortPorts_perm ports).append (sortPorts_perm more)
  have hsorted : (sortPorts ports ++ sortPorts more).Pairwise fun p q => p.position.le q.position = true := by
    refine List.pairwise_append.mpr ⟨sortPorts_pairwise ports, sortPorts_pairwise more, fun p hp q hq => ?_⟩
    exact hbehind p ((sortPorts_perm ports).mem_iff.mp hp) q ((sortPorts_perm more).mem_iff.mp hq)
  calc sortPorts (ports ++ more)
      = sortPorts (sortPorts ports ++ sortPorts more) := (sortPorts_eq_of_perm hplaces hperm).symm
    _ = sortPorts ports ++ sortPorts more := List.mergeSort_of_pairwise hsorted

namespace NamePattern

/-- **Ports keep their names when others are added.** The others have identifiers and positions of their own; and unless
the pattern is a template, they stand behind. -/
theorem get?_assign_of_added (pattern : NamePattern) {ports ports' more : List Port}
    (hperm : ports'.Perm (ports ++ more)) (hids : (ports'.map (·.id)).Nodup) (hplaces : (ports'.map (·.position)).Nodup)
    (hbehind : (∃ text, pattern = .template text) ∨ ∀ p ∈ ports, ∀ q ∈ more, p.position.le q.position = true)
    {i : PortId} (hi : i ∈ ports.map (·.id)) : (pattern.assign ports').get? i = (pattern.assign ports).get? i := by
  have hids' : ((ports ++ more).map (·.id)).Nodup := (hperm.map _).nodup_iff.mp hids
  have hplaces' : ((ports ++ more).map (·.position)).Nodup := (hperm.map _).nodup_iff.mp hplaces
  have hnew : i ∉ more.map (·.id) := by
    rw [List.map_append, List.nodup_append] at hids'
    exact fun hmore => hids'.2.2 i hi i hmore rfl
  have hnewSorted : i ∉ (Equipment.sortPorts more).map (·.id) := fun h =>
    hnew (((Equipment.sortPorts_perm more).map _).mem_iff.mp h)
  have hsorted : (∀ p ∈ ports, ∀ q ∈ more, p.position.le q.position = true) →
      Equipment.sortPorts ports' = Equipment.sortPorts ports ++ Equipment.sortPorts more := fun h =>
    (Equipment.sortPorts_eq_of_perm hplaces' hperm).trans (Equipment.sortPorts_append hplaces' h)
  -- A template looks at each port by itself. A walk looks at their order, in which the others come last.
  cases pattern with
  | template text =>
    have hpairs : ((ports ++ more).map fun port => (port.id, renderTemplate text port.position)).map (·.1) =
        (ports ++ more).map (·.id) := by
      rw [List.map_map]
      rfl
    have hsame : ((template text).assign ports').get? i = ((template text).assign (ports ++ more)).get? i :=
      Names.get?_eq_of_perm (hpairs ▸ hids') (hperm.map _) i
    rw [hsame, assign, List.map_append]
    refine Names.get?_append_of_notMem ?_
    rw [List.map_map]
    exact hnew
  | range stem start stop =>
    have hlist := hsorted (hbehind.resolve_left (by rintro ⟨text, h⟩; cases h))
    simp only [assign, rangeNames_eq_walk, hlist]
    exact get?_walk_append hnewSorted _
  | increment stem start =>
    have hlist := hsorted (hbehind.resolve_left (by rintro ⟨text, h⟩; cases h))
    simp only [assign, incrementNames_eq_walk, hlist]
    exact get?_walk_append hnewSorted _

end NamePattern
end PortGrid
