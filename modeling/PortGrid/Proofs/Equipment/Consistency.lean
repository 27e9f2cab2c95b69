import Mathlib.Data.List.Perm.Subperm
import PortGrid.Proofs.Equipment

/-!
# Finding out whether the ports fill the grid

The check counts the ports and then looks at them one by one, but never at the cells. Nevertheless it passes exactly the
devices with one port on every cell and none elsewhere: as many ports as there are cells, all of them inside and on
cells that differ, leave no cell out. A device that fails has the wrong number of ports, or the check names the first
port of the list that lies outside or on the cell of a port before it.

A move fills every gap, so it makes such a device of any other, unless two of the ports that stay share a cell. These
both stay, and then there are more ports than cells.

Key definitions: `Equipment.Misfit`, `Equipment.FirstMisfit`.
Key theorems: `Equipment.validate_eq_ok_iff`, `Equipment.misplaced?_eq_some_iff`, `Equipment.validate_iff`,
`Equipment.validate_reconcile_iff`.
-/

namespace PortGrid
namespace Equipment

variable {e : Equipment} {problem : Inconsistency}

/-! ### Counting instead of looking -/

/-- As many ports as cells, inside the grid and on cells that differ, are one for every cell. -/
theorem onePerCell_of_length (hlength : e.ports.length = e.layout.portCount)
    (hinside : ∀ port ∈ e.ports, e.layout.contains port.position = true) (hnodup : e.cells.Nodup) : e.OnePerCell := by
  have hsub : e.cells ⊆ e.layout.positions := by
    intro cell hcell
    obtain ⟨port, hport, rfl⟩ := List.mem_map.mp hcell
    exact Layout.mem_positions.mpr (hinside port hport)
  have hle : e.layout.positions.length ≤ e.cells.length := by
    rw [Layout.length_positions, cells, List.length_map]
    omega
  exact onePerCell_iff.mpr ((List.subperm_of_subset hnodup hsub).perm_of_length_le hle)

theorem validate_eq_ok_iff : e.validate = .ok () ↔ e.OnePerCell := by
  rw [validate_eq_ok]
  constructor
  · rintro ⟨hlength, hinside, hnodup⟩
    exact onePerCell_of_length hlength hinside hnodup
  · intro h
    exact ⟨h.length_ports, h.inside, h.nodup_cells⟩

/-! ### The first port that does not fit -/

/-- What is wrong with a port that is listed behind the given ones. -/
inductive Misfit (e : Equipment) (before : List Port) (port : Port) : Inconsistency → Prop where
  | outside (hout : e.layout.contains port.position = false) :
    Misfit e before port (.outside port.id port.position e.id)
  | shared {earlier : Port} (hmem : earlier ∈ before) (hsame : earlier.position = port.position) :
    Misfit e before port (.shared e.id port.position)

/-- What is wrong with the first port of the list that does not fit behind those before it. -/
def FirstMisfit (e : Equipment) (problem : Inconsistency) : Prop :=
  ∃ before port after, e.ports = before ++ port :: after ∧ e.Misfit before port problem ∧
    ∀ b earlier a, before = b ++ earlier :: a → ∀ other, ¬ e.Misfit b earlier other

/-- Behind ports that are not misplaced the search goes on with their cells taken. -/
theorem misplaced?_append : ∀ {before : List Port} {taken : List Position} (ports : List Port),
    e.misplaced? taken before = none →
      e.misplaced? taken (before ++ ports) = e.misplaced? ((before.map (·.position)).reverse ++ taken) ports
  | [], _, _, _ => rfl
  | port :: before, taken, ports, h => by
    rw [misplaced?] at h
    rw [List.cons_append, misplaced?]
    split at h
    · cases h
    · split at h
      · cases h
      · rename_i hin htaken
        rw [if_neg hin, if_neg htaken, misplaced?_append ports h, List.map_cons, List.reverse_cons,
          List.append_assoc]
        rfl

theorem misplaced?_of_misfit {before after : List Port} {port : Port} (hbefore : e.misplaced? [] before = none)
    (h : e.Misfit before port problem) : e.misplaced? [] (before ++ port :: after) = some problem := by
  rw [misplaced?_append _ hbefore, List.append_nil, misplaced?]
  cases h with
  | outside hout => simp [hout]
  | @shared earlier hmem hsame =>
    have hin := ((e.misplaced?_eq_none before []).mp hbefore).1 earlier hmem
    have htaken : port.position ∈ (before.map (·.position)).reverse :=
      List.mem_reverse.mpr (List.mem_map.mpr ⟨earlier, hmem, hsame⟩)
    rw [hsame] at hin
    simp [hin, htaken]

theorem exists_misfit : ∀ {ports : List Port} {taken : List Position}, e.misplaced? taken ports = some problem →
    ∃ before port after, ports = before ++ port :: after ∧ e.misplaced? taken before = none ∧
      (e.Misfit before port problem ∨ (port.position ∈ taken ∧ problem = .shared e.id port.position))
  | [], _, h => by cases h
  | port :: ports, taken, h => by
    rw [misplaced?] at h
    by_cases hin : e.layout.contains port.position = true
    · by_cases htaken : port.position ∈ taken
      · have hproblem : problem = .shared e.id port.position := by simpa [hin, htaken, eq_comm] using h
        exact ⟨[], port, ports, rfl, rfl, .inr ⟨htaken, hproblem⟩⟩
      · -- The port fits, and those behind it find its cell taken.
        have hrest : e.misplaced? (port.position :: taken) ports = some problem := by simpa [hin, htaken] using h
        obtain ⟨before, q, after, rfl, hbefore, hq⟩ := exists_misfit hrest
        refine ⟨port :: before, q, after, rfl, by simpa [misplaced?, hin, htaken] using hbefore, ?_⟩
        rcases hq with hq | ⟨hmem, rfl⟩
        · cases hq with
          | outside hout => exact .inl (.outside hout)
          | shared hmem hsame => exact .inl (.shared (List.mem_cons_of_mem port hmem) hsame)
        · rcases List.mem_cons.mp hmem with hsame | hmem
          · exact .inl (.shared List.mem_cons_self hsame.symm)
          · exact .inr ⟨hmem, rfl⟩
    · have hout : e.layout.contains port.position = false := by simpa using hin
      have hproblem : problem = .outside port.id port.position e.id := by simpa [hout, eq_comm] using h
      exact ⟨[], port, ports, rfl, rfl, .inl (hproblem ▸ .outside hout)⟩

theorem misplaced?_eq_none_iff_fits {ports : List Port} : e.misplaced? [] ports = none ↔
    ∀ before port after, ports = before ++ port :: after → ∀ other, ¬ e.Misfit before port other := by
  constructor
  · rintro h before port after rfl other hmisfit
    obtain ⟨hinside, hnodup, -⟩ := (e.misplaced?_eq_none _ []).mp h
    cases hmisfit with
    | outside hout =>
      have hin := hinside port (by simp)
      rw [hout] at hin
      cases hin
    | @shared earlier hmem hsame =>
      rw [List.map_append, List.map_cons, List.nodup_append] at hnodup
      exact hnodup.2.2 _ (List.mem_map_of_mem hmem) _ List.mem_cons_self hsame
  · intro h
    cases hfound : e.misplaced? [] ports with
    | none => rfl
    | some problem =>
      obtain ⟨before, port, after, hports, -, hmisfit | ⟨hmem, -⟩⟩ := exists_misfit hfound
      · exact absurd hmisfit (h before port after hports problem)
      · cases hmem

/-- The search finds what is wrong with the first port that does not fit. -/
theorem misplaced?_eq_some_iff : e.misplaced? [] e.ports = some problem ↔ e.FirstMisfit problem := by
  constructor
  · intro h
    obtain ⟨before, port, after, hports, hbefore, hmisfit | ⟨hmem, -⟩⟩ := exists_misfit h
    · exact ⟨before, port, after, hports, hmisfit, misplaced?_eq_none_iff_fits.mp hbefore⟩
    · cases hmem
  · rintro ⟨before, port, after, hports, hmisfit, hfirst⟩
    rw [hports]
    exact misplaced?_of_misfit (misplaced?_eq_none_iff_fits.mpr hfirst) hmisfit

/-! ### The check -/

theorem validate_eq_error_iff : e.validate = .error problem ↔
    (e.ports.length ≠ e.layout.portCount ∧ problem = .wrongCount e.id e.ports.length e.layout) ∨
      (e.ports.length = e.layout.portCount ∧ e.FirstMisfit problem) := by
  rw [← misplaced?_eq_some_iff]
  unfold validate
  by_cases hlength : e.ports.length = e.layout.portCount
  · cases hfound : e.misplaced? [] e.ports with
    | none => simp [hlength]
    | some found => simp [hlength]
  · simp [hlength, eq_comm]

/-- **The check is sound and complete.** A device passes exactly if every cell of its grid has one port and no port lies
outside. It is told to have the wrong number of ports exactly if that is not the number of its cells; and otherwise, if
it fails, what is wrong with the first port of the list that lies outside or on the cell of a port before it. -/
theorem validate_iff (e : Equipment) :
    (e.validate = .ok () ↔ e.OnePerCell) ∧
      (e.validate = .error (.wrongCount e.id e.ports.length e.layout) ↔
        e.ports.length ≠ e.layout.rows.toNat * e.layout.cols.toNat) ∧
      ∀ problem, e.validate = .error problem ↔
        (e.ports.length ≠ e.layout.rows.toNat * e.layout.cols.toNat ∧
            problem = .wrongCount e.id e.ports.length e.layout) ∨
          (e.ports.length = e.layout.rows.toNat * e.layout.cols.toNat ∧ e.FirstMisfit problem) := by
  refine ⟨validate_eq_ok_iff, ?_, fun problem => validate_eq_error_iff⟩
  rw [validate_eq_error_iff]
  constructor
  · rintro (⟨hlength, -⟩ | ⟨-, before, port, after, -, hmisfit, -⟩)
    · exact hlength
    · cases hmisfit
  · intro hlength
    exact .inl ⟨hlength, rfl⟩

/-! ### A move as a repair -/

/-- **A move repairs a device exactly when it can.** Whatever ports the device has, it passes the check behind the move
if and only if no two of its ports inside the layout share a position. -/
theorem validate_reconcile_iff (e : Equipment) (layout : Layout) (label : String) (portId : Nat → PortId) :
    (e.reconcile layout label portId).validate = .ok () ↔
      (e.ports.filter fun port => layout.contains port.position).Pairwise fun p q => p.position ≠ q.position := by
  rw [validate_eq_ok_iff, onePerCell_reconcile_iff, List.Nodup, List.pairwise_map]
  rfl

end Equipment
end PortGrid
