import PortGrid.Proofs.Naming.Invariance

/-!
# The names of an increment

An increment stays in its row up to the ceiling, and then goes on in the first column of the next row. So its first row
has the columns from that of the start to the ceiling, or the start alone if that lies behind the ceiling; every later
row has all columns from the first to the ceiling. An increment does not end, and so it names all ports.

Key definition: `Cursor.WithinIncrement`.
Key theorems: `Cursor.iterate_inFirstRow`, `Cursor.iterate_behindFirstRow`, `Cursor.WithinIncrement.step`,
`NamePattern.get?_increment`.
-/

namespace PortGrid
namespace Cursor

theorem nextInIncrement_of_lt {c : Cursor} (h : c.col < 999) : c.nextInIncrement = ⟨c.row, c.col + 1⟩ :=
  if_neg (Nat.not_lt.mpr h)

theorem nextInIncrement_of_le {c : Cursor} (h : 999 ≤ c.col) : c.nextInIncrement = ⟨c.row + 1, 1⟩ :=
  if_pos (Nat.lt_succ_of_le h)

/-- Up to the ceiling an increment stays in its row. -/
theorem iterate_inFirstRow (c : Cursor) : ∀ k ≤ 999 - c.col, nextInIncrement^[k] c = ⟨c.row, c.col + k⟩
  | 0, _ => rfl
  | k + 1, hk => by
    have hbelow : c.col + k < 999 := by omega
    rw [Function.iterate_succ_apply', iterate_inFirstRow c k (by omega), nextInIncrement_of_lt hbelow]
    rfl

/-- Behind its first row an increment goes on in rows of 999 places. -/
theorem iterate_behindFirstRow (c : Cursor) : ∀ j,
    nextInIncrement^[999 - c.col + 1 + j] c = ⟨c.row + 1 + j / 999, 1 + j % 999⟩
  | 0 => by
    -- The last place of the first row is at the ceiling, or it is the start itself.
    have hlast : 999 ≤ c.col + (999 - c.col) := by omega
    rw [Nat.add_zero, Function.iterate_succ_apply', iterate_inFirstRow c _ (Nat.le_refl _), nextInIncrement_of_le hlast]
  | j + 1 => by
    rw [← Nat.add_assoc, Function.iterate_succ_apply', iterate_behindFirstRow c j]
    by_cases hlast : 999 ≤ 1 + j % 999
    · have hrow : c.row + 1 + j / 999 + 1 = c.row + 1 + (j + 1) / 999 := by omega
      have hcol : 1 = 1 + (j + 1) % 999 := by omega
      rw [nextInIncrement_of_le hlast, hrow, ← hcol]
    · have hrow : j / 999 = (j + 1) / 999 := by omega
      have hcol : 1 + j % 999 + 1 = 1 + (j + 1) % 999 := by omega
      rw [nextInIncrement_of_lt (Nat.lt_of_not_le hlast), hcol, hrow]

/-- At most `k` rows behind the start, and in a column up to the ceiling or that of the start. -/
def WithinIncrement (start : Cursor) (k : ℕ) (c : Cursor) : Prop :=
  c.row ≤ start.row + k ∧ c.col ≤ max start.col 999

theorem withinIncrement_start (start : Cursor) : start.WithinIncrement 0 start :=
  ⟨Nat.le_refl _, Nat.le_max_left _ _⟩

/-- **One step of an increment.** The row grows by one at most, and the column only below the ceiling. -/
theorem WithinIncrement.step {start c : Cursor} {k : ℕ} (h : start.WithinIncrement k c) :
    start.WithinIncrement (k + 1) c.nextInIncrement := by
  obtain ⟨hrow, hcol⟩ := h
  by_cases hlast : 999 ≤ c.col
  · have hfirst : 1 ≤ max start.col 999 := by omega
    rw [nextInIncrement_of_le hlast]
    exact ⟨Nat.succ_le_succ hrow, hfirst⟩
  · have hnext : c.col + 1 ≤ max start.col 999 := by omega
    rw [nextInIncrement_of_lt (Nat.lt_of_not_le hlast)]
    exact ⟨Nat.le_succ_of_le hrow, hnext⟩

/-- **Any number of steps of an increment.** -/
theorem withinIncrement_iterate (start : Cursor) : ∀ k, start.WithinIncrement k (nextInIncrement^[k] start)
  | 0 => withinIncrement_start start
  | k + 1 => by
    rw [Function.iterate_succ_apply']
    exact (withinIncrement_iterate start k).step

end Cursor

namespace NamePattern

/-- **The names of an increment.** Of ports that differ in their identifiers all get a name, and nothing else does. In
row-major order they are counted on from the start up to the ceiling of 999 columns. From there on they fill rows of 999
columns, beginning with the row behind that of the start: the port that stands `j` places behind the first of them gets
the place to which the division of `j` by 999 leads. -/
theorem get?_increment (stem : String) (start : Coordinate) {ports : List Port} (hids : (ports.map (·.id)).Nodup) :
    (∀ k port, (Equipment.sortPorts ports)[k]? = some port → k ≤ 999 - start.col.toNat →
        ((increment stem start).assign ports).get? port.id =
          some (stem ++ start.row.toNat.repr ++ "/" ++ (start.col.toNat + k).repr)) ∧
      (∀ j port, (Equipment.sortPorts ports)[999 - start.col.toNat + 1 + j]? = some port →
        ((increment stem start).assign ports).get? port.id =
          some (stem ++ (start.row.toNat + 1 + j / 999).repr ++ "/" ++ (1 + j % 999).repr)) ∧
      ∀ id, ((increment stem start).assign ports).get? id ≠ none ↔ id ∈ ports.map (·.id) := by
  have hperm : ((Equipment.sortPorts ports).map (·.id)).Perm (ports.map (·.id)) :=
    (Equipment.sortPorts_perm ports).map _
  have hget : ∀ k port, (Equipment.sortPorts ports)[k]? = some port →
      ((increment stem start).assign ports).get? port.id =
        some ((Cursor.nextInIncrement^[k] ⟨start.row.toNat, start.col.toNat⟩).name stem) := by
    intro k port hport
    rw [assign, incrementNames_eq_walk, get?_walk (hperm.nodup_iff.mpr hids) hport]
    simp [Cursor.ofCoordinate]
  refine ⟨fun k port hport hk => ?_, fun j port hport => ?_, fun id => ?_⟩
  · rw [hget k port hport, Cursor.iterate_inFirstRow ⟨start.row.toNat, start.col.toNat⟩ k hk]
    rfl
  · rw [hget _ port hport, Cursor.iterate_behindFirstRow ⟨start.row.toNat, start.col.toNat⟩ j]
    rfl
  · constructor
    · intro hnamed
      by_contra hid
      refine hnamed ?_
      rw [assign, incrementNames_eq_walk]
      exact get?_walk_of_notMem (fun h => hid (hperm.mem_iff.mp h)) _
    · intro hid
      obtain ⟨port, hport, rfl⟩ := List.mem_map.mp (hperm.mem_iff.mpr hid)
      obtain ⟨k, hk⟩ := List.getElem?_of_mem hport
      simp [hget k port hk]

/-- Begun one column before the ceiling, the names of three ports go over into the next row with the last of them; begun
behind the ceiling, they do so with the second. -/
theorem get?_increment_overCeiling :
    ((increment "E" ⟨1, 998⟩).assign corner.reverse).get? ⟨"b"⟩ = some "E1/999" ∧
      ((increment "E" ⟨1, 998⟩).assign corner.reverse).get? ⟨"c"⟩ = some "E2/1" ∧
      ((increment "E" ⟨1, 1200⟩).assign corner.reverse).get? ⟨"a"⟩ = some "E1/1200" ∧
      ((increment "E" ⟨1, 1200⟩).assign corner.reverse).get? ⟨"c"⟩ = some "E2/2" := by
  have hids : (corner.reverse.map (·.id)).Nodup := by decide
  obtain ⟨hfirst, hlater, -⟩ := get?_increment "E" ⟨1, 998⟩ hids
  obtain ⟨hfirst', hlater', -⟩ := get?_increment "E" ⟨1, 1200⟩ hids
  rw [sortPorts_reverse_corner] at hfirst hlater hfirst' hlater'
  have hb := hfirst 1 (.fresh ⟨"b"⟩ "" ⟨0, 1⟩) rfl (by decide)
  have hc := hlater 0 (.fresh ⟨"c"⟩ "" ⟨1, 0⟩) rfl
  have ha' := hfirst' 0 (.fresh ⟨"a"⟩ "" ⟨0, 0⟩) rfl (by decide)
  have hc' := hlater' 1 (.fresh ⟨"c"⟩ "" ⟨1, 0⟩) rfl
  exact ⟨hb.trans (by decide +kernel), hc.trans (by decide +kernel), ha'.trans (by decide +kernel),
    hc'.trans (by decide +kernel)⟩

end NamePattern
end PortGrid
