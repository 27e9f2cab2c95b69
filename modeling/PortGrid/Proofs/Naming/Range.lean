import PortGrid.Proofs.Naming.Invariance

/-!
# The names of a range

A range goes through its places row by row. All its rows are of one width, so that the `k`-th place follows from `k` by
division, and the range ends behind as many places as its rows have together. A range that begins behind its last column
has rows of one place, and of these it does not reach the last.

Key definitions: `Cursor.rangeWidth`, `Cursor.rangeLength`, `Cursor.placeInRange`.
Key theorems: `Cursor.nextInRange_placeInRange`, `Cursor.isPast_placeInRange`, `NamePattern.get?_range`.
-/

namespace PortGrid

/-! ### Counting in rows -/

/-- Behind the last place of a row comes the first of the next. -/
theorem succ_div_mod_of_last {k w : Nat} (h : k % w + 1 = w) : (k + 1) / w = k / w + 1 ∧ (k + 1) % w = 0 := by
  have hw : 0 < w := by omega
  have hk := Nat.div_add_mod k w
  have hsucc : k + 1 = w * (k / w + 1) := by
    rw [Nat.mul_succ]
    omega
  rw [hsucc]
  exact ⟨Nat.mul_div_cancel_left _ hw, Nat.mul_mod_right _ _⟩

theorem succ_div_mod_of_lt {k w : Nat} (h : k % w + 1 < w) : (k + 1) / w = k / w ∧ (k + 1) % w = k % w + 1 := by
  have hw : 0 < w := by omega
  have hk := Nat.div_add_mod k w
  have hsucc : k + 1 = k % w + 1 + w * (k / w) := by omega
  constructor
  · rw [hsucc, Nat.add_mul_div_left _ _ hw, Nat.div_eq_of_lt h, Nat.zero_add]
  · rw [hsucc, Nat.add_mul_mod_self_left, Nat.mod_eq_of_lt h]

namespace Cursor

variable (start stop : Cursor)

/-- How many places there are in a row of the range. -/
def rangeWidth : Nat :=
  if start.col ≤ stop.col then stop.col - start.col + 1 else 1

def rangeLength : Nat :=
  if stop.row < start.row then 0
  else if start.col ≤ stop.col then (stop.row - start.row + 1) * rangeWidth start stop
  else stop.row - start.row

/-- The `k`-th place, if the range goes on so far. -/
def placeInRange (k : Nat) : Cursor :=
  ⟨start.row + k / rangeWidth start stop, start.col + k % rangeWidth start stop⟩

theorem rangeWidth_pos : 0 < rangeWidth start stop := by
  unfold rangeWidth
  split <;> omega

theorem placeInRange_zero : placeInRange start stop 0 = start := by
  simp [placeInRange]

theorem nextInRange_placeInRange (k : Nat) :
    (placeInRange start stop k).nextInRange start stop = placeInRange start stop (k + 1) := by
  have hmod := Nat.mod_lt k (rangeWidth_pos start stop)
  have hends : start.col + k % rangeWidth start stop + 1 > stop.col ↔
      k % rangeWidth start stop + 1 = rangeWidth start stop := by
    unfold rangeWidth at hmod ⊢
    split at hmod <;> rename_i hcol
    · rw [if_pos hcol]
      omega
    · rw [if_neg hcol]
      omega
  unfold nextInRange placeInRange
  by_cases hlast : k % rangeWidth start stop + 1 = rangeWidth start stop
  · obtain ⟨hdiv, hrem⟩ := succ_div_mod_of_last hlast
    rw [if_pos (hends.mpr hlast), hdiv, hrem]
    rfl
  · obtain ⟨hdiv, hrem⟩ := succ_div_mod_of_lt (k := k) (w := rangeWidth start stop) (by omega)
    rw [if_neg (fun h => hlast (hends.mp h)), hdiv, hrem]
    rfl

/-- Behind `k` steps the walk through a range is at its `k`-th place. -/
theorem iterate_nextInRange (k : Nat) :
    (fun c : Cursor => c.nextInRange start stop)^[k] start = placeInRange start stop k := by
  induction k with
  | zero => exact (placeInRange_zero start stop).symm
  | succ k ih => rw [Function.iterate_succ_apply', ih, nextInRange_placeInRange]

theorem isPast_placeInRange (k : Nat) :
    (placeInRange start stop k).isPast stop = true ↔ rangeLength start stop ≤ k := by
  have hmod := Nat.mod_lt k (rangeWidth_pos start stop)
  have hrows : stop.row - start.row + 1 ≤ k / rangeWidth start stop ↔
      (stop.row - start.row + 1) * rangeWidth start stop ≤ k := Nat.le_div_iff_mul_le (rangeWidth_pos start stop)
  unfold isPast placeInRange rangeLength
  simp only [Bool.or_eq_true, decide_eq_true_eq, Bool.and_eq_true, beq_iff_eq]
  by_cases hrow : stop.row < start.row
  · rw [if_pos hrow]
    exact iff_of_true (.inl (Nat.lt_of_lt_of_le hrow (Nat.le_add_right _ _))) (Nat.zero_le k)
  · rw [if_neg hrow]
    by_cases hcol : start.col ≤ stop.col
    · -- No column lies behind the last one, so only the row can.
      have hwidth : rangeWidth start stop = stop.col - start.col + 1 := if_pos hcol
      rw [if_pos hcol, ← hrows]
      omega
    · have hwidth : rangeWidth start stop = 1 := if_neg hcol
      rw [if_neg hcol, hwidth, Nat.div_one, Nat.mod_one]
      omega

end Cursor

/-! ### Patterns -/

namespace NamePattern

/-- **The names of a range.** Of ports that differ in their identifiers, the `k`-th in row-major order gets a name if the
range has more than `k` places. The name is that of the `k`-th place, which stands as many rows and columns behind the
first as the division of `k` by the width of a row gives. Nothing else gets a name. -/
theorem get?_range (stem : String) (start stop : Coordinate) {ports : List Port}
    (hids : (ports.map (·.id)).Nodup) :
    (∀ k port, (Equipment.sortPorts ports)[k]? = some port →
        ((range stem start stop).assign ports).get? port.id =
          if k < Cursor.rangeLength (.ofCoordinate start) (.ofCoordinate stop) then
            some (stem ++
              (start.row.toNat + k / Cursor.rangeWidth (.ofCoordinate start) (.ofCoordinate stop)).repr ++ "/" ++
              (start.col.toNat + k % Cursor.rangeWidth (.ofCoordinate start) (.ofCoordinate stop)).repr)
          else none) ∧
      ∀ id, id ∉ ports.map (·.id) → ((range stem start stop).assign ports).get? id = none := by
  have hperm : ((Equipment.sortPorts ports).map (·.id)).Perm (ports.map (·.id)) :=
    (Equipment.sortPorts_perm ports).map _
  rw [assign, rangeNames_eq_walk]
  constructor
  · intro k port hport
    rw [get?_walk (hperm.nodup_iff.mpr hids) hport]
    simp only [Cursor.iterate_nextInRange]
    have hlive : (∀ j ≤ k, (Cursor.placeInRange (.ofCoordinate start) (.ofCoordinate stop) j).isPast
        (.ofCoordinate stop) = false) ↔ k < Cursor.rangeLength (.ofCoordinate start) (.ofCoordinate stop) := by
      simp only [← Bool.not_eq_true, Cursor.isPast_placeInRange, Nat.not_le]
      exact ⟨fun h => h k (Nat.le_refl k), fun h j hj => Nat.lt_of_le_of_lt hj h⟩
    simp only [hlive]
    rfl
  · intro id hid
    exact get?_walk_of_notMem (fun h => hid (hperm.mem_iff.mp h)) _

/-- A range of rows of two names goes on to its second row for the last of three ports, even if it is listed first. If
the range begins behind its last column, it names the first of the ports and no other. -/
theorem get?_range_reversed :
    ((range "E" ⟨1, 11⟩ ⟨2, 12⟩).assign corner.reverse).get? ⟨"c"⟩ = some "E2/11" ∧
      ((range "E" ⟨1, 5⟩ ⟨2, 3⟩).assign corner.reverse).get? ⟨"a"⟩ = some "E1/5" ∧
      ((range "E" ⟨1, 5⟩ ⟨2, 3⟩).assign corner.reverse).get? ⟨"b"⟩ = none := by
  have hids : (corner.reverse.map (·.id)).Nodup := by decide
  obtain ⟨hwide, -⟩ := get?_range "E" ⟨1, 11⟩ ⟨2, 12⟩ hids
  obtain ⟨hnarrow, -⟩ := get?_range "E" ⟨1, 5⟩ ⟨2, 3⟩ hids
  rw [sortPorts_reverse_corner] at hwide hnarrow
  have hthird := hwide 2 (.fresh ⟨"c"⟩ "" ⟨1, 0⟩) rfl
  have hfirst := hnarrow 0 (.fresh ⟨"a"⟩ "" ⟨0, 0⟩) rfl
  have hsecond := hnarrow 1 (.fresh ⟨"b"⟩ "" ⟨0, 1⟩) rfl
  exact ⟨hthird.trans (by decide +kernel), hfirst.trans (by decide +kernel), hsecond.trans (by decide +kernel)⟩

end NamePattern
end PortGrid
