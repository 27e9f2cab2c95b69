import PortGrid.Grid

/-!
# The cells of a layout in order

The order of positions is total. The cells of a layout are exactly the positions inside it, listed strictly ascending,
each once; so the list of cells is the only ascending list of them.

Key definition: `Position.Before`.
Key theorems: `Layout.mem_positions`, `Layout.positions_ascending`, `Position.eq_of_perm_of_ascending`,
`Layout.filter_row_positions`.
-/

namespace PortGrid

theorem one_pos : (0 : UInt32) < 1 := by decide

theorem two_pos : (0 : UInt32) < 2 := by decide

namespace Position

/-! ### The order -/

/-- Strictly before, row by row. -/
def Before (p q : Position) : Prop := p.row < q.row ∨ (p.row = q.row ∧ p.col < q.col)

theorem ext_toNat {p q : Position} (hrow : p.row.toNat = q.row.toNat) (hcol : p.col.toNat = q.col.toNat) : p = q := by
  cases p
  cases q
  rw [Position.mk.injEq]
  exact ⟨UInt32.toNat_inj.mp hrow, UInt32.toNat_inj.mp hcol⟩

theorem before_iff {p q : Position} :
    p.Before q ↔ p.row.toNat < q.row.toNat ∨ (p.row.toNat = q.row.toNat ∧ p.col.toNat < q.col.toNat) := by
  simp only [Before, UInt32.lt_iff_toNat_lt, ← UInt32.toNat_inj]

theorem le_iff {p q : Position} :
    p.le q = true ↔ p.row.toNat < q.row.toNat ∨ (p.row.toNat = q.row.toNat ∧ p.col.toNat ≤ q.col.toNat) := by
  simp [le, UInt32.lt_iff_toNat_lt, UInt32.le_iff_toNat_le, ← UInt32.toNat_inj]

theorem le_refl (p : Position) : p.le p = true := le_iff.mpr (.inr ⟨rfl, Nat.le_refl _⟩)

theorem le_trans {p q r : Position} (hpq : p.le q = true) (hqr : q.le r = true) : p.le r = true := by
  rw [le_iff] at *
  omega

theorem le_total (p q : Position) : (p.le q || q.le p) = true := by
  rw [Bool.or_eq_true, le_iff, le_iff]
  omega

theorem le_antisymm {p q : Position} (hpq : p.le q = true) (hqp : q.le p = true) : p = q := by
  rw [le_iff] at hpq hqp
  exact ext_toNat (by omega) (by omega)

theorem Before.le {p q : Position} (h : p.Before q) : p.le q = true := by
  rw [before_iff] at h
  rw [le_iff]
  omega

theorem Before.ne {p q : Position} (h : p.Before q) : p ≠ q := by
  rintro rfl
  rw [before_iff] at h
  omega

theorem before_of_le_of_ne {p q : Position} (h : p.le q = true) (hne : p ≠ q) : p.Before q := by
  rw [le_iff] at h
  rw [before_iff]
  by_cases hcol : p.col.toNat = q.col.toNat
  · have hrow : p.row.toNat ≠ q.row.toNat := fun hrow => hne (ext_toNat hrow hcol)
    omega
  · omega

theorem nodup_of_ascending {ps : List Position} (h : ps.Pairwise Before) : ps.Nodup :=
  h.imp Before.ne

/-- Positions that differ stand in strict order once they stand in order. -/
theorem ascending_of_nodup {ps : List Position} (h : ps.Pairwise fun p q => p.le q = true) (hd : ps.Nodup) :
    ps.Pairwise Before :=
  (h.and hd).imp fun ⟨hle, hne⟩ => before_of_le_of_ne hle hne

/-- Two lists of the same positions, both in order, are the same list. -/
theorem eq_of_perm_of_ascending {ps qs : List Position} (h : ps.Perm qs)
    (hp : ps.Pairwise fun p q => p.le q = true) (hq : qs.Pairwise fun p q => p.le q = true) : ps = qs :=
  h.eq_of_pairwise (fun _ _ _ _ => le_antisymm) hp hq

end Position

namespace Layout

variable (layout : Layout)

/-! ### Cells -/

theorem contains_iff {layout : Layout} {p : Position} :
    layout.contains p = true ↔ p.row.toNat < layout.rows.toNat ∧ p.col.toNat < layout.cols.toNat := by
  simp [contains, UInt32.lt_iff_toNat_lt]

theorem cols_toNat_pos : 0 < layout.cols.toNat := by
  have h := layout.cols_pos
  rwa [UInt32.lt_iff_toNat_lt] at h

theorem cell_row {layout : Layout} {k : Nat} (h : k < layout.portCount) :
    (layout.cell k).row.toNat = k / layout.cols.toNat := by
  have hrow : k / layout.cols.toNat < layout.rows.toNat := Nat.div_lt_of_lt_mul (by rwa [Nat.mul_comm])
  exact UInt32.toNat_ofNat_of_lt (Nat.lt_trans hrow layout.rows.toNat_lt)

theorem cell_col (k : Nat) : (layout.cell k).col.toNat = k % layout.cols.toNat := by
  have hcol : k % layout.cols.toNat < layout.cols.toNat := Nat.mod_lt _ layout.cols_toNat_pos
  exact UInt32.toNat_ofNat_of_lt (Nat.lt_trans hcol layout.cols.toNat_lt)

/-- The number of a position, row by row. -/
def number (p : Position) : Nat := p.row.toNat * layout.cols.toNat + p.col.toNat

theorem number_lt {layout : Layout} {p : Position} (h : layout.contains p = true) :
    layout.number p < layout.portCount := by
  obtain ⟨hrow, hcol⟩ := contains_iff.mp h
  calc layout.number p < (p.row.toNat + 1) * layout.cols.toNat := by
        rw [Nat.succ_mul]
        exact Nat.add_lt_add_left hcol _
    _ ≤ layout.portCount := Nat.mul_le_mul_right _ hrow

/-- A position inside the layout is the cell of its number. -/
theorem cell_number {layout : Layout} {p : Position} (h : layout.contains p = true) :
    layout.cell (layout.number p) = p := by
  have hcol := (contains_iff.mp h).2
  apply Position.ext_toNat
  · rw [cell_row (number_lt h), number, Nat.add_comm, Nat.add_mul_div_right _ _ layout.cols_toNat_pos,
      Nat.div_eq_of_lt hcol, Nat.zero_add]
  · rw [cell_col, number, Nat.add_comm, Nat.add_mul_mod_self_right, Nat.mod_eq_of_lt hcol]

theorem contains_cell {layout : Layout} {k : Nat} (h : k < layout.portCount) :
    layout.contains (layout.cell k) = true := by
  rw [contains_iff, cell_row h, cell_col]
  exact ⟨Nat.div_lt_of_lt_mul (by rwa [Nat.mul_comm]), Nat.mod_lt _ layout.cols_toNat_pos⟩

theorem cell_before {layout : Layout} {i j : Nat} (hij : i < j) (hj : j < layout.portCount) :
    (layout.cell i).Before (layout.cell j) := by
  rw [Position.before_iff, cell_row (Nat.lt_trans hij hj), cell_row hj, cell_col, cell_col]
  have hi := Nat.div_add_mod i layout.cols.toNat
  have hj := Nat.div_add_mod j layout.cols.toNat
  rcases Nat.lt_or_eq_of_le (Nat.div_le_div_right (c := layout.cols.toNat) (Nat.le_of_lt hij)) with hrow | hrow
  · exact .inl hrow
  · rw [hrow] at hi
    exact .inr ⟨hrow, by omega⟩

/-! ### The list of cells -/

theorem mem_positions {layout : Layout} {p : Position} : p ∈ layout.positions ↔ layout.contains p = true := by
  rw [positions, List.mem_map]
  constructor
  · rintro ⟨k, hk, rfl⟩
    exact contains_cell (List.mem_range.mp hk)
  · intro h
    exact ⟨layout.number p, List.mem_range.mpr (number_lt h), cell_number h⟩

theorem positions_ascending : layout.positions.Pairwise Position.Before := by
  rw [positions, List.pairwise_map]
  refine List.pairwise_lt_range.imp_of_mem fun _ hj hij => ?_
  exact cell_before hij (List.mem_range.mp hj)

theorem positions_nodup : layout.positions.Nodup :=
  Position.nodup_of_ascending layout.positions_ascending

theorem length_positions : layout.positions.length = layout.portCount := by
  rw [positions, List.length_map, List.length_range]

/-- Every list of the cells in strict order is the list of cells. -/
theorem eq_positions {layout : Layout} {ps : List Position} (hasc : ps.Pairwise Position.Before)
    (hmem : ∀ p, p ∈ ps ↔ layout.contains p = true) : ps = layout.positions := by
  have hperm : ps.Perm layout.positions := by
    rw [List.perm_ext_iff_of_nodup (Position.nodup_of_ascending hasc) layout.positions_nodup]
    intro p
    rw [hmem, mem_positions]
  exact Position.eq_of_perm_of_ascending hperm (hasc.imp Position.Before.le)
    (layout.positions_ascending.imp Position.Before.le)

/-- The cells of a row are listed in column order. -/
theorem filter_row_positions {layout : Layout} {row : Nat} (h : row < layout.rows.toNat) :
    layout.positions.filter (·.row.toNat = row) =
      (List.range layout.cols.toNat).map fun col => ⟨.ofNat row, .ofNat col⟩ := by
  have hrow : (UInt32.ofNat row).toNat = row := UInt32.toNat_ofNat_of_lt (Nat.lt_trans h layout.rows.toNat_lt)
  have hcol : ∀ col ∈ List.range layout.cols.toNat, (UInt32.ofNat col).toNat = col := fun col hcol =>
    UInt32.toNat_ofNat_of_lt (Nat.lt_trans (List.mem_range.mp hcol) layout.cols.toNat_lt)
  have hcells : ((List.range layout.cols.toNat).map fun col => Position.mk (.ofNat row) (.ofNat col)).Pairwise
      Position.Before := by
    rw [List.pairwise_map]
    refine List.pairwise_lt_range.imp_of_mem fun ha hb hlt => Position.before_iff.mpr (.inr ⟨rfl, ?_⟩)
    rw [hcol _ ha, hcol _ hb]
    exact hlt
  have hfilter := layout.positions_ascending.filter (·.row.toNat = row)
  -- Both lists ascend strictly, so it is enough that they have the same cells.
  have hmem : ∀ p, p ∈ layout.positions.filter (·.row.toNat = row) ↔
      p ∈ (List.range layout.cols.toNat).map fun col => Position.mk (.ofNat row) (.ofNat col) := by
    intro p
    rw [List.mem_filter, mem_positions, contains_iff, decide_eq_true_iff, List.mem_map]
    constructor
    · rintro ⟨⟨-, hin⟩, heq⟩
      exact ⟨p.col.toNat, List.mem_range.mpr hin, Position.ext_toNat (hrow.trans heq.symm) (by simp)⟩
    · rintro ⟨col, hin, rfl⟩
      rw [hrow, hcol col hin]
      exact ⟨⟨h, List.mem_range.mp hin⟩, rfl⟩
  have hperm := (List.perm_ext_iff_of_nodup (Position.nodup_of_ascending hfilter)
    (Position.nodup_of_ascending hcells)).mpr hmem
  exact Position.eq_of_perm_of_ascending hperm (hfilter.imp Position.Before.le) (hcells.imp Position.Before.le)

end Layout
end PortGrid
