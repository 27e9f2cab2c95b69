import Mathlib.Logic.Function.Iterate
import PortGrid.Proofs.Naming.Names
import PortGrid.Proofs.Text.Reading

/-!
# Walks over names

A range and an increment are walks of one kind: the ports get the names of one place after another until the walk has
ended. They differ in the next place and in the end. So the port that stands `k`-th gets the name of the place behind
`k` steps, unless the walk has ended on the way, and nothing of a port matters but its identifier. Every next place lies
strictly ahead, and different places have different names behind the same letters, so that no name on a walk comes back.

Key definitions: `Cursor.Before`, `walk`.
Key theorems: `Cursor.name_injective`, `rangeNames_eq_walk`, `incrementNames_eq_walk`, `mem_walk_iff`, `get?_walk`,
`walk_congr`, `walk_names_nodup`.
-/

namespace PortGrid
namespace Cursor

/-! ### Places in order -/

/-- Strictly before, row by row. -/
def Before (c d : Cursor) : Prop := c.row < d.row ∨ (c.row = d.row ∧ c.col < d.col)

theorem Before.trans {c d e : Cursor} (hcd : c.Before d) (hde : d.Before e) : c.Before e := by
  unfold Before at *
  omega

theorem Before.ne {c d : Cursor} (h : c.Before d) : c ≠ d := by
  rintro rfl
  unfold Before at h
  omega

theorem before_nextRow (c : Cursor) (col : Nat) : c.Before ⟨c.row + 1, col⟩ := .inl (Nat.lt_succ_self _)

theorem before_nextCol (c : Cursor) : c.Before ⟨c.row, c.col + 1⟩ := .inr ⟨rfl, Nat.lt_succ_self _⟩

theorem before_nextInRange (start stop c : Cursor) : c.Before (c.nextInRange start stop) := by
  unfold nextInRange
  split
  · exact before_nextRow c _
  · exact before_nextCol c

theorem before_nextInIncrement (c : Cursor) : c.Before c.nextInIncrement := by
  unfold nextInIncrement
  split
  · exact before_nextRow c _
  · exact before_nextCol c

/-! ### Names of places -/

theorem toList_name (c : Cursor) (stem : String) :
    (c.name stem).toList = stem.toList ++ (Nat.toDigits 10 c.row ++ '/' :: Nat.toDigits 10 c.col) := by
  simp [name, toString, Nat.repr]

/-- Different places have different names, the digits of the row being stopped by the slash. -/
theorem name_injective (stem : String) : Function.Injective (Cursor.name · stem) := by
  intro c d h
  have h := congrArg String.toList h
  rw [toList_name, toList_name] at h
  obtain ⟨hrow, hrest⟩ := run_unique (Digits.toDigits c.row) (stops_cons (by decide) _) (Digits.toDigits d.row)
    (stops_cons (by decide) _) (List.append_cancel_left h)
  have hcol := (List.cons.inj hrest).2
  cases c
  cases d
  rw [mk.injEq]
  exact ⟨toDigits_injective hrow, toDigits_injective hcol⟩

end Cursor

/-! ### Walks -/

/-- Names the ports in turn, from place to place, until the walk has ended. -/
def walk (next : Cursor → Cursor) (ended : Cursor → Bool) (stem : String) :
    Cursor → List Port → List (PortId × String)
  | _, [] => []
  | c, port :: ports => if ended c then [] else (port.id, c.name stem) :: walk next ended stem (next c) ports

theorem rangeNames_eq_walk (stem : String) (start stop c : Cursor) (ports : List Port) :
    rangeNames stem start stop c ports = walk (·.nextInRange start stop) (·.isPast stop) stem c ports := by
  induction ports generalizing c with
  | nil => rfl
  | cons port ports ih => rw [rangeNames, walk, ih]

theorem incrementNames_eq_walk (stem : String) (c : Cursor) (ports : List Port) :
    incrementNames stem c ports = walk Cursor.nextInIncrement (fun _ => false) stem c ports := by
  induction ports generalizing c with
  | nil => rfl
  | cons port ports ih => rw [incrementNames, walk, ih]; rfl

section Walk

variable {next : Cursor → Cursor} {ended : Cursor → Bool} {stem : String} {ports : List Port}

/-- A walk gives the `k`-th port the name of the place behind `k` steps, unless it has ended by then. -/
theorem mem_walk_iff {c : Cursor} {pair : PortId × String} :
    pair ∈ walk next ended stem c ports ↔
      ∃ k port, ports[k]? = some port ∧ (∀ j ≤ k, ended (next^[j] c) = false) ∧
        pair = (port.id, (next^[k] c).name stem) := by
  induction ports generalizing c with
  | nil => simp [walk]
  | cons port ports ih =>
    rw [walk]
    constructor
    · intro h
      split at h
      · cases h
      · rename_i hlive
        have hlive : ended c = false := by simpa using hlive
        rcases List.mem_cons.mp h with rfl | h
        · refine ⟨0, port, rfl, fun j hj => ?_, rfl⟩
          obtain rfl := Nat.le_zero.mp hj
          exact hlive
        · obtain ⟨k, p, hp, hrest, rfl⟩ := ih.mp h
          refine ⟨k + 1, p, hp, fun j hj => ?_, rfl⟩
          cases j with
          | zero => exact hlive
          | succ j => exact hrest j (Nat.le_of_succ_le_succ hj)
    · rintro ⟨k, p, hp, hlive, rfl⟩
      have hhead : ended c = false := hlive 0 (Nat.zero_le k)
      rw [hhead, if_neg Bool.false_ne_true]
      cases k with
      | zero =>
        cases hp
        exact List.mem_cons_self
      | succ k =>
        have hrest : ∀ j ≤ k, ended (next^[j] (next c)) = false := fun j hj => hlive (j + 1) (Nat.succ_le_succ hj)
        exact List.mem_cons_of_mem _ (ih.mpr ⟨k, p, hp, hrest, rfl⟩)

/-- A walk gives names to the first of the ports, each once. -/
theorem walk_ids_initial (c : Cursor) : (walk next ended stem c ports).map (·.1) <+: ports.map (·.id) := by
  induction ports generalizing c with
  | nil => exact List.prefix_rfl
  | cons port ports ih =>
    rw [walk]
    split
    · exact List.nil_prefix
    · rw [List.map_cons, List.map_cons]
      exact List.cons_prefix_cons.mpr ⟨rfl, ih (next c)⟩

/-- Where the identifiers of the ports differ, the `k`-th port has the name of the place behind `k` steps, or none if
the walk has ended by then. -/
theorem get?_walk (hids : (ports.map (·.id)).Nodup) {k : Nat} {port : Port} (hport : ports[k]? = some port)
    (c : Cursor) : (Names.mk (walk next ended stem c ports)).get? port.id =
      if ∀ j ≤ k, ended (next^[j] c) = false then some ((next^[k] c).name stem) else none := by
  have hindex : ∀ {i : Nat} {p : Port}, ports[i]? = some p → p.id = port.id → i = k := by
    intro i p hp hid
    have hlt : i < (ports.map (·.id)).length := by
      rw [List.length_map]
      exact (List.getElem?_eq_some_iff.mp hp).1
    refine (List.getElem?_inj hlt hids).mp ?_
    rw [List.getElem?_map, List.getElem?_map, hp, hport, Option.map_some, Option.map_some, hid]
  ext name
  rw [Names.get?_eq_some_iff (hids.sublist (walk_ids_initial c).sublist), mem_walk_iff, Option.ite_none_right_eq_some]
  constructor
  · rintro ⟨i, p, hp, hlive, heq⟩
    obtain ⟨hid, hname⟩ := Prod.mk.inj heq
    obtain rfl := hindex hp hid.symm
    exact ⟨hlive, congrArg some hname.symm⟩
  · rintro ⟨hlive, hname⟩
    exact ⟨k, port, hport, hlive, Prod.ext rfl (Option.some.inj hname).symm⟩

theorem get?_walk_of_notMem {id : PortId} (hid : id ∉ ports.map (·.id)) (c : Cursor) :
    (Names.mk (walk next ended stem c ports)).get? id = none :=
  Names.get?_eq_none_iff.mpr fun h => hid ((walk_ids_initial c).subset h)

/-- A walk looks at the identifiers of the ports alone. -/
theorem walk_congr : ∀ {ports ports' : List Port} (c : Cursor), ports'.map (·.id) = ports.map (·.id) →
    walk next ended stem c ports' = walk next ended stem c ports
  | [], [], _, _ => rfl
  | [], _ :: _, _, h => by cases h
  | _ :: _, [], _, h => by cases h
  | port :: ports, port' :: ports', c, h => by
    rw [List.map_cons, List.map_cons, List.cons.injEq] at h
    obtain ⟨hid, hrest⟩ := h
    rw [walk, walk, hid, walk_congr (next c) hrest]

/-! ### Walks that go ahead -/

theorem before_iterate (hnext : ∀ c : Cursor, c.Before (next c)) {b c : Cursor} (hbc : b.Before c) (k : Nat) :
    b.Before (next^[k] c) := by
  induction k generalizing c with
  | zero => exact hbc
  | succ k ih => exact ih (hbc.trans (hnext c))

/-- No name on a walk that goes ahead comes back. -/
theorem walk_names_nodup (hnext : ∀ c : Cursor, c.Before (next c)) (c : Cursor) :
    ((walk next ended stem c ports).map (·.2)).Nodup := by
  induction ports generalizing c with
  | nil => exact List.nodup_nil
  | cons port ports ih =>
    rw [walk]
    split
    · exact List.nodup_nil
    · rw [List.map_cons, List.nodup_cons]
      refine ⟨fun hmem => ?_, ih (next c)⟩
      obtain ⟨pair, hpair, hname⟩ := List.mem_map.mp hmem
      obtain ⟨k, _, _, _, rfl⟩ := mem_walk_iff.mp hpair
      have hahead := before_iterate hnext (hnext c) k
      exact hahead.ne (Cursor.name_injective stem hname.symm)

end Walk

end PortGrid
