import Mathlib.Data.List.Nodup
import PortGrid.Naming.Assignment

/-!
# Names that are given

Names are a list of pairs, of which the last one holds for an identifier. Where no identifier is named twice, a name
holds exactly if it has been given, so that the order of the pairs says nothing. What names are good for follows from
the name of each identifier alone, among it how many identifiers have one.

Key theorems: `Names.mem_pairs_of_get?`, `Names.get?_eq_some_iff`, `Names.get?_append_of_notMem`,
`Names.get?_eq_of_perm`, `Names.size_congr`, `Names.size_eq_length_filter`, `Names.rename_rename`.
-/

namespace PortGrid

theorem nodup_eraseDups {α : Type} [BEq α] [LawfulBEq α] : ∀ xs : List α, xs.eraseDups.Nodup
  | [] => List.nodup_nil
  | x :: xs => by
    rw [List.eraseDups_cons, List.nodup_cons]
    refine ⟨fun h => ?_, nodup_eraseDups _⟩
    simpa using (List.mem_filter.mp (List.mem_eraseDups.mp h)).2
termination_by xs => xs.length
decreasing_by exact Nat.lt_succ_of_le (List.length_filter_le _ _)

namespace Names

variable {names names' : Names} {i j : PortId} {name : String}

/-! ### The name of an identifier -/

theorem mem_pairs_of_get? (h : names.get? i = some name) : (i, name) ∈ names.pairs := by
  obtain ⟨pair, hfind, rfl⟩ := Option.map_eq_some_iff.mp h
  have hid : pair.1 = i := by simpa using List.find?_some hfind
  rw [← hid]
  exact List.mem_reverse.mp (List.mem_of_find?_eq_some hfind)

theorem get?_eq_none_iff : names.get? i = none ↔ i ∉ names.pairs.map (·.1) := by
  unfold get?
  rw [Option.map_eq_none_iff, List.find?_eq_none]
  simp only [List.mem_reverse, decide_eq_true_eq, List.mem_map, not_exists, not_and]

theorem isEmpty_pairs_iff : names.pairs.isEmpty = true ↔ ∀ i, names.get? i = none := by
  simp only [get?_eq_none_iff, List.isEmpty_iff]
  constructor
  · intro h i
    simp [h]
  · intro h
    apply List.eq_nil_iff_forall_not_mem.mpr
    intro pair hpair
    exact h pair.1 (List.mem_map_of_mem hpair)

/-- Where no identifier is named twice, a name that has been given is the name of its identifier. -/
theorem get?_eq_some_iff (hids : (names.pairs.map (·.1)).Nodup) :
    names.get? i = some name ↔ (i, name) ∈ names.pairs := by
  refine ⟨mem_pairs_of_get?, fun hmem => ?_⟩
  cases hget : names.get? i with
  | none => exact absurd (List.mem_map_of_mem hmem) (get?_eq_none_iff.mp hget)
  | some other =>
    have heq := List.inj_on_of_nodup_map hids (mem_pairs_of_get? hget) hmem rfl
    rw [(Prod.mk.inj heq).2]

/-- Names given later to other identifiers do not matter. -/
theorem get?_append_of_notMem {pairs rest : List (PortId × String)} (h : i ∉ rest.map (·.1)) :
    (mk (pairs ++ rest)).get? i = (mk pairs).get? i := by
  have hnone : rest.reverse.find? (·.1 = i) = none := by
    rw [List.find?_eq_none]
    intro pair hpair hid
    exact h (List.mem_map.mpr ⟨pair, List.mem_reverse.mp hpair, of_decide_eq_true hid⟩)
  simp only [get?, List.reverse_append, List.find?_append, hnone, Option.none_or]

/-- If no name is given twice, identifiers of the same name are the same. -/
theorem id_unique (hnames : (names.pairs.map (·.2)).Nodup) (hi : names.get? i = some name)
    (hj : names.get? j = some name) : i = j := by
  have h := List.inj_on_of_nodup_map hnames (mem_pairs_of_get? hi) (mem_pairs_of_get? hj) rfl
  exact congrArg Prod.fst h

/-- Where no identifier is named twice, the order in which names are given does not matter. -/
theorem get?_eq_of_perm (hids : (names.pairs.map (·.1)).Nodup) (hperm : names'.pairs.Perm names.pairs)
    (i : PortId) : names'.get? i = names.get? i := by
  have hids' : (names'.pairs.map (·.1)).Nodup := (hperm.map (·.1)).nodup_iff.mpr hids
  ext name
  rw [get?_eq_some_iff hids, get?_eq_some_iff hids', hperm.mem_iff]

/-! ### Names that are the same for every identifier -/

theorem nodup_ids (names : Names) : names.ids.Nodup := nodup_eraseDups _

theorem mem_ids_iff : i ∈ names.ids ↔ names.get? i ≠ none := by
  rw [ids, List.mem_eraseDups, ne_eq, get?_eq_none_iff, not_not]

theorem size_congr (h : ∀ i, names'.get? i = names.get? i) : names'.size = names.size := by
  have hperm : names'.ids.Perm names.ids := by
    rw [List.perm_ext_iff_of_nodup names'.nodup_ids names.nodup_ids]
    intro i
    rw [mem_ids_iff, mem_ids_iff, h]
  exact hperm.length_eq

/-- Where the identifiers of ports differ and no other identifier has a name, as many have one as there are ports with
one. -/
theorem size_eq_length_filter {ports : List Port} (hids : (ports.map (·.id)).Nodup)
    (hports : ∀ i, names.get? i ≠ none → i ∈ ports.map (·.id)) :
    names.size = (ports.filter fun port => (names.get? port.id).isSome).length := by
  have hperm : names.ids.Perm ((ports.filter fun port => (names.get? port.id).isSome).map (·.id)) := by
    rw [List.perm_ext_iff_of_nodup names.nodup_ids (hids.sublist (List.filter_sublist.map _))]
    intro i
    rw [mem_ids_iff, List.mem_map]
    constructor
    · intro hnamed
      obtain ⟨port, hport, rfl⟩ := List.mem_map.mp (hports i hnamed)
      exact ⟨port, List.mem_filter.mpr ⟨hport, Option.isSome_iff_ne_none.mpr hnamed⟩, rfl⟩
    · rintro ⟨port, hport, rfl⟩
      exact Option.isSome_iff_ne_none.mp (List.mem_filter.mp hport).2
  rw [size, hperm.length_eq, List.length_map]

theorem rename_rename (names : Names) (port : Port) : names.rename (names.rename port) = names.rename port := by
  unfold rename
  cases names.get? port.id <;> rfl

end Names
end PortGrid
