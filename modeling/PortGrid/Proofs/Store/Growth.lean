import PortGrid.Proofs.Equipment.Numbering
import PortGrid.Proofs.Naming.Extension
import PortGrid.Proofs.Store.Repetition

/-!
# Growing does not renumber

A device with one port on every cell that moves to a larger layout keeps its ports, and those that it gets stand on the
cells that it did not have. If only rows are added, these cells come behind all the others in row-major order. So a
pattern that has named the ports of a device gives them the same names when it is applied to the larger device: any
pattern if only rows are added, and a template whatever is added.

Key definitions: `Layout.Grows`, `Equipment.Carries`.
Key theorems: `Equipment.OnePerCell.exists_added`, `Equipment.Carries.perm_renamed_apply`, `Store.names_outlast_growth`.
-/

namespace PortGrid

/-! ### Larger layouts -/

namespace Layout

variable {old new : Layout}

/-- A layout grows under a pattern if it loses neither rows nor columns; columns are added only under a template. -/
structure Grows (old new : Layout) (pattern : NamePattern) : Prop where
  rows : old.rows ≤ new.rows
  cols : old.cols ≤ new.cols
  template : old.cols ≠ new.cols → ∃ text, pattern = .template text

theorem within_of_le (hrows : old.rows ≤ new.rows) (hcols : old.cols ≤ new.cols) : old.Within new := by
  intro cell hcell
  rw [UInt32.le_iff_toNat_le] at hrows hcols
  rw [contains_iff] at hcell ⊢
  omega

/-- Where only rows are added, the cells that come in stand behind the others. -/
theorem le_of_added (hcols : old.cols = new.cols) {p q : Position} (hp : old.contains p = true)
    (hq : q ∈ old.added new) : p.le q = true := by
  obtain ⟨hin, hout⟩ := mem_added.mp hq
  have hcol : new.cols.toNat = old.cols.toNat := by rw [hcols]
  rw [← Bool.not_eq_true, contains_iff] at hout
  rw [contains_iff] at hp hin
  rw [Position.le_iff]
  omega

end Layout

/-! ### The ports of a larger device -/

namespace Equipment

variable {e e' d : Equipment} {change : EquipmentUpdate} {layout : Layout} {label : String} {m : Moment}

theorem Relabelled.onePerCell (h : e.Relabelled e') (hone : e.OnePerCell) : e'.OnePerCell := by
  rw [onePerCell_iff, cells_eq_places] at hone ⊢
  rw [h.places, h.layout_eq]
  exact hone

theorem OnePerCell.freshCount_eq (hone : e.OnePerCell) (change : EquipmentUpdate) :
    e.freshCount change = (e.resizedBy change).elim 0 fun layout => (e.layout.added layout).length := by
  unfold freshCount
  cases e.resizedBy change with
  | none => rfl
  | some layout => simp only [vacantCells_inside, hone.gaps_eq, Option.elim_some]

/-- How many fresh ports are asked for does not change when ports are relabelled. -/
theorem Relabelled.freshCount_eq (h : e.Relabelled e') (hone : e.OnePerCell) (change : EquipmentUpdate) :
    e'.freshCount change = e.freshCount change := by
  rw [hone.freshCount_eq, (h.onePerCell hone).freshCount_eq, resizedBy, resizedBy, h.layout_eq]

theorem layout_apply (hlayout : change.layout = some layout) : (e.apply change label m).layout = layout := by
  unfold Equipment.apply
  cases hresized : e.resizedBy change with
  | none =>
    rw [resizedBy, hlayout, Option.filter_eq_none_iff] at hresized
    have hsame := hresized layout rfl
    rw [decide_eq_true_eq, not_not] at hsame
    exact hsame.symm
  | some next =>
    have hsame := (Option.filter_eq_some_iff.mp hresized).1
    rw [hlayout] at hsame
    exact (Option.some.inj hsame).symm

/-- **A device that grows keeps its ports**, and those that it gets stand on the cells that come in. -/
theorem OnePerCell.exists_added (hone : e.OnePerCell) (hlayout : change.layout = some layout)
    (hwithin : e.layout.Within layout) (label : String) (m : Moment) :
    ∃ more, (e.apply change label m).ports.Perm (e.ports ++ more) ∧
      ∀ port ∈ more, port.position ∈ e.layout.added layout := by
  cases hresized : e.resizedBy change with
  | none =>
    refine ⟨[], ?_, fun port hport => absurd hport List.not_mem_nil⟩
    rw [ports_apply_of_none label hresized, List.append_nil]
  | some next =>
    obtain rfl : next = layout :=
      Option.some.inj ((Option.filter_eq_some_iff.mp hresized).1.symm.trans hlayout)
    have hall : e.inside next = e.ports :=
      List.filter_eq_self.mpr fun port hport => hwithin _ (hone.inside port hport)
    have hperm := e.reconcile_perm next label m.portId
    rw [vacantCells_inside, hone.gaps_eq, hall] at hperm
    rw [ports_apply_of_some label hresized]
    exact ⟨_, hperm, fun port hport => position_mem_of_mem_freshPorts hport⟩

theorem OnePerCell.nodup_cells_apply (hone : e.OnePerCell) (change : EquipmentUpdate) (label : String) (m : Moment) :
    (e.apply change label m).cells.Nodup := by
  cases hresized : e.resizedBy change with
  | none =>
    rw [cells, ports_apply_of_none label hresized]
    exact hone.nodup_cells
  | some layout =>
    have hcells := cells_reconcile layout label m.portId (nodup_cells_inside layout hone.nodup_cells)
    rw [cells, ports_apply_of_some label hresized, ← cells, hcells]
    exact layout.positions_nodup

/-! ### Names in a larger device -/

/-- The ports of the device have the names that the pattern gives to them. -/
def Carries (e : Equipment) (pattern : NamePattern) : Prop :=
  ∀ port ∈ e.ports, (pattern.assign e.ports).rename port = port

theorem ports_renamed {text : String} {pattern : NamePattern} (hparse : NamePattern.parse text = .ok pattern)
    (now : Timestamp) : (e.renamed text now).ports = e.ports.map (pattern.assign e.ports).rename := by
  have hports : (e.withNames (pattern.assign e.ports)).ports = e.ports.map (pattern.assign e.ports).rename := rfl
  rw [renamed_of_ok (assignNames_of_parse hparse e.ports), ← hports]
  split
  · rename_i hempty
    rw [withNames_of_isEmpty hempty]
  · rfl

theorem carries_renamed {text : String} {pattern : NamePattern} (hparse : NamePattern.parse text = .ok pattern)
    (now : Timestamp) : (e.renamed text now).Carries pattern := by
  have hassign : pattern.assign (e.renamed text now).ports = pattern.assign e.ports :=
    pattern.assign_congr (e.places_renamed text now)
  intro port hport
  rw [ports_renamed hparse] at hport
  obtain ⟨old, -, rfl⟩ := List.mem_map.mp hport
  rw [hassign]
  exact Names.rename_rename _ old

/-- **Ports keep their names when the device grows.** After the pattern is applied to the larger device, its ports with
the identifiers from before are the ports from before. -/
theorem Carries.perm_renamed_apply {text : String} {pattern : NamePattern} (hcarries : d.Carries pattern)
    (hparse : NamePattern.parse text = .ok pattern) (hone : d.OnePerCell) (hids : d.portIds.Nodup)
    (hlayout : change.layout = some layout) (hgrows : d.layout.Grows layout pattern)
    (hfresh : FreshIds m.portId (d.freshCount change) d.portIds) (label : String) (now : Timestamp) :
    (((d.apply change label m).renamed text now).ports.filter (·.id ∈ d.portIds)).Perm d.ports := by
  obtain ⟨more, hperm, hadded⟩ :=
    hone.exists_added hlayout (Layout.within_of_le hgrows.rows hgrows.cols) label m
  have hids' : (d.apply change label m).portIds.Nodup := nodup_portIds_apply label hids (List.Subset.refl _) hfresh
  have hbehind : (∃ template, pattern = .template template) ∨
      ∀ p ∈ d.ports, ∀ q ∈ more, p.position.le q.position = true := by
    by_cases hcols : d.layout.cols = layout.cols
    · exact .inr fun p hp q hq => Layout.le_of_added hcols (hone.inside p hp) (hadded q hq)
    · exact .inl (hgrows.template hcols)
  have hsame : ∀ port ∈ d.ports, (pattern.assign (d.apply change label m).ports).rename port = port := by
    intro port hport
    have hget := pattern.get?_assign_of_added hperm hids' (hone.nodup_cells_apply change label m) hbehind
      (List.mem_map_of_mem (f := fun port : Port => port.id) hport)
    rw [Names.rename, hget]
    exact hcarries port hport
  have hother : ∀ port ∈ more, port.id ∉ d.portIds := by
    have hnodup : ((d.ports ++ more).map (·.id)).Nodup := (hperm.map _).nodup_iff.mp hids'
    rw [List.map_append, List.nodup_append] at hnodup
    exact fun port hport hid => hnodup.2.2 _ hid _ (List.mem_map_of_mem hport) rfl
  have hrenamed : ((d.apply change label m).renamed text now).ports.Perm
      (d.ports ++ more.map (pattern.assign (d.apply change label m).ports).rename) := by
    rw [ports_renamed hparse]
    have h := hperm.map (pattern.assign (d.apply change label m).ports).rename
    rwa [List.map_append, List.map_congr_left hsame, List.map_id'] at h
  -- Of the ports behind, no one has an identifier from before.
  have hold : (d.ports ++ more.map (pattern.assign (d.apply change label m).ports).rename).filter
      (·.id ∈ d.portIds) = d.ports := by
    rw [List.filter_append, List.filter_eq_self.mpr, List.filter_eq_nil_iff.mpr, List.append_nil]
    · intro port hport
      obtain ⟨q, hq, rfl⟩ := List.mem_map.mp hport
      exact fun hid => hother q hq (of_decide_eq_true hid)
    · intro port hport
      exact decide_eq_true (List.mem_map_of_mem hport)
  exact hold ▸ hrenamed.filter _

end Equipment

/-! ### Names in a store -/

theorem Operation.effect_update {s : State} {id : EquipmentId} {e : Equipment} (he : s.equipment? id = some e)
    (m : Moment) (change : EquipmentUpdate) : (Operation.update id change).effect m s =
      (.ok .done, s.modifyEquipment id (·.apply change s.portLabel m)) := by
  simp only [effect, plan, State.require_of_found he]
  rfl

namespace Store

variable {β : Type} [Backend β] {s : Store β} {m m₁ m₂ m₃ : Moment} {id : EquipmentId} {e : Equipment}
  {change : EquipmentUpdate} {layout : Layout} {text : String} {pattern : NamePattern}

theorem equipment?_rename (he : s.state.equipment? id = some e) (hok : (s.perform m (.rename id text)).Unfailed) :
    (s.perform m (.rename id text)).store.state.equipment? id = some (e.renamed text m.now) := by
  rw [(perform_rename_of_unfailed hok).2]
  exact State.equipment?_modifyEquipment (fun e => e.id_renamed text m.now) he

theorem equipment?_update (he : s.state.equipment? id = some e) (hok : (s.perform m (.update id change)).Unfailed) :
    (s.perform m (.update id change)).store.state.equipment? id = some (e.apply change s.state.portLabel m) := by
  rw [(perform_of_unfailed hok).2, Operation.effect_update he]
  exact State.equipment?_modifyEquipment (fun e => Equipment.id_apply s.state.portLabel) he

/-- **Growing does not renumber.** Let a device with one port on every cell and with identifiers that differ be renamed
by a pattern, moved to a layout that it grows to, with fresh identifiers for the ports that come in, and renamed by the
same pattern again, all without a failing write. Its ports with the identifiers from before are then exactly those that
it had behind the first rename, with the names that they had there, whether from the pattern or not. -/
theorem names_outlast_growth (he : s.state.equipment? id = some e) (hone : e.OnePerCell) (hids : e.portIds.Nodup)
    (hparse : NamePattern.parse text = .ok pattern) (hlayout : change.layout = some layout)
    (hgrows : e.layout.Grows layout pattern) (hfresh : FreshIds m₂.portId (e.freshCount change) e.portIds)
    (hok : s.UnfailedRun [(m₁, .rename id text), (m₂, .update id change), (m₃, .rename id text)]) :
    ∃ e₁ e₃, (s.run [(m₁, .rename id text)]).state.equipment? id = some e₁ ∧
      (s.run [(m₁, .rename id text), (m₂, .update id change), (m₃, .rename id text)]).state.equipment? id = some e₃ ∧
      e₁.places = e.places ∧ e₃.layout = layout ∧ (e₃.ports.filter (·.id ∈ e.portIds)).Perm e₁.ports := by
  obtain ⟨hok₁, hok₂, hok₃, -⟩ := hok
  have he₁ := equipment?_rename he hok₁
  have he₂ := equipment?_update he₁ hok₂
  have he₃ := equipment?_rename he₂ hok₃
  have hrelabelled := e.relabelled_renamed text m₁.now
  refine ⟨_, _, he₁, he₃, hrelabelled.places, ?_, ?_⟩
  · rw [(Equipment.relabelled_renamed _ text m₃.now).layout_eq, Equipment.layout_apply hlayout]
  have hfresh₁ : FreshIds m₂.portId ((e.renamed text m₁.now).freshCount change) (e.renamed text m₁.now).portIds := by
    rw [hrelabelled.freshCount_eq hone, hrelabelled.portIds_eq]
    exact hfresh
  rw [← hrelabelled.portIds_eq] at hids ⊢
  rw [← hrelabelled.layout_eq] at hgrows
  exact (Equipment.carries_renamed hparse m₁.now).perm_renamed_apply hparse (hrelabelled.onePerCell hone) hids hlayout
    hgrows hfresh₁ _ m₃.now

/-- A store with a row of two ports in memory. -/
def rowStore : Store MemoryStorage := ⟨{}, {}, { equipments := [Equipment.rowOfTwo] }⟩

/-- The row is renamed, made a square, and renamed again. -/
def rowToSquare : List (Moment × Operation) :=
  [(.numbered 1, .rename ⟨"row"⟩ "E1/1"), (.numbered 2, .update ⟨"row"⟩ { layout := some Equipment.toSquare.layout }),
    (.numbered 3, .rename ⟨"row"⟩ "E1/1")]

/-- The square has the two ports of the row, with the first two names. -/
theorem names_outlast_growth_square :
    ∃ e, (rowStore.run rowToSquare).state.equipment? ⟨"row"⟩ = some e ∧ e.layout = Equipment.toSquare.layout ∧
      (e.ports.filter (·.id ∈ [⟨"b"⟩, ⟨"a"⟩])).Perm
        [.fresh ⟨"b"⟩ "E1/2" ⟨0, 1⟩, ⟨⟨"a"⟩, "E1/1", .needsCheck, ⟨0, 0⟩, some "loose"⟩] := by
  have hone : Equipment.rowOfTwo.OnePerCell := Equipment.onePerCell_iff.mpr (by decide)
  have hparse : NamePattern.parse "E1/1" = .ok (.increment "E" ⟨1, 1⟩) := by decide +kernel
  have hgrows : Equipment.rowOfTwo.layout.Grows Equipment.toSquare.layout (.increment "E" ⟨1, 1⟩) :=
    ⟨by decide, by decide, fun h => absurd rfl h⟩
  have hfresh : FreshIds (Moment.numbered 2).portId
      (Equipment.rowOfTwo.freshCount { layout := some Equipment.toSquare.layout }) Equipment.rowOfTwo.portIds := by
    have hcount : Equipment.rowOfTwo.freshCount { layout := some Equipment.toSquare.layout } = 2 := by decide
    rw [hcount]
    exact ⟨by decide +kernel, by decide +kernel⟩
  have hok : rowStore.UnfailedRun rowToSquare := unfailedRun_of_neverRefuses MemoryStorage.neverRefuses _ trivial
  obtain ⟨e₁, e₃, he₁, he₃, -, hlayout, hports⟩ :=
    names_outlast_growth (s := rowStore) rfl hone (by decide) hparse rfl hgrows hfresh hok
  refine ⟨e₃, he₃, hlayout, ?_⟩
  -- The row is sorted by its cells, and so its right port has the second name.
  have hsorted : Equipment.sortPorts Equipment.rowOfTwo.ports = Equipment.rowOfTwo.ports.reverse :=
    (Equipment.sortPorts_eq_of_perm (by decide) (List.reverse_perm _)).symm.trans
      (List.mergeSort_of_pairwise (by decide))
  have hnames : Equipment.rowOfTwo.ports.map
      ((NamePattern.increment "E" ⟨1, 1⟩).assign Equipment.rowOfTwo.ports).rename =
      [.fresh ⟨"b"⟩ "E1/2" ⟨0, 1⟩, ⟨⟨"a"⟩, "E1/1", .needsCheck, ⟨0, 0⟩, some "loose"⟩] := by
    rw [NamePattern.assign, hsorted]
    decide +kernel
  have hrow : rowStore.state.equipment? ⟨"row"⟩ = some Equipment.rowOfTwo := rfl
  have hfound := equipment?_rename hrow hok.1
  rw [run, run] at he₁
  have hdevice : e₁ = _ := Option.some.inj (he₁.symm.trans hfound)
  rwa [hdevice, Equipment.ports_renamed hparse, hnames] at hports

end Store
end PortGrid
