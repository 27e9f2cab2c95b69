import PortGrid.Proofs.Equipment
import PortGrid.Proofs.Store.Edits
import PortGrid.Proofs.Store.Run

/-!
# Grids stay full along every run

A state is good if all its equipment is. An operation creates equipment, moves one piece to another layout, edits ports
where they stand, or removes equipment whole; so it keeps a state good as long as the identifiers that it draws for
ports are not in use. By induction a run does so too, whatever becomes of its writes.

Key definitions: `State.Good`, `Operation.freshCount`, `Store.FreshRun`.
Key theorems: `Changes.good`, `Store.good_run`.
-/

namespace PortGrid

/-! ### Editing ports where they stand -/

namespace Equipment

theorem places_modifyPort (e : Equipment) (id : PortId) (change : PortUpdate) :
    (e.modifyPort id (·.apply change)).places = e.places := by
  unfold places modifyPort
  apply map_modifyFirst
  intro port
  rfl

theorem places_withNames (e : Equipment) (names : Names) : (e.withNames names).places = e.places := by
  unfold places withNames
  rw [List.map_map]
  rfl

theorem Good.modifyPort {e : Equipment} (h : e.Good) (id : PortId) (change : PortUpdate) :
    (e.modifyPort id (·.apply change)).Good :=
  h.of_eq rfl (e.places_modifyPort id change)

theorem Good.withNames {e : Equipment} (h : e.Good) (names : Names) : (e.withNames names).Good :=
  h.of_eq rfl (e.places_withNames names)

theorem Good.touch {e : Equipment} (h : e.Good) (now : Timestamp) : (e.touch now).Good :=
  h.of_eq rfl rfl

end Equipment

/-! ### States -/

namespace State

/-- All equipment is good. -/
def Good (s : State) : Prop := ∀ e ∈ s.equipments, e.Good

def portIds (s : State) : List PortId := s.equipments.flatMap Equipment.portIds

theorem mem_of_equipment? {s : State} {id : EquipmentId} {e : Equipment} (h : s.equipment? id = some e) :
    e ∈ s.equipments :=
  List.mem_of_find?_eq_some h

theorem id_of_equipment? {s : State} {id : EquipmentId} {e : Equipment} (h : s.equipment? id = some e) : e.id = id := by
  have hfind : s.equipments.find? (·.id = id) = some e := h
  simpa using List.find?_some hfind

theorem portIds_subset {s : State} {e : Equipment} (h : e ∈ s.equipments) : e.portIds ⊆ s.portIds :=
  fun _ hid => List.mem_flatMap.mpr ⟨e, h, hid⟩

/-- What holds of all equipment still does if it holds of the piece that is changed. -/
theorem forall_modifyEquipment {P : Equipment → Prop} {s : State} (h : ∀ e ∈ s.equipments, P e) {id : EquipmentId}
    {f : Equipment → Equipment} (hf : ∀ e, s.equipment? id = some e → P e → P (f e)) :
    ∀ e ∈ (s.modifyEquipment id f).equipments, P e := by
  intro e he
  rcases mem_modifyFirst he with he | ⟨e, hfound, rfl⟩
  · exact h e he
  · exact hf e hfound (h e (mem_of_equipment? hfound))

end State

/-- How many identifiers an operation draws for ports. -/
def Operation.freshCount (s : State) : Operation → Nat
  | .add draft => draft.layout.portCount
  | .update id change =>
    match s.equipment? id with
    | some e => e.freshCount change
    | none => 0
  | _ => 0

theorem Operation.freshCount_update {s : State} {id : EquipmentId} {e : Equipment} (he : s.equipment? id = some e)
    (change : EquipmentUpdate) : (Operation.update id change).freshCount s = e.freshCount change := by
  rw [freshCount, he]

/-- **Every change keeps a state good**, if the identifiers that it draws are not in use. -/
theorem Changes.good {m : Moment} {s next : State} {op : Operation} {reply : Reply} (h : Changes m s op next reply)
    (hgood : s.Good) (hfresh : FreshIds m.portId (op.freshCount s) s.portIds) : next.Good := by
  cases h with
  | add draft =>
    intro e he
    rcases List.mem_append.mp he with he | he
    · exact hgood e he
    · rw [List.mem_singleton.mp he]
      exact draft.good_build s.portLabel hfresh
  | update _ =>
    apply State.forall_modifyEquipment hgood
    intro e he h
    rw [Operation.freshCount_update he] at hfresh
    exact h.apply s.portLabel (State.portIds_subset (State.mem_of_equipment? he)) hfresh
  | delete he => exact fun e he => hgood e (List.mem_filter.mp he).1
  | deselect => exact hgood
  | select he => exact hgood
  | updatePort _ _ => exact State.forall_modifyEquipment hgood fun e _ h => (h.modifyPort _ _).touch m.now
  | rename _ _ _ => exact State.forall_modifyEquipment hgood fun e _ h => (h.withNames _).touch m.now
  | setFilter change => exact hgood
  | clearFilter => exact hgood
  | toggleDark => exact hgood
  | setLanguage language => exact hgood

/-! ### Runs -/

namespace Store

variable {β : Type} [Backend β]

/-- Along the run no operation draws an identifier for a port that is in use when it is drawn. -/
def FreshRun (s : Store β) : List (Moment × Operation) → Prop
  | [] => True
  | (m, op) :: ops => FreshIds m.portId (op.freshCount s.state) s.state.portIds ∧ (s.perform m op).store.FreshRun ops

theorem good_perform {s : Store β} (hgood : s.state.Good) {m : Moment} {op : Operation}
    (hfresh : FreshIds m.portId (op.freshCount s.state) s.state.portIds) : (s.perform m op).store.state.Good := by
  rcases (step_perform s m op).state_cases with hsame | ⟨reply, -, hchanges⟩
  · rw [hsame]
    exact hgood
  · exact hchanges.good hgood hfresh

theorem state_good_run : ∀ (ops : List (Moment × Operation)) {s : Store β}, s.state.Good → s.FreshRun ops →
    (s.run ops).state.Good
  | [], _, hgood, _ => hgood
  | (_, _) :: ops, _, hgood, ⟨hfresh, hrest⟩ => state_good_run ops (good_perform hgood hfresh) hrest

theorem good_of_load_none {config : StoreConfig} {b : β} {s : Store β} {events : List Event}
    (hload : load b config.storageKey = .ok none) (hopen : openWith config b = .ok (s, events)) : s.state.Good := by
  unfold openWith at hopen
  rw [hload] at hopen
  cases hopen
  exact fun e he => absurd he List.not_mem_nil

/-- **Grids stay full.** If all equipment is good at first, it is good after any operations, performed or refused, and
so passes the check. -/
theorem good_run {s : Store β} (hgood : s.state.Good) {ops : List (Moment × Operation)} (hfresh : s.FreshRun ops) :
    ∀ e ∈ (s.run ops).state.equipments, e.Good ∧ e.validate = .ok () := by
  intro e he
  have h := state_good_run ops hgood hfresh e he
  exact ⟨h, h.validate⟩

/-- A device with two ports in a row, and then two rows of them. -/
def growth : List (Moment × Operation) :=
  [(.numbered 0, .add { name := "switch", layout := ⟨1, 2, one_pos, two_pos⟩ }),
    (.numbered 2, .update ⟨"0"⟩ { layout := some ⟨2, 2, two_pos, two_pos⟩ })]

/-- The device that grows in a store on an empty storage is good. -/
theorem good_run_growth :
    ((fresh ({} : MemoryStorage)).run growth).state.equipments.length = 1 ∧
      ∀ e ∈ ((fresh ({} : MemoryStorage)).run growth).state.equipments, e.Good ∧ e.validate = .ok () := by
  have hopen : openWith {} ({} : MemoryStorage) = .ok (fresh {}, [.startedEmpty "port-status-storage"]) := rfl
  have hadd : FreshIds (Moment.numbered 0).portId 2 [] := ⟨by decide +kernel, by decide +kernel⟩
  have hgrow : FreshIds (Moment.numbered 2).portId 2 [⟨"0"⟩, ⟨"1"⟩] := ⟨by decide +kernel, by decide +kernel⟩
  have hfresh : (fresh ({} : MemoryStorage)).FreshRun growth := ⟨hadd, hgrow, trivial⟩
  exact ⟨by decide +kernel, good_run (good_of_load_none rfl hopen) hfresh⟩

end Store
end PortGrid
