import PortGrid.Proofs.Store.Goodness

/-!
# Ports stay where they are

A port of a device is its identifier on a cell. Most operations leave all places alone. A device that is added brings
places with identifiers drawn for them; one that is deleted takes its places away; and one that is changed keeps those
inside its layout and gets others with identifiers drawn for them. No operation moves a port.

If no identifier is drawn twice, a port that is gone does not come back, and so a port that is there in two states of a
run is on the same cell in both and in every state between. The run is followed backwards: a port in the next state was
on its cell before, unless its identifier was drawn in the step, and an identifier that was in use earlier was not.

Key definitions: `State.places`, `State.Located`, `State.Distinct`, `Operation.TakesAway`, `Operation.DrawsNew`,
`Store.NeverRepeats`.
Key theorems: `Changes.places_cases`, `Changes.located`, `Changes.of_located`, `Changes.distinct`,
`Store.located_backwards`, `Store.port_permanent`.
-/

namespace PortGrid

/-! ### States -/

namespace State

def equipmentIds (s : State) : List EquipmentId := s.equipments.map (·.id)

/-- The equipment with the places of its ports, in its order. -/
def places (s : State) : List (EquipmentId × List (PortId × Position)) := s.equipments.map fun e => (e.id, e.places)

/-- The equipment has the port on the cell. -/
def Located (s : State) (id : EquipmentId) (port : PortId) (cell : Position) : Prop :=
  ∃ e ∈ s.equipments, e.id = id ∧ (port, cell) ∈ e.places

/-- Equipment differs in its identifiers, and so do the ports of each piece. -/
structure Distinct (s : State) : Prop where
  equipment : s.equipmentIds.Nodup
  ports : ∀ e ∈ s.equipments, e.portIds.Nodup

variable {s s' : State} {id : EquipmentId} {port : PortId} {cell cell' : Position}

theorem mem_equipmentIds {e : Equipment} (he : s.equipment? id = some e) : id ∈ s.equipmentIds :=
  id_of_equipment? he ▸ List.mem_map_of_mem (mem_of_equipment? he)

theorem equipmentIds_modifyEquipment {f : Equipment → Equipment} (hid : ∀ e, (f e).id = e.id) :
    (s.modifyEquipment id f).equipmentIds = s.equipmentIds :=
  map_modifyFirst _ f _ hid _

theorem located_iff : s.Located id port cell ↔ ∃ ps, (id, ps) ∈ s.places ∧ (port, cell) ∈ ps := by
  constructor
  · rintro ⟨e, he, rfl, hplace⟩
    exact ⟨e.places, List.mem_map_of_mem he, hplace⟩
  · rintro ⟨ps, hmem, hplace⟩
    obtain ⟨e, he, heq⟩ := List.mem_map.mp hmem
    obtain ⟨hid, rfl⟩ := Prod.mk.inj heq
    exact ⟨e, he, hid, hplace⟩

theorem distinct_iff : s.Distinct ↔ (s.places.map (·.1)).Nodup ∧ ∀ ps ∈ s.places, (ps.2.map (·.1)).Nodup := by
  have hids : s.places.map (·.1) = s.equipmentIds := by
    rw [places, List.map_map]
    rfl
  have hports : (∀ ps ∈ s.places, (ps.2.map (·.1)).Nodup) ↔ ∀ e ∈ s.equipments, e.portIds.Nodup := by
    rw [places, List.forall_mem_map]
    simp only [Equipment.portIds_eq_places]
  rw [hids, hports]
  exact ⟨fun h => ⟨h.equipment, h.ports⟩, fun h => ⟨h.1, h.2⟩⟩

theorem located_congr (h : s'.places = s.places) : s'.Located id port cell ↔ s.Located id port cell := by
  rw [located_iff, located_iff, h]

theorem distinct_congr (h : s'.places = s.places) : s'.Distinct ↔ s.Distinct := by
  rw [distinct_iff, distinct_iff, h]

theorem Located.mem_portIds (h : s.Located id port cell) : port ∈ s.portIds := by
  obtain ⟨e, he, -, hplace⟩ := h
  exact portIds_subset he (Equipment.mem_portIds_of_mem_places hplace)

theorem Distinct.cell_unique (hs : s.Distinct) (h : s.Located id port cell) (h' : s.Located id port cell') :
    cell = cell' := by
  obtain ⟨e, he, rfl, hplace⟩ := h
  obtain ⟨e', he', hid, hplace'⟩ := h'
  obtain rfl := List.inj_on_of_nodup_map hs.equipment he' he hid
  exact Equipment.place_unique (hs.ports e' he) hplace hplace'

theorem places_modifyEquipment {f : Equipment → Equipment} (hid : ∀ e, (f e).id = e.id)
    (hplaces : ∀ e, (f e).places = e.places) : (s.modifyEquipment id f).places = s.places := by
  unfold places modifyEquipment
  apply map_modifyFirst
  intro e
  rw [hid, hplaces]

end State

/-! ### Changes -/

/-- The operation takes the cell away from the equipment: it deletes it, or gives it a layout without the cell. -/
inductive Operation.TakesAway : Operation → EquipmentId → Position → Prop where
  | delete (id : EquipmentId) (cell : Position) : TakesAway (.delete id) id cell
  | update {id : EquipmentId} {change : EquipmentUpdate} {layout : Layout} {cell : Position}
    (hlayout : change.layout = some layout) (hout : layout.contains cell = false) :
    TakesAway (.update id change) id cell

/-- What the operation draws at a moment from a state is not in use in a past state. -/
structure Operation.DrawsNew (op : Operation) (m : Moment) (s past : State) : Prop where
  ports : FreshIds m.portId (op.freshCount s) past.portIds
  equipment : ∀ draft, op = .add draft → m.equipmentId ∉ past.equipmentIds

theorem Operation.DrawsNew.of_draws_nothing {op : Operation} {m : Moment} {s past : State}
    (hcount : op.freshCount s = 0) (hop : ∀ draft, op ≠ .add draft) : op.DrawsNew m s past := by
  refine ⟨⟨fun i hi => ?_, fun i hi => ?_⟩, fun draft h => absurd h (hop draft)⟩
  · omega
  · omega

namespace Changes

variable {m : Moment} {s next : State} {op : Operation} {reply : Reply}

/-- Only the addition, the change and the deletion of equipment touch the places of ports. -/
theorem places_cases (h : Changes m s op next reply) :
    next.places = s.places ∨
      (∃ draft, op = .add draft ∧ next.equipments = s.equipments ++ [draft.build s.portLabel m]) ∨
      (∃ id change, op = .update id change ∧ next = s.modifyEquipment id (·.apply change s.portLabel m)) ∨
      ∃ id, op = .delete id ∧ next = s.eraseEquipment id := by
  cases h with
  | add draft => exact .inr (.inl ⟨draft, rfl, rfl⟩)
  | update he => exact .inr (.inr (.inl ⟨_, _, rfl, rfl⟩))
  | delete he => exact .inr (.inr (.inr ⟨_, rfl, rfl⟩))
  | updatePort he hp =>
    refine .inl (State.places_modifyEquipment ?_ fun e => ?_)
    · exact fun _ => rfl
    · exact e.places_modifyPort _ _
  | rename he hnames hne =>
    refine .inl (State.places_modifyEquipment ?_ fun e => ?_)
    · exact fun _ => rfl
    · exact e.places_withNames _
  | deselect => exact .inl rfl
  | select he => exact .inl rfl
  | setFilter change => exact .inl rfl
  | clearFilter => exact .inl rfl
  | toggleDark => exact .inl rfl
  | setLanguage language => exact .inl rfl

variable {id : EquipmentId} {port : PortId} {cell : Position}

/-- **A port stays on its cell**, unless the change takes the cell away from its equipment. -/
theorem located (h : Changes m s op next reply) (hl : s.Located id port cell) :
    next.Located id port cell ∨ op.TakesAway id cell := by
  rcases h.places_cases with hsame | ⟨draft, rfl, hnext⟩ | ⟨id', change, rfl, rfl⟩ | ⟨id', rfl, rfl⟩
  · exact .inl ((State.located_congr hsame).mpr hl)
  · obtain ⟨e, he, hid, hplace⟩ := hl
    exact .inl ⟨e, hnext ▸ List.mem_append_left _ he, hid, hplace⟩
  · obtain ⟨e, he, rfl, hplace⟩ := hl
    -- Equipment of this identifier need not be the one that is changed: only the first in the list is.
    rcases mem_modifyFirst_of_mem (·.id = id') (·.apply change s.portLabel m) he with hmem | ⟨htest, hmem⟩
    · exact .inl ⟨e, hmem, rfl, hplace⟩
    · obtain rfl : e.id = id' := of_decide_eq_true htest
      rcases Equipment.mem_places_apply s.portLabel hplace with hplace | ⟨layout, hlayout, hout⟩
      · exact .inl ⟨_, hmem, Equipment.id_apply _, hplace⟩
      · exact .inr (.update hlayout hout)
  · obtain ⟨e, he, rfl, hplace⟩ := hl
    by_cases hid : e.id = id'
    · rw [← hid]
      exact .inr (.delete _ cell)
    · exact .inl ⟨e, List.mem_filter.mpr ⟨he, decide_eq_true hid⟩, rfl, hplace⟩

/-- **A port was on its cell before**, unless its identifier was drawn for the change. -/
theorem of_located (h : Changes m s op next reply) (hl : next.Located id port cell) :
    s.Located id port cell ∨ ∃ i < op.freshCount s, port = m.portId i := by
  rcases h.places_cases with hsame | ⟨draft, rfl, hnext⟩ | ⟨id', change, rfl, rfl⟩ | ⟨id', rfl, rfl⟩
  · exact .inl ((State.located_congr hsame).mp hl)
  · obtain ⟨e, he, hid, hplace⟩ := hl
    rcases List.mem_append.mp (hnext ▸ he) with he | he
    · exact .inl ⟨e, he, hid, hplace⟩
    · obtain rfl := List.mem_singleton.mp he
      have hport := Equipment.mem_portIds_of_mem_places hplace
      rw [draft.portIds_build] at hport
      obtain ⟨i, hi, rfl⟩ := List.mem_map.mp hport
      exact .inr ⟨i, List.mem_range.mp hi, rfl⟩
  · obtain ⟨e, he, rfl, hplace⟩ := hl
    rcases mem_modifyFirst he with he | ⟨e, hfound, rfl⟩
    · exact .inl ⟨e, he, rfl, hplace⟩
    · rw [Operation.freshCount_update hfound]
      rcases Equipment.of_mem_places_apply _ hplace with hplace | hdrawn
      · exact .inl ⟨e, State.mem_of_equipment? hfound, (Equipment.id_apply _).symm, hplace⟩
      · exact .inr hdrawn
  · obtain ⟨e, he, hid, hplace⟩ := hl
    exact .inl ⟨e, (List.mem_filter.mp he).1, hid, hplace⟩

theorem distinct (h : Changes m s op next reply) (hs : s.Distinct) (hnew : op.DrawsNew m s s) : next.Distinct := by
  rcases h.places_cases with hsame | ⟨draft, rfl, hnext⟩ | ⟨id, change, rfl, rfl⟩ | ⟨id, rfl, rfl⟩
  · exact (State.distinct_congr hsame).mpr hs
  · refine ⟨?_, fun e he => ?_⟩
    · rw [State.equipmentIds, hnext, List.map_append, List.nodup_append_comm]
      exact List.nodup_cons.mpr ⟨hnew.equipment draft rfl, hs.equipment⟩
    · rcases List.mem_append.mp (hnext ▸ he) with he | he
      · exact hs.ports e he
      · rw [List.mem_singleton.mp he]
        exact draft.nodup_portIds_build s.portLabel hnew.ports
  · refine ⟨?_, fun e he => ?_⟩
    · rw [State.equipmentIds_modifyEquipment fun _ => Equipment.id_apply _]
      exact hs.equipment
    · rcases mem_modifyFirst he with he | ⟨e, hfound, rfl⟩
      · exact hs.ports e he
      · have hmem := State.mem_of_equipment? hfound
        have hdrawn := hnew.ports
        rw [Operation.freshCount_update hfound] at hdrawn
        exact Equipment.nodup_portIds_apply _ (hs.ports e hmem) (State.portIds_subset hmem) hdrawn
  · exact ⟨hs.equipment.sublist (List.filter_sublist.map _), fun e he => hs.ports e (List.mem_filter.mp he).1⟩

end Changes

/-! ### Runs -/

namespace Store

variable {β : Type} [Backend β]

/-- Along the run no operation draws an identifier that is or was in use. -/
def NeverRepeats (s : Store β) (ops : List (Moment × Operation)) : Prop :=
  ∀ k m (op : Operation), ops[k]? = some (m, op) → ∀ j ≤ k, op.DrawsNew m (s.runTo ops k).state (s.runTo ops j).state

variable {s : Store β} {ops : List (Moment × Operation)} {id : EquipmentId} {port : PortId} {cell cell' : Position}

/-- The next state of a run is the same, or one into which the next operation has changed it with success. -/
theorem runTo_succ_cases (s : Store β) (ops : List (Moment × Operation)) (k : Nat) :
    (s.runTo ops (k + 1)).state = (s.runTo ops k).state ∨
      ∃ m op reply, ops[k]? = some (m, op) ∧ ((s.runTo ops k).perform m op).result = .ok reply ∧
        Changes m (s.runTo ops k).state op (s.runTo ops (k + 1)).state reply := by
  cases hop : ops[k]? with
  | none => exact .inl (by rw [runTo_succ_of_none hop])
  | some entry =>
    obtain ⟨m, op⟩ := entry
    rw [runTo_succ hop]
    rcases (step_perform (s.runTo ops k) m op).state_cases with hsame | ⟨reply, hok, hchanges⟩
    · exact .inl hsame
    · exact .inr ⟨m, op, reply, rfl, hok, hchanges⟩

/-- Identifiers stay different along a run. -/
theorem distinct_runTo (hs : s.state.Distinct) (hnew : s.NeverRepeats ops) (k : Nat) :
    (s.runTo ops k).state.Distinct := by
  induction k with
  | zero =>
    rw [runTo_zero]
    exact hs
  | succ k ih =>
    rcases runTo_succ_cases s ops k with hsame | ⟨m, op, reply, hop, -, hchanges⟩
    · rw [hsame]
      exact ih
    · exact hchanges.distinct ih (hnew k m op hop k (Nat.le_refl k))

/-- A port whose identifier is in use in an earlier state has been on its cell ever since. -/
theorem located_backwards (hnew : s.NeverRepeats ops) {i j k : Nat} (hij : i ≤ j) (hjk : j ≤ k)
    (hi : port ∈ (s.runTo ops i).state.portIds) (hk : (s.runTo ops k).state.Located id port cell) :
    (s.runTo ops j).state.Located id port cell := by
  induction hjk with
  | refl => exact hk
  | @step k hjk ih =>
    apply ih
    rcases runTo_succ_cases s ops k with hsame | ⟨m, op, reply, hop, -, hchanges⟩
    · rwa [hsame] at hk
    · rcases hchanges.of_located hk with hbefore | ⟨n, hn, rfl⟩
      · exact hbefore
      · -- The identifier would be drawn after it was in use.
        exact absurd hi ((hnew k m op hop i (Nat.le_trans hij hjk)).ports.unused n hn)

theorem takesAway_of_left {k : Nat} (hk : (s.runTo ops k).state.Located id port cell)
    (hgone : ∀ cell', ¬ (s.runTo ops (k + 1)).state.Located id port cell') :
    ∃ m op reply, ops[k]? = some (m, op) ∧ ((s.runTo ops k).perform m op).result = .ok reply ∧
      op.TakesAway id cell := by
  rcases runTo_succ_cases s ops k with hsame | ⟨m, op, reply, hop, hok, hchanges⟩
  · exact absurd (hsame ▸ hk) (hgone cell)
  · exact ⟨m, op, reply, hop, hok, (hchanges.located hk).resolve_left (hgone cell)⟩

/-- **A port is permanent.** If identifiers differ at first and none is drawn twice, a port that its equipment has in
two states of a run is on the same cell in both and in every state between; and it leaves only in a step that succeeds
and takes its cell away, by the deletion of the equipment or by a layout without the cell. -/
theorem port_permanent (hs : s.state.Distinct) (hnew : s.NeverRepeats ops) :
    (∀ i j k cell cell', i ≤ j → j ≤ k → (s.runTo ops i).state.Located id port cell →
        (s.runTo ops k).state.Located id port cell' →
        cell' = cell ∧ (s.runTo ops j).state.Located id port cell) ∧
      ∀ k cell, (s.runTo ops k).state.Located id port cell →
        (∀ cell', ¬ (s.runTo ops (k + 1)).state.Located id port cell') →
        ∃ m op reply, ops[k]? = some (m, op) ∧ ((s.runTo ops k).perform m op).result = .ok reply ∧
          op.TakesAway id cell := by
  refine ⟨fun i j k cell cell' hij hjk hi hk => ?_, fun k cell => takesAway_of_left⟩
  have hstart := located_backwards hnew (Nat.le_refl i) (Nat.le_trans hij hjk) hi.mem_portIds hk
  obtain rfl := (distinct_runTo hs hnew i).cell_unique hstart hi
  exact ⟨rfl, located_backwards hnew hij hjk hi.mem_portIds hk⟩

/-- A device with two ports in a row, whose second cell is taken away after the display has been changed. -/
def shrinking : List (Moment × Operation) :=
  [(.numbered 0, .add { name := "switch", layout := ⟨1, 2, one_pos, two_pos⟩ }), (.numbered 2, .toggleDark),
    (.numbered 2, .update ⟨"0"⟩ { layout := some ⟨1, 1, one_pos, one_pos⟩ })]

theorem neverRepeats_shrinking : (fresh ({} : MemoryStorage)).NeverRepeats shrinking := by
  intro k m op hop j hj
  match k with
  | 0 =>
    obtain rfl := Nat.le_zero.mp hj
    cases hop
    exact ⟨⟨by decide +kernel, by decide +kernel⟩, fun _ _ => List.not_mem_nil⟩
  | 1 =>
    cases hop
    exact .of_draws_nothing rfl (by simp)
  | 2 =>
    cases hop
    exact .of_draws_nothing (by decide +kernel) (by simp)
  | k + 3 => cases hop

/-- The first port is still on its cell while the display changes, and the second leaves with its cell. -/
theorem port_permanent_shrinking :
    ((fresh ({} : MemoryStorage)).runTo shrinking 2).state.Located ⟨"0"⟩ ⟨"0"⟩ ⟨0, 0⟩ ∧
      ∃ m op reply, shrinking[2]? = some (m, op) ∧
        (((fresh ({} : MemoryStorage)).runTo shrinking 2).perform m op).result = .ok reply ∧
        op.TakesAway ⟨"0"⟩ ⟨0, 1⟩ := by
  have hs : (fresh ({} : MemoryStorage)).state.Distinct := ⟨List.nodup_nil, fun _ h => absurd h List.not_mem_nil⟩
  have hfirst : ((fresh ({} : MemoryStorage)).runTo shrinking 1).state.Located ⟨"0"⟩ ⟨"0"⟩ ⟨0, 0⟩ := by
    unfold State.Located
    decide +kernel
  have hlast : ((fresh ({} : MemoryStorage)).runTo shrinking 3).state.Located ⟨"0"⟩ ⟨"0"⟩ ⟨0, 0⟩ := by
    unfold State.Located
    decide +kernel
  have hsecond : ((fresh ({} : MemoryStorage)).runTo shrinking 2).state.Located ⟨"0"⟩ ⟨"1"⟩ ⟨0, 1⟩ := by
    unfold State.Located
    decide +kernel
  have hgone : ∀ cell, ¬ ((fresh ({} : MemoryStorage)).runTo shrinking 3).state.Located ⟨"0"⟩ ⟨"1"⟩ cell :=
    fun _ h => absurd h.mem_portIds (by decide +kernel)
  exact ⟨((port_permanent hs neverRepeats_shrinking).1 1 2 3 _ _ (by decide) (by decide) hfirst hlast).2,
    (port_permanent hs neverRepeats_shrinking).2 2 _ hsecond hgone⟩

end Store
end PortGrid
