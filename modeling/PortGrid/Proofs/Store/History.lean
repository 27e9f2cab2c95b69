import PortGrid.Proofs.Store.Permanence

/-!
# The list and the selection follow the history

The history of a run is the list of its operations that succeeded, each with its answer. It alone decides which devices
there are and which is selected: the devices are those that were added and not deleted, in the order in which they were
added, and the selection is what was chosen last, by an addition or by a selection, unless that device was deleted
since. Operations that failed are not part of the history, and leave no trace.

No identifier may be drawn twice, for then the deletion of one device would also hide another one that was added later.

Key definitions: `Deed`, `Store.history`, `remainingIds`, `Chosen`, `Follows`, `drawnIds`.
Key theorems: `chosen_append_singleton`, `Changes.follows`, `Store.follows_perform`, `Store.follows_history`.
-/

namespace PortGrid

/-! ### Histories -/

/-- An operation that succeeded, and what it answered. -/
structure Deed where
  operation : Operation
  reply : Reply

namespace Deed

/-- The identifier that the addition of a device answered. -/
def added? : Deed → Option EquipmentId
  | ⟨.add _, .added id⟩ => some id
  | _ => none

/-- The identifier of the device that was deleted. -/
def deleted? : Deed → Option EquipmentId
  | ⟨.delete id, _⟩ => some id
  | _ => none

/-- What was chosen to be selected, if the operation makes a choice: the device that was added, or a device, or none. -/
def choice? : Deed → Option (Option EquipmentId)
  | ⟨.add _, .added id⟩ => some (some id)
  | ⟨.select id, _⟩ => some id
  | _ => none

/-- The operation is no addition, no deletion and no selection. -/
structure Neutral (d : Deed) : Prop where
  added : d.added? = none
  deleted : d.deleted? = none
  choice : d.choice? = none

end Deed

def addedIds (h : List Deed) : List EquipmentId := h.filterMap Deed.added?

def deletedIds (h : List Deed) : List EquipmentId := h.filterMap Deed.deleted?

/-- The identifiers that were added, in their order, without those that were deleted. -/
def remainingIds (h : List Deed) : List EquipmentId := (addedIds h).filter (· ∉ deletedIds h)

/-- The device was chosen last, and has not been deleted since. -/
def Chosen (h : List Deed) (id : EquipmentId) : Prop :=
  ∃ (before : List Deed) (d : Deed) (since : List Deed), h = before ++ d :: since ∧ d.choice? = some (some id) ∧
    ∀ e ∈ since, e.choice? = none ∧ e.deleted? ≠ some id

theorem addedIds_append_singleton (h : List Deed) (d : Deed) : addedIds (h ++ [d]) = addedIds h ++ d.added?.toList := by
  rw [addedIds, List.filterMap_append, ← addedIds]
  cases hd : d.added? <;> simp [hd]

theorem deletedIds_append_singleton (h : List Deed) (d : Deed) :
    deletedIds (h ++ [d]) = deletedIds h ++ d.deleted?.toList := by
  rw [deletedIds, List.filterMap_append, ← deletedIds]
  cases hd : d.deleted? <;> simp [hd]

theorem chosen_append_singleton {h : List Deed} {d : Deed} {id : EquipmentId} : Chosen (h ++ [d]) id ↔
    d.choice? = some (some id) ∨ (d.choice? = none ∧ d.deleted? ≠ some id ∧ Chosen h id) := by
  constructor
  · rintro ⟨before, e, since, heq, hchoice, hsince⟩
    rcases List.eq_nil_or_concat since with rfl | ⟨since, last, rfl⟩
    · obtain ⟨-, hd⟩ := List.append_inj' heq rfl
      cases hd
      exact .inl hchoice
    · rw [List.concat_eq_append, ← List.cons_append, ← List.append_assoc] at heq
      obtain ⟨rfl, hd⟩ := List.append_inj' heq rfl
      cases hd
      obtain ⟨hnone, hne⟩ := hsince d (by simp)
      exact .inr ⟨hnone, hne, before, e, since, rfl, hchoice, fun e he => hsince e (by simp [he])⟩
  · rintro (hchoice | ⟨hnone, hne, before, e, since, rfl, hchoice, hsince⟩)
    · exact ⟨h, d, [], rfl, hchoice, fun e he => absurd he List.not_mem_nil⟩
    · refine ⟨before, e, since ++ [d], by simp, hchoice, fun e' he' => ?_⟩
      rcases List.mem_append.mp he' with he' | he'
      · exact hsince e' he'
      · rw [List.mem_singleton.mp he']
        exact ⟨hnone, hne⟩

theorem not_chosen_nil (id : EquipmentId) : ¬ Chosen [] id := by
  rintro ⟨before, d, since, heq, -⟩
  simp at heq

/-! ### What one operation adds to the history -/

/-- The state is what the history makes of an empty one. -/
structure Follows (h : List Deed) (s : State) : Prop where
  ids : s.equipmentIds = remainingIds h
  selected : ∀ id, s.selected = some id ↔ Chosen h id
  present : ∀ id, s.selected = some id → id ∈ s.equipmentIds
  deleted : deletedIds h ⊆ addedIds h

variable {h : List Deed} {s next : State} {m : Moment} {op : Operation} {reply : Reply}

theorem follows_empty (language : Language) : Follows [] (State.ofLanguage language) where
  ids := rfl
  selected id := iff_of_false (fun hsel => by cases hsel) (not_chosen_nil id)
  present id hsel := by cases hsel
  deleted := List.Subset.refl _

/-- A deed that adds and deletes nothing leaves the list alone, and what it makes of the selection is to be chosen. -/
theorem Follows.keep {d : Deed} (hs : Follows h s) (hadded : d.added? = none) (hdeleted : d.deleted? = none)
    (hids : next.equipmentIds = s.equipmentIds) (hselected : ∀ id, next.selected = some id ↔ Chosen (h ++ [d]) id)
    (hpresent : ∀ id, next.selected = some id → id ∈ s.equipmentIds) : Follows (h ++ [d]) next := by
  have hadds : addedIds (h ++ [d]) = addedIds h := by simp [addedIds_append_singleton, hadded]
  have hdeletes : deletedIds (h ++ [d]) = deletedIds h := by simp [deletedIds_append_singleton, hdeleted]
  refine ⟨?_, hselected, hids ▸ hpresent, ?_⟩
  · rw [hids, hs.ids, remainingIds, remainingIds, hadds, hdeletes]
  · rw [hadds, hdeletes]
    exact hs.deleted

theorem Follows.neutral {d : Deed} (hs : Follows h s) (hd : d.Neutral) (hids : next.equipmentIds = s.equipmentIds)
    (hselected : next.selected = s.selected) : Follows (h ++ [d]) next := by
  refine hs.keep hd.added hd.deleted hids (fun id => ?_) (hselected ▸ hs.present)
  rw [hselected, hs.selected, chosen_append_singleton]
  simp [hd.choice, hd.deleted]

theorem Follows.select (hs : Follows h s) {choice : Option EquipmentId} (hin : ∀ id ∈ choice, id ∈ s.equipmentIds) :
    Follows (h ++ [⟨.select choice, .done⟩]) { s with selected := choice } := by
  refine hs.keep rfl rfl rfl (fun id => ?_) hin
  rw [chosen_append_singleton]
  simp [Deed.choice?]

/-- Nothing is deleted that was not added, so what remains is among what was added. -/
theorem Follows.mem_added (hs : Follows h s) {id : EquipmentId} (hid : id ∈ s.equipmentIds) : id ∈ addedIds h := by
  rw [hs.ids] at hid
  exact (List.mem_filter.mp hid).1

theorem Follows.add (hs : Follows h s) (draft : Draft) (hnew : m.equipmentId ∉ addedIds h) :
    Follows (h ++ [⟨.add draft, .added m.equipmentId⟩])
      { s with equipments := s.equipments ++ [draft.build s.portLabel m], selected := some m.equipmentId } := by
  have hadded : addedIds (h ++ [⟨.add draft, .added m.equipmentId⟩]) = addedIds h ++ [m.equipmentId] :=
    addedIds_append_singleton h _
  have hdeleted : deletedIds (h ++ [⟨.add draft, .added m.equipmentId⟩]) = deletedIds h := by
    simp [deletedIds_append_singleton, Deed.deleted?]
  have hkept : m.equipmentId ∉ deletedIds h := fun hd => hnew (hs.deleted hd)
  refine ⟨?_, fun id => ?_, ?_, ?_⟩
  · show (s.equipments ++ [draft.build s.portLabel m]).map (·.id) = _
    rw [List.map_append, remainingIds, hadded, hdeleted, List.filter_append, ← remainingIds, ← hs.ids]
    simp [hkept, State.equipmentIds, Draft.build]
  · rw [chosen_append_singleton]
    simp [Deed.choice?]
  · rintro id ⟨⟩
    simp [State.equipmentIds, Draft.build]
  · rw [hadded, hdeleted]
    exact fun id hid => List.mem_append_left _ (hs.deleted hid)

theorem Follows.delete (hs : Follows h s) {id : EquipmentId} (hid : id ∈ s.equipmentIds) :
    Follows (h ++ [⟨.delete id, .done⟩]) (s.eraseEquipment id) := by
  have hadded : addedIds (h ++ [⟨.delete id, .done⟩]) = addedIds h := by
    simp [addedIds_append_singleton, Deed.added?]
  have hdeleted : deletedIds (h ++ [⟨.delete id, .done⟩]) = deletedIds h ++ [id] := deletedIds_append_singleton h _
  have hids : (s.eraseEquipment id).equipmentIds = s.equipmentIds.filter (· ≠ id) := by
    simp [State.equipmentIds, State.eraseEquipment, List.filter_map, Function.comp_def]
  -- The selection falls if it is the device that goes, and only then.
  have hselected : ∀ i, (s.eraseEquipment id).selected = some i ↔ s.selected = some i ∧ i ≠ id := by
    intro i
    unfold State.eraseEquipment
    by_cases hsel : s.selected = some id
    · simp [hsel, eq_comm]
    · have hne : s.selected = some i → i ≠ id := fun hi he => hsel (he ▸ hi)
      simp only [hsel, if_false]
      exact ⟨fun hi => ⟨hi, hne hi⟩, And.left⟩
  refine ⟨?_, fun i => ?_, fun i hi => ?_, ?_⟩
  · rw [hids, hs.ids, remainingIds, remainingIds, hadded, hdeleted, List.filter_filter]
    simp [and_comm]
  · rw [hselected, hs.selected, chosen_append_singleton]
    simp [Deed.choice?, Deed.deleted?, and_comm, eq_comm]
  · obtain ⟨hi, hne⟩ := (hselected i).mp hi
    rw [hids]
    exact List.mem_filter.mpr ⟨hs.present i hi, decide_eq_true hne⟩
  · rw [hadded, hdeleted]
    exact List.append_subset.mpr ⟨hs.deleted, fun i hi => List.mem_singleton.mp hi ▸ hs.mem_added hid⟩

/-- **Every change is followed by its deed**, if an addition draws an identifier that was not added before. -/
theorem Changes.follows (hc : Changes m s op next reply) (hs : Follows h s)
    (hnew : ∀ draft, op = .add draft → m.equipmentId ∉ addedIds h) : Follows (h ++ [⟨op, reply⟩]) next := by
  cases hc with
  | add draft => exact hs.add draft (hnew draft rfl)
  | update he =>
    exact hs.neutral ⟨rfl, rfl, rfl⟩ (State.equipmentIds_modifyEquipment fun _ => Equipment.id_apply _) rfl
  | delete he => exact hs.delete (State.mem_equipmentIds he)
  | deselect => exact hs.select (fun id hid => by cases hid)
  | select he => exact hs.select (fun id hid => by cases hid; exact State.mem_equipmentIds he)
  | updatePort he hp => exact hs.neutral ⟨rfl, rfl, rfl⟩ (State.equipmentIds_modifyEquipment fun _ => rfl) rfl
  | rename he hnames hne => exact hs.neutral ⟨rfl, rfl, rfl⟩ (State.equipmentIds_modifyEquipment fun _ => rfl) rfl
  | setFilter change => exact hs.neutral ⟨rfl, rfl, rfl⟩ rfl rfl
  | clearFilter => exact hs.neutral ⟨rfl, rfl, rfl⟩ rfl rfl
  | toggleDark => exact hs.neutral ⟨rfl, rfl, rfl⟩ rfl rfl
  | setLanguage language => exact hs.neutral ⟨rfl, rfl, rfl⟩ rfl rfl

/-! ### Runs -/

/-- The identifier that an operation draws for a device. -/
def Operation.drawn? (m : Moment) : Operation → Option EquipmentId
  | .add _ => some m.equipmentId
  | _ => none

def drawnIds (ops : List (Moment × Operation)) : List EquipmentId := ops.filterMap fun (m, op) => op.drawn? m

theorem Changes.added?_eq (hc : Changes m s op next reply) : Deed.added? ⟨op, reply⟩ = op.drawn? m := by
  cases hc <;> rfl

namespace Store

variable {β : Type} [Backend β]

/-- What an operation adds to the history: its deed if it succeeds. -/
def deeds (op : Operation) : Except StoreError Reply → List Deed
  | .ok reply => [⟨op, reply⟩]
  | .error _ => []

/-- The operations of a run that succeeded, each with its answer. -/
def history (s : Store β) : List (Moment × Operation) → List Deed
  | [] => []
  | (m, op) :: ops => deeds op (s.perform m op).result ++ (s.perform m op).store.history ops

/-- An operation does nothing to the state and adds nothing to the history, or adds a deed that changes the state or is
neutral. -/
theorem Step.deeds_cases {s : Store β} {o : Outcome β} (hstep : Step s m op o) :
    (deeds op o.result = [] ∧ o.store.state = s.state) ∨
      ∃ reply, deeds op o.result = [⟨op, reply⟩] ∧
        (Changes m s.state op o.store.state reply ∨ (Deed.Neutral ⟨op, reply⟩ ∧ o.store.state = s.state)) := by
  cases hstep with
  | refused _ => exact .inl ⟨rfl, rfl⟩
  | kept hplan =>
    rcases Operation.plan_cases hplan with ⟨_, _, _, hkeep⟩ | ⟨_, _, _, _, rfl, -⟩ | ⟨-, hkeep⟩
    · cases hkeep
    · exact .inr ⟨_, rfl, .inr ⟨⟨rfl, rfl, rfl⟩, rfl⟩⟩
    · cases hkeep
  | unsaved hplan _ => exact .inr ⟨_, rfl, .inl (.of_plan hplan)⟩
  | saved hwriting _ =>
    rcases hwriting with ⟨hplan, -⟩ | ⟨hplan, rfl, rfl, -⟩
    · exact .inr ⟨_, rfl, .inl (.of_plan hplan)⟩
    · obtain rfl := Operation.plan_eq_write_iff.mp hplan
      exact .inr ⟨_, rfl, .inr ⟨⟨rfl, rfl, rfl⟩, rfl⟩⟩
  | failed _ _ => exact .inl ⟨rfl, rfl⟩

/-- **An operation is followed by what it adds to the history**, and adds no identifier but the one it has drawn. -/
theorem follows_perform {s : Store β} (hs : Follows h s.state) (hnew : ∀ id ∈ op.drawn? m, id ∉ addedIds h) :
    Follows (h ++ deeds op (s.perform m op).result) (s.perform m op).store.state ∧
      (addedIds (h ++ deeds op (s.perform m op).result)).Sublist (addedIds h ++ (op.drawn? m).toList) := by
  rcases (step_perform s m op).deeds_cases with ⟨hnone, hstate⟩ | ⟨reply, hdeed, hchanges | ⟨hneutral, hstate⟩⟩
  · rw [hnone, hstate, List.append_nil]
    exact ⟨hs, List.sublist_append_left _ _⟩
  · rw [hdeed, addedIds_append_singleton, hchanges.added?_eq]
    exact ⟨hchanges.follows hs (by rintro draft rfl; exact hnew _ rfl), List.Sublist.refl _⟩
  · rw [hdeed, hstate, addedIds_append_singleton, hneutral.added]
    simp only [Option.toList_none, List.append_nil]
    exact ⟨hs.neutral hneutral rfl rfl, List.sublist_append_left _ _⟩

/-- The identifiers that were added and those that are still to be drawn differ along the whole run. -/
theorem follows_run : ∀ (ops : List (Moment × Operation)) {s : Store β} {h : List Deed}, Follows h s.state →
    (addedIds h ++ drawnIds ops).Nodup → Follows (h ++ s.history ops) (s.run ops).state
  | [], _, _, hs, _ => by
    rw [history, List.append_nil]
    exact hs
  | (m, op) :: ops, s, h, hs, hnodup => by
    have hdrawn : drawnIds ((m, op) :: ops) = (op.drawn? m).toList ++ drawnIds ops := by
      unfold drawnIds
      cases hop : op.drawn? m <;> simp [hop]
    rw [hdrawn, ← List.append_assoc] at hnodup
    have hnew : ∀ id ∈ op.drawn? m, id ∉ addedIds h := by
      intro id hid hadded
      have hdisjoint := List.disjoint_of_nodup_append hnodup.of_append_left
      exact hdisjoint hadded (Option.mem_toList.mpr hid)
    obtain ⟨hfollows, hsub⟩ := follows_perform hs hnew
    rw [history, ← List.append_assoc, run]
    exact follows_run ops hfollows (hnodup.sublist (hsub.append_right _))

theorem state_of_empty {config : StoreConfig} {b : β} {s : Store β} {events : List Event}
    (hempty : Backend.get b config.storageKey = .ok none) (hopen : openWith config b = .ok (s, events)) :
    s.state = State.ofLanguage config.defaultLanguage := by
  unfold openWith load at hopen
  rw [hempty] at hopen
  cases hopen
  rfl

/-- **The list and the selection follow the history.** If a store starts on an empty storage and no identifier is drawn
twice, the devices after any operations, of whose writes any may fail, are those that were added with success and not
deleted, in the order of the additions; the selection is the device that was chosen last and not deleted since, or none;
and what is selected is in the list. -/
theorem follows_history {config : StoreConfig} {b : β} (hempty : Backend.get b config.storageKey = .ok none)
    {s : Store β} {events : List Event} (hopen : openWith config b = .ok (s, events)) {ops : List (Moment × Operation)}
    (hfresh : (drawnIds ops).Nodup) :
    (s.run ops).state.equipmentIds = remainingIds (s.history ops) ∧
      (∀ id, (s.run ops).state.selected = some id ↔ Chosen (s.history ops) id) ∧
      ∀ id, (s.run ops).state.selected = some id → id ∈ (s.run ops).state.equipmentIds := by
  have hstart : Follows [] s.state := state_of_empty hempty hopen ▸ follows_empty config.defaultLanguage
  have hrun := follows_run ops hstart hfresh
  exact ⟨hrun.ids, hrun.selected, hrun.present⟩

/-- A store on an empty storage that lets four writes through. -/
def fourWrites : Store (Guarded MemoryStorage) := ⟨{}, { inner := {}, writesLeft := some 4 }, {}⟩

def onePort (name : String) : Draft := { name := name, layout := ⟨1, 1, one_pos, one_pos⟩ }

/-- Two devices are added; the first is selected and the second deleted; the deletion of the first fails. -/
def additions : List (Moment × Operation) :=
  [(.numbered 0, .add (onePort "router")), (.numbered 1, .add (onePort "switch")), (.numbered 2, .select (some ⟨"0"⟩)),
    (.numbered 3, .delete ⟨"1"⟩), (.numbered 4, .delete ⟨"0"⟩)]

/-- The first device is left and selected. -/
theorem follows_history_additions :
    (fourWrites.history additions).length = 4 ∧
      (fourWrites.run additions).state.equipmentIds = remainingIds (fourWrites.history additions) ∧
      remainingIds (fourWrites.history additions) = [⟨"0"⟩] ∧ Chosen (fourWrites.history additions) ⟨"0"⟩ := by
  have hopen : openWith {} fourWrites.backend = .ok (fourWrites, [.startedEmpty "port-status-storage"]) := rfl
  have hfresh : (drawnIds additions).Nodup := by decide +kernel
  obtain ⟨hids, hselected, -⟩ := follows_history rfl hopen hfresh
  have hchosen : (fourWrites.run additions).state.selected = some ⟨"0"⟩ := by decide +kernel
  exact ⟨by decide +kernel, hids, by decide +kernel, (hselected _).mp hchosen⟩

end Store
end PortGrid
