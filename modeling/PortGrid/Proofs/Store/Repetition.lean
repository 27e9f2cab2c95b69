import PortGrid.Proofs.Store.Effects

/-!
# A pattern applied again

A rename answers with the number of names that its pattern gives, and leaves the device with these names. Both depend on
the identifiers and the positions of the ports alone. Edits of single ports, and renames by other patterns, change the
names, the statuses and the notes of ports and nothing of that. So whatever has been made of the names in between, the
same pattern is answered the same once more, and gives every port that it names the name that the port has had from it
before. With nothing in between only the time of the change is another.

Key definitions: `Equipment.Relabelled`, `State.Relabelled`, `Operation.EditsPorts`, `State.renameReply`.
Key theorems: `Store.relabelled_run`, `State.Relabelled.renameReply_eq`, `Operation.effect_rename`, `Store.rename_again`.
-/

namespace PortGrid

/-! ### Edits of ports -/

namespace Equipment

/-- The second device is the first one with other names, statuses and notes on its ports, changed at any time. -/
structure Relabelled (e e' : Equipment) : Prop where
  /-- The ports have their identifiers and their positions, in the same order. -/
  places : e'.places = e.places
  /-- Nothing is changed but the ports and the time. -/
  rest : e' = { e with ports := e'.ports, updatedAt := e'.updatedAt }

variable {e e' e'' : Equipment}

theorem Relabelled.refl (e : Equipment) : e.Relabelled e := ⟨rfl, rfl⟩

theorem Relabelled.trans (h : e.Relabelled e') (h' : e'.Relabelled e'') : e.Relabelled e'' where
  places := h'.places.trans h.places
  rest := by rw [h'.rest, h.rest]

theorem Relabelled.id_eq (h : e.Relabelled e') : e'.id = e.id := by rw [h.rest]

theorem Relabelled.layout_eq (h : e.Relabelled e') : e'.layout = e.layout := by rw [h.rest]

theorem Relabelled.portIds_eq (h : e.Relabelled e') : e'.portIds = e.portIds := by
  rw [portIds_eq_places, portIds_eq_places, h.places]

theorem relabelled_modifyPort (e : Equipment) (port : PortId) (change : PortUpdate) (now : Timestamp) :
    e.Relabelled ((e.modifyPort port (·.apply change)).touch now) :=
  ⟨e.places_modifyPort port change, rfl⟩

theorem relabelled_withNames (e : Equipment) (names : Names) (now : Timestamp) :
    e.Relabelled ((e.withNames names).touch now) :=
  ⟨e.places_withNames names, rfl⟩

theorem relabelled_renamed (e : Equipment) (pattern : String) (now : Timestamp) :
    e.Relabelled (e.renamed pattern now) := by
  unfold renamed
  split
  · split
    · exact .refl e
    · exact e.relabelled_withNames _ now
  · exact .refl e

/-- A pattern gives relabelled ports the names that it gave before, or is refused as before. -/
theorem Relabelled.assignNames_eq (h : e.Relabelled e') (pattern : String) :
    assignNames pattern e'.ports = assignNames pattern e.ports := by
  unfold assignNames
  cases NamePattern.parse pattern with
  | error fault => rfl
  | ok p => exact congrArg Except.ok (p.assign_congr h.places)

end Equipment

namespace State

/-- The second state is the first one with the ports of one device relabelled, the first of the identifier. -/
def Relabelled (id : EquipmentId) (s t : State) : Prop :=
  ∃ f : Equipment → Equipment, (∀ e : Equipment, e.Relabelled (f e)) ∧ t = s.modifyEquipment id f

variable {s t u : State} {id : EquipmentId}

theorem Relabelled.refl (id : EquipmentId) (s : State) : s.Relabelled id s := by
  refine ⟨fun e => e, Equipment.Relabelled.refl, ?_⟩
  cases he : s.equipment? id with
  | none => exact (modifyEquipment_of_none he).symm
  | some e => exact (modifyEquipment_of_fixed he rfl).symm

theorem Relabelled.trans (h : s.Relabelled id t) (h' : t.Relabelled id u) : s.Relabelled id u := by
  obtain ⟨f, hf, rfl⟩ := h
  obtain ⟨g, hg, rfl⟩ := h'
  exact ⟨fun e => g (f e), fun e => (hf e).trans (hg (f e)), modifyEquipment_modifyEquipment fun e => (hf e).id_eq⟩

/-- A device whose ports are relabelled is found before and after. -/
theorem Relabelled.equipment?_cases (h : s.Relabelled id t) :
    (s.equipment? id = none ∧ t.equipment? id = none) ∨
      ∃ e e', s.equipment? id = some e ∧ t.equipment? id = some e' ∧ e.Relabelled e' := by
  obtain ⟨f, hf, rfl⟩ := h
  cases he : s.equipment? id with
  | none =>
    rw [modifyEquipment_of_none he]
    exact .inl ⟨rfl, he⟩
  | some e => exact .inr ⟨e, f e, rfl, equipment?_modifyEquipment (fun e => (hf e).id_eq) he, hf e⟩

end State

/-- Whether the operation edits a port of the device, or gives names to its ports. -/
def Operation.EditsPorts (id : EquipmentId) : Operation → Prop
  | .updatePort i _ _ => i = id
  | .rename i _ => i = id
  | _ => False

/-- **To edit ports is to relabel them.** -/
theorem Changes.relabelled {m : Moment} {s next : State} {op : Operation} {reply : Reply} {id : EquipmentId}
    (h : Changes m s op next reply) (hop : op.EditsPorts id) : s.Relabelled id next := by
  cases h with
  | updatePort _ _ =>
    cases hop
    exact ⟨_, fun e => e.relabelled_modifyPort _ _ m.now, rfl⟩
  | rename _ _ _ =>
    cases hop
    exact ⟨_, fun e => e.relabelled_withNames _ m.now, rfl⟩
  | _ => cases hop

namespace Store

variable {β : Type} [Backend β]

/-- Edits of the ports of a device, performed or refused, relabel them. -/
theorem relabelled_run {id : EquipmentId} : ∀ (ops : List (Moment × Operation)) {s : Store β},
    (∀ step ∈ ops, step.2.EditsPorts id) → s.state.Relabelled id (s.run ops).state
  | [], s, _ => .refl id s.state
  | (m, op) :: ops, s, hops => by
    rw [List.forall_mem_cons] at hops
    have hstep : s.state.Relabelled id (s.perform m op).store.state := by
      rcases (step_perform s m op).state_cases with hsame | ⟨reply, -, hchanges⟩
      · rw [hsame]
        exact .refl id s.state
      · exact hchanges.relabelled hops.1
    exact hstep.trans (relabelled_run ops hops.2)

end Store

/-! ### What a rename does -/

namespace State

variable {s t : State} {id : EquipmentId}

/-- How many names the pattern gives to the ports of the device, or why it gives none. -/
def renameReply (s : State) (id : EquipmentId) (pattern : String) : Except StoreError Reply :=
  match s.equipment? id with
  | none => .error (.equipmentNotFound id)
  | some e =>
    match assignNames pattern e.ports with
    | .error fault => .error (.pattern fault)
    | .ok names => .ok (.renamed names.size)

theorem Relabelled.renameReply_eq (h : s.Relabelled id t) (pattern : String) :
    t.renameReply id pattern = s.renameReply id pattern := by
  unfold renameReply
  rcases h.equipment?_cases with ⟨hs, ht⟩ | ⟨e, e', hs, ht, hrelabelled⟩
  · rw [hs, ht]
  · simp only [hs, ht, hrelabelled.assignNames_eq]

end State

theorem Operation.effect_rename (m : Moment) (s : State) (id : EquipmentId) (pattern : String) :
    (Operation.rename id pattern).effect m s =
      (s.renameReply id pattern, s.modifyEquipment id (·.renamed pattern m.now)) := by
  cases he : s.equipment? id with
  | none =>
    have hplan : (Operation.rename id pattern).plan m s = .error (.equipmentNotFound id) := by
      simp only [plan, State.require, he]
      rfl
    simp only [effect, hplan, State.renameReply, he, State.modifyEquipment_of_none he]
  | some e =>
    have hfixed : e.renamed pattern m.now = e → s.modifyEquipment id (·.renamed pattern m.now) = s :=
      State.modifyEquipment_of_fixed (f := (·.renamed pattern m.now)) he
    have hplan := plan_rename he m pattern
    cases hnames : assignNames pattern e.ports with
    | error fault =>
      rw [hnames] at hplan
      have hsame := hfixed (Equipment.renamed_of_error hnames)
      simp only [effect, hplan, State.renameReply, he, hnames, hsame]
    | ok names =>
      have hrenamed : e.renamed pattern m.now = _ := Equipment.renamed_of_ok hnames
      simp only [hnames] at hplan
      by_cases hempty : names.pairs.isEmpty = true
      · rw [if_pos hempty] at hplan hrenamed
        have hnone : names.size = 0 := by
          rw [Names.size, Names.ids, List.isEmpty_iff.mp hempty]
          rfl
        simp only [effect, hplan, State.renameReply, he, hnames, hfixed hrenamed, hnone]
      · rw [if_neg hempty] at hplan
        simp only [effect, hplan, State.renameReply, he, hnames]

/-- A state in which a device is renamed once more is changed in the time of that device alone. -/
theorem State.exists_touch_renamed (s : State) (id : EquipmentId) (pattern : String) (now later : Timestamp) :
    ∃ time, (s.modifyEquipment id (·.renamed pattern now)).modifyEquipment id (·.renamed pattern later) =
      (s.modifyEquipment id (·.renamed pattern now)).modifyEquipment id (·.touch time) := by
  cases he : s.equipment? id with
  | none =>
    have hnone : ∀ f, s.modifyEquipment id f = s := fun f => modifyEquipment_of_none he
    exact ⟨later, by rw [hnone, hnone, hnone]⟩
  | some e =>
    have hfound := equipment?_modifyEquipment (fun e => e.id_renamed pattern now) he
    have hagain := e.renamed_renamed pattern now later
    rcases e.renamed_cases pattern now later with hsame | htouched
    · exact ⟨(e.renamed pattern now).updatedAt, modifyEquipment_congr hfound (hagain.trans hsame)⟩
    · exact ⟨later, modifyEquipment_congr hfound (hagain.trans htouched)⟩

namespace Equipment

theorem name_of_mem_renamed {e : Equipment} {pattern : String} {names : Names} {now : Timestamp} {port : Port}
    {name : String} (hnames : assignNames pattern e.ports = .ok names) (hport : port ∈ (e.renamed pattern now).ports)
    (hname : names.get? port.id = some name) : port.name = name := by
  rw [renamed_of_ok hnames] at hport
  split at hport
  · rename_i hempty
    rw [Names.isEmpty_pairs_iff.mp hempty] at hname
    cases hname
  · obtain ⟨old, -, rfl⟩ := List.mem_map.mp hport
    have hold : names.get? old.id = some name := hname
    simp only [Names.rename, hold, Option.getD_some]

end Equipment

namespace Store

variable {β : Type} [Backend β] {s t : Store β} {m m' : Moment} {id : EquipmentId} {pattern : String}

theorem perform_rename_of_unfailed (hok : (s.perform m (.rename id pattern)).Unfailed) :
    (s.perform m (.rename id pattern)).result = s.state.renameReply id pattern ∧
      (s.perform m (.rename id pattern)).store.state = s.state.modifyEquipment id (·.renamed pattern m.now) := by
  have h := perform_of_unfailed hok
  rw [Operation.effect_rename] at h
  exact h

/-- **A pattern applied again does the same again.** Let a pattern be applied to a device, let then nothing but the names,
the statuses and the notes of its ports be changed, and let the pattern be applied once more, all without a failing
write. The second time it is answered the same or refused for the same reason; each time the ports with a name in it
have that name behind it; and if nothing was changed in between, the second time changes nothing but the time of the
device. -/
theorem rename_again (hfirst : (s.perform m (.rename id pattern)).Unfailed)
    (hbetween : (s.perform m (.rename id pattern)).store.state.Relabelled id t.state)
    (hagain : (t.perform m' (.rename id pattern)).Unfailed) :
    (t.perform m' (.rename id pattern)).result = (s.perform m (.rename id pattern)).result ∧
      (∀ e names, s.state.equipment? id = some e → assignNames pattern e.ports = .ok names →
        ∃ e₁ e₂, (s.perform m (.rename id pattern)).store.state.equipment? id = some e₁ ∧
          (t.perform m' (.rename id pattern)).store.state.equipment? id = some e₂ ∧
          e₁.places = e.places ∧ e₂.places = e.places ∧
          ∀ port, port ∈ e₁.ports ∨ port ∈ e₂.ports → ∀ name, names.get? port.id = some name → port.name = name) ∧
      (t.state = (s.perform m (.rename id pattern)).store.state →
        ∃ now, (t.perform m' (.rename id pattern)).store.state = t.state.modifyEquipment id (·.touch now)) := by
  obtain ⟨hresult, hstate⟩ := perform_rename_of_unfailed hfirst
  obtain ⟨hresult', hstate'⟩ := perform_rename_of_unfailed hagain
  have hrenamed : s.state.Relabelled id (s.perform m (.rename id pattern)).store.state :=
    ⟨_, fun e => e.relabelled_renamed pattern m.now, hstate⟩
  refine ⟨?_, fun e names he hnames => ?_, fun hsame => ?_⟩
  · rw [hresult, hresult', (hrenamed.trans hbetween).renameReply_eq]
  · have hfound := State.equipment?_modifyEquipment (fun e => e.id_renamed pattern m.now) he
    rw [← hstate] at hfound
    rcases hbetween.equipment?_cases with ⟨hnone, -⟩ | ⟨e₁, e₁', hfound₁, hfound₁', hrelabelled⟩
    · cases hnone.symm.trans hfound
    · obtain rfl := Option.some.inj (hfound₁.symm.trans hfound)
      have hfound₂ := State.equipment?_modifyEquipment (fun e => e.id_renamed pattern m'.now) hfound₁'
      rw [← hstate'] at hfound₂
      -- Neither the first time nor what comes in between has touched what the names depend on.
      have hall := (e.relabelled_renamed pattern m.now).trans hrelabelled
      have hnames' := (hall.assignNames_eq pattern).trans hnames
      refine ⟨_, _, hfound, hfound₂, e.places_renamed pattern m.now,
        (e₁'.places_renamed pattern m'.now).trans hall.places, ?_⟩
      rintro port (hport | hport) name hname
      · exact Equipment.name_of_mem_renamed hnames hport hname
      · exact Equipment.name_of_mem_renamed hnames' hport hname
  · rw [hstate', hsame, hstate]
    exact s.state.exists_touch_renamed id pattern m.now m'.now

/-- A row of two cells with three ports, of which two have one identifier and two are on one cell. -/
def crowdedRow : Equipment where
  id := ⟨"row"⟩
  name := "switch"
  location := none
  kind := none
  layout := ⟨1, 2, one_pos, two_pos⟩
  ports := [.fresh ⟨"a"⟩ "left" ⟨0, 0⟩, .fresh ⟨"a"⟩ "right" ⟨0, 1⟩, .fresh ⟨"b"⟩ "spare" ⟨0, 1⟩]
  createdAt := (Moment.numbered 0).now
  updatedAt := (Moment.numbered 0).now

def crowded : Store MemoryStorage := ⟨{}, {}, { equipments := [crowdedRow] }⟩

/-- A port of the row is edited, and its ports are named after their columns. -/
def crowdedEdits : List (Moment × Operation) :=
  [(.numbered 2, .updatePort ⟨"row"⟩ ⟨"a"⟩ { name := some "uplink", status := some .needsCheck, note := some "loose" }),
    (.numbered 3, .rename ⟨"row"⟩ "column {col}")]

/-- Three names are given to two identifiers, of which the one keeps the second; and after the edits it is the same
again. -/
theorem rename_again_crowded :
    (((crowded.perform (.numbered 1) (.rename ⟨"row"⟩ "E1/1")).store.run crowdedEdits).perform (.numbered 4)
        (.rename ⟨"row"⟩ "E1/1")).result = (crowded.perform (.numbered 1) (.rename ⟨"row"⟩ "E1/1")).result ∧
      ∃ e, (((crowded.perform (.numbered 1) (.rename ⟨"row"⟩ "E1/1")).store.run crowdedEdits).perform (.numbered 4)
        (.rename ⟨"row"⟩ "E1/1")).store.state.equipment? ⟨"row"⟩ = some e ∧
        e.ports.map (·.name) = ["E1/2", "E1/2", "E1/3"] := by
  have hsorted : Equipment.sortPorts crowdedRow.ports = crowdedRow.ports := List.mergeSort_of_pairwise (by decide)
  have hparse : NamePattern.parse "E1/1" = .ok (.increment "E" ⟨1, 1⟩) := by decide +kernel
  have hnames : assignNames "E1/1" crowdedRow.ports = .ok ⟨[(⟨"a"⟩, "E1/1"), (⟨"a"⟩, "E1/2"), (⟨"b"⟩, "E1/3")]⟩ := by
    rw [assignNames_of_parse hparse, NamePattern.assign, hsorted]
    decide +kernel
  have hok : ∀ (s : Store MemoryStorage) m op, (s.perform m op).Unfailed := fun s m op =>
    unfailed_of_accepted (fun _ => rfl) m op
  have hbetween : State.Relabelled ⟨"row"⟩ (crowded.perform (.numbered 1) (.rename ⟨"row"⟩ "E1/1")).store.state _ :=
    relabelled_run crowdedEdits (by simp [crowdedEdits, Operation.EditsPorts])
  obtain ⟨hresult, hall, -⟩ := rename_again (hok _ _ _) hbetween (hok _ (.numbered 4) _)
  obtain ⟨e₁, e₂, -, hfound, -, hplaces, hnamed⟩ := hall crowdedRow _ rfl hnames
  refine ⟨hresult, e₂, hfound, ?_⟩
  -- The places tell which three ports there are, and each of them is named.
  obtain ⟨p, q, r, hports⟩ : ∃ p q r, e₂.ports = [p, q, r] := by
    have hlength := congrArg List.length hplaces
    simp only [Equipment.places, List.length_map] at hlength
    exact List.length_eq_three.mp hlength
  have hids : [p.id, q.id, r.id] = [⟨"a"⟩, ⟨"a"⟩, ⟨"b"⟩] := by
    have hfirst := congrArg (List.map Prod.fst) hplaces
    simp only [Equipment.places, hports] at hfirst
    exact hfirst
  simp only [List.cons.injEq, and_true] at hids
  obtain ⟨hp, hq, hr⟩ := hids
  rw [hports] at hnamed ⊢
  have hnamep := hnamed p (.inr (by simp)) "E1/2" (by rw [hp]; decide +kernel)
  have hnameq := hnamed q (.inr (by simp)) "E1/2" (by rw [hq]; decide +kernel)
  have hnamer := hnamed r (.inr (by simp)) "E1/3" (by rw [hr]; decide +kernel)
  simp [hnamep, hnameq, hnamer]

end Store
end PortGrid
