import PortGrid.Proofs.Naming.Invariance
import PortGrid.Proofs.Store.Goodness

/-!
# The same names once more

A device is renamed by the names that a pattern gives to its ports. New names change neither the identifiers nor the
positions of ports, and the names that a pattern gives depend on nothing else. So the same pattern gives the same names
once more, which the ports have already: only the time of the change is another.

Key definition: `Equipment.renamed`.
Key theorems: `Equipment.assignNames_renamed`, `Equipment.renamed_renamed`, `State.modifyEquipment_modifyEquipment`,
`Operation.plan_rename`.
-/

namespace PortGrid

namespace Equipment

variable {e : Equipment} {names : Names} {pattern : String} {now later : Timestamp}

/-- The device with the names that a pattern gives to its ports, or as it is if there are none. -/
def renamed (e : Equipment) (pattern : String) (now : Timestamp) : Equipment :=
  match assignNames pattern e.ports with
  | .ok names => if names.pairs.isEmpty then e else (e.withNames names).touch now
  | .error _ => e

theorem renamed_of_error {fault : PatternError} (h : assignNames pattern e.ports = .error fault) :
    e.renamed pattern now = e := by
  unfold renamed
  rw [h]

theorem renamed_of_ok (h : assignNames pattern e.ports = .ok names) :
    e.renamed pattern now = if names.pairs.isEmpty then e else (e.withNames names).touch now := by
  unfold renamed
  rw [h]

theorem withNames_withNames (e : Equipment) (names : Names) :
    (e.withNames names).withNames names = e.withNames names := by
  have hports : (e.ports.map names.rename).map names.rename = e.ports.map names.rename := by
    rw [List.map_map]
    exact List.map_congr_left fun port _ => names.rename_rename port
  exact congrArg (fun ports => { e with ports := ports }) hports

theorem withNames_of_isEmpty (h : names.pairs.isEmpty = true) : e.withNames names = e := by
  have hnone : ∀ port, names.rename port = port := by
    intro port
    unfold Names.rename Names.get?
    rw [List.isEmpty_iff.mp h]
    rfl
  have hports : e.ports.map names.rename = e.ports :=
    (List.map_congr_left fun port _ => hnone port).trans (List.map_id _)
  exact congrArg (fun ports => { e with ports := ports }) hports

theorem id_renamed (e : Equipment) (pattern : String) (now : Timestamp) : (e.renamed pattern now).id = e.id := by
  unfold renamed
  split
  · split <;> rfl
  · rfl

theorem places_renamed (e : Equipment) (pattern : String) (now : Timestamp) :
    (e.renamed pattern now).places = e.places := by
  unfold renamed
  split
  · split
    · rfl
    · exact e.places_withNames _
  · rfl

/-- The pattern gives a renamed device the names that it has given before, or is refused as before. -/
theorem assignNames_renamed (e : Equipment) (pattern pattern' : String) (now : Timestamp) :
    assignNames pattern (e.renamed pattern' now).ports = assignNames pattern e.ports := by
  unfold assignNames
  cases NamePattern.parse pattern with
  | error fault => rfl
  | ok p => exact congrArg Except.ok (p.assign_congr (e.places_renamed pattern' now))

/-- **A device that is renamed once more** is as if it had been renamed only then. -/
theorem renamed_renamed (e : Equipment) (pattern : String) (now later : Timestamp) :
    (e.renamed pattern now).renamed pattern later = e.renamed pattern later := by
  have hagain := e.assignNames_renamed pattern pattern now
  cases h : assignNames pattern e.ports with
  | error fault => rw [renamed_of_error (hagain.trans h), renamed_of_error h, renamed_of_error h]
  | ok names =>
    rw [renamed_of_ok (hagain.trans h), renamed_of_ok h, renamed_of_ok h]
    by_cases hempty : names.pairs.isEmpty = true
    · rw [if_pos hempty, if_pos hempty, if_pos hempty]
    · rw [if_neg hempty, if_neg hempty, if_neg hempty]
      exact congrArg (·.touch later) (e.withNames_withNames names)

/-- At another time the pattern does the same, but for the time. -/
theorem renamed_cases (e : Equipment) (pattern : String) (now later : Timestamp) :
    e.renamed pattern later = e.renamed pattern now ∨
      e.renamed pattern later = (e.renamed pattern now).touch later := by
  unfold renamed
  split
  · split
    · exact .inl rfl
    · exact .inr rfl
  · exact .inl rfl

end Equipment

/-! ### States -/

namespace State

variable {s : State} {id : EquipmentId} {e : Equipment} {f : Equipment → Equipment}

theorem equipment?_modifyEquipment (hid : ∀ e, (f e).id = e.id) (he : s.equipment? id = some e) :
    (s.modifyEquipment id f).equipment? id = some (f e) := by
  have hfind : (modifyFirst (·.id = id) f s.equipments).find? (·.id = id) =
      (s.equipments.find? (·.id = id)).map f := find?_modifyFirst_self (fun e => by rw [hid]) s.equipments
  exact hfind.trans (congrArg (Option.map f) he)

/-- Only the image of the device that is found matters. -/
theorem modifyEquipment_congr {g : Equipment → Equipment} (he : s.equipment? id = some e) (h : f e = g e) :
    s.modifyEquipment id f = s.modifyEquipment id g := by
  have hlist : modifyFirst (·.id = id) f s.equipments = modifyFirst (·.id = id) g s.equipments := by
    apply modifyFirst_congr
    intro found hfound
    obtain rfl : found = e := Option.some.inj (hfound.symm.trans he)
    exact h
  exact congrArg (fun equipments => { s with equipments := equipments }) hlist

theorem modifyEquipment_of_fixed (he : s.equipment? id = some e) (h : f e = e) : s.modifyEquipment id f = s := by
  have hlist : modifyFirst (·.id = id) f s.equipments = s.equipments := by
    apply modifyFirst_of_fixed
    intro found hfound
    obtain rfl : found = e := Option.some.inj (hfound.symm.trans he)
    exact h
  exact congrArg (fun equipments => { s with equipments := equipments }) hlist

theorem modifyEquipment_of_none (he : s.equipment? id = none) : s.modifyEquipment id f = s := by
  have hlist : modifyFirst (·.id = id) f s.equipments = s.equipments := by
    apply modifyFirst_of_fixed
    intro found hfound
    cases hfound.symm.trans he
  exact congrArg (fun equipments => { s with equipments := equipments }) hlist

theorem modifyEquipment_modifyEquipment {g : Equipment → Equipment} (hid : ∀ e, (f e).id = e.id) :
    (s.modifyEquipment id f).modifyEquipment id g = s.modifyEquipment id fun e => g (f e) := by
  have hlist : modifyFirst (·.id = id) g (modifyFirst (·.id = id) f s.equipments) =
      modifyFirst (·.id = id) (fun e => g (f e)) s.equipments :=
    modifyFirst_modifyFirst (fun e => by rw [hid]) s.equipments
  exact congrArg (fun equipments => { s with equipments := equipments }) hlist

end State

/-- What a pattern does to a device: it is refused, it names nothing, or the device is renamed. -/
theorem Operation.plan_rename {s : State} {id : EquipmentId} {e : Equipment} (he : s.equipment? id = some e)
    (m : Moment) (pattern : String) : (Operation.rename id pattern).plan m s =
      match assignNames pattern e.ports with
      | .error fault => .error (.pattern fault)
      | .ok names =>
        if names.pairs.isEmpty then .ok (.keep (.renamed 0) [.namedNothing pattern id])
        else .ok (.change (s.modifyEquipment id (·.renamed pattern m.now)) (.renamed names.size)
          [.renamed names.size e.ports.length id pattern]) := by
  simp only [plan, State.require_of_found he, bind, Except.bind]
  cases hnames : assignNames pattern e.ports with
  | error fault => rfl
  | ok names =>
    by_cases hempty : names.pairs.isEmpty = true
    · simp only [hempty, if_true]
      rfl
    · have hrenamed : (e.withNames names).touch m.now = e.renamed pattern m.now := by
        rw [Equipment.renamed_of_ok hnames, if_neg hempty]
      simp only [hempty]
      exact congrArg (fun next => Except.ok (Plan.change next _ _)) (State.modifyEquipment_congr he hrenamed)

end PortGrid
