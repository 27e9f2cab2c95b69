import PortGrid.Proofs.Store.Renaming

/-!
# A rename changes nothing but names

A rename looks for the first device of the identifier, and gives its ports the names that the pattern has for them. If
the pattern has none, the store stays as it is and nothing is written, so that a storage which refuses every write does
not matter. Otherwise the new state is the old one with that one device marked as changed and with the names on its
ports, once it is written. Everything else stays: the order of the ports and what else is known of them, the other
devices, also those of the same identifier, and the rest of the state.

The answer is the number of identifiers with a name, and if the identifiers of the ports differ that is the number of
ports with a name.

Key definitions: `Equipment.NamedAs`, `State.NamesOnly`.
Key theorems: `State.namesOnly_modifyEquipment`, `Store.perform_of_change`, `Store.perform_rename`.
-/

namespace PortGrid

/-- The second device is the first one with the names on its ports, marked as changed at the time. -/
structure Equipment.NamedAs (names : Names) (now : Timestamp) (e e' : Equipment) : Prop where
  /-- The ports are the same in the same order, but that each has the name of its identifier if there is one. -/
  ports : e'.ports = e.ports.map fun port => { port with name := (names.get? port.id).getD port.name }
  /-- Nothing else is changed but the time. -/
  rest : e' = { e with ports := e'.ports, updatedAt := now }

/-- The second state is the first one with the names on the ports of the first device of the identifier. -/
structure State.NamesOnly (id : EquipmentId) (names : Names) (now : Timestamp) (s s' : State) : Prop where
  /-- The devices are the same, but for the first one of the identifier. -/
  equipments : ∃ before e e' after, s.equipments = before ++ e :: after ∧ (∀ d ∈ before, d.id ≠ id) ∧ e.id = id ∧
    s'.equipments = before ++ e' :: after ∧ Equipment.NamedAs names now e e'
  selected : s'.selected = s.selected
  filter : s'.filter = s.filter
  isDark : s'.isDark = s.isDark
  language : s'.language = s.language

theorem State.namesOnly_modifyEquipment {s : State} {id : EquipmentId} {e : Equipment} {f : Equipment → Equipment}
    {names : Names} {now : Timestamp} (he : s.equipment? id = some e) (hf : f e = (e.withNames names).touch now) :
    s.NamesOnly id names now (s.modifyEquipment id f) where
  equipments := by
    have hnamed : Equipment.NamedAs names now e (f e) := by
      rw [hf]
      exact ⟨rfl, rfl⟩
    obtain ⟨before, after, hsplit, hbefore, hmodified⟩ := modifyFirst_of_find? (f := f) he
    exact ⟨before, e, f e, after, hsplit, fun d hd => of_decide_eq_false (hbefore d hd), id_of_equipment? he, hmodified,
      hnamed⟩
  selected := rfl
  filter := rfl
  isDark := rfl
  language := rfl

namespace Store

variable {β : Type} [Backend β] {s : Store β} {m : Moment}

/-- A planned change is made once it is written, or without a write if the store does not save by itself. -/
theorem perform_of_change {op : Operation} {next : State} {reply : Reply} {events : List Event}
    (hplan : op.plan m s.state = .ok (.change next reply events))
    (hwrite : s.config.autosave = true → (s.write next).1 = .ok ()) :
    (s.perform m op).result = .ok reply ∧ (s.perform m op).store.state = next := by
  unfold perform
  rw [hplan]
  by_cases hauto : s.config.autosave = true
  · have hok := hwrite hauto
    simp only [hauto, if_true]
    unfold commit
    split
    · exact ⟨rfl, rfl⟩
    · rename_i e b herror
      rw [herror] at hok
      cases hok
  · simp only [hauto]
    exact ⟨rfl, rfl⟩

/-- **A rename changes nothing but names.** Let a device of the identifier be in the state, and the pattern be accepted.
If it has no name for the ports of the first such device, the answer is zero and the store stays as it is, on any
storage. If it has, and the new state can be written, the answer is the number of identifiers with a name, and the new
state differs from the old one in the names of these ports and the time of that device alone. Where the identifiers of
the ports differ, the number is that of the ports with a name. -/
theorem perform_rename {id : EquipmentId} {pattern : String} {p : NamePattern} {e : Equipment}
    (he : s.state.equipment? id = some e) (hparse : NamePattern.parse pattern = .ok p) :
    ((∀ i, (p.assign e.ports).get? i = none) →
        (s.perform m (.rename id pattern)).result = .ok (.renamed 0) ∧
          (s.perform m (.rename id pattern)).store = s) ∧
      ((∃ i, (p.assign e.ports).get? i ≠ none) →
        ∃ next, s.state.NamesOnly id (p.assign e.ports) m.now next ∧
          ((s.config.autosave = true → (s.write next).1 = .ok ()) →
            (s.perform m (.rename id pattern)).result = .ok (.renamed (p.assign e.ports).size) ∧
              (s.perform m (.rename id pattern)).store.state = next)) ∧
      (e.portIds.Nodup → (p.assign e.ports).size =
        (e.ports.filter fun port => ((p.assign e.ports).get? port.id).isSome).length) := by
  have hnames : assignNames pattern e.ports = .ok (p.assign e.ports) := by
    unfold assignNames
    rw [hparse]
    rfl
  have hplan := Operation.plan_rename he m pattern
  rw [hnames] at hplan
  refine ⟨fun hnone => ?_, fun ⟨i, hi⟩ => ?_, fun hids => ?_⟩
  · simp only [Names.isEmpty_pairs_iff.mpr hnone, if_true] at hplan
    unfold perform
    rw [hplan]
    exact ⟨rfl, rfl⟩
  · have hsome : ¬ (p.assign e.ports).pairs.isEmpty = true := fun h => hi (Names.isEmpty_pairs_iff.mp h i)
    have hrenamed : e.renamed pattern m.now = (e.withNames (p.assign e.ports)).touch m.now := by
      rw [Equipment.renamed_of_ok hnames, if_neg hsome]
    simp only [if_neg hsome] at hplan
    exact ⟨_, State.namesOnly_modifyEquipment he hrenamed, perform_of_change hplan⟩
  · exact Names.size_eq_length_filter hids fun i hi => p.mem_ids_of_get?_assign hi

/-- A row of two ports with the identifiers `a` and `b`. -/
def rowNamed (name : String) : Equipment where
  id := ⟨"row"⟩
  name := name
  location := none
  kind := none
  layout := ⟨1, 2, one_pos, two_pos⟩
  ports := [.fresh ⟨"a"⟩ "left" ⟨0, 0⟩, .fresh ⟨"b"⟩ "right" ⟨0, 1⟩]
  createdAt := (Moment.numbered 0).now
  updatedAt := (Moment.numbered 0).now

/-- A store with two devices of one identifier, on a storage that lets some writes through. -/
def twins (writes : Nat) : Store (Guarded MemoryStorage) where
  config := {}
  backend := { inner := {}, writesLeft := some writes }
  state := { equipments := [rowNamed "first", rowNamed "second"], selected := some ⟨"row"⟩ }

/-- A range that ends before it begins names no port, and needs no write. A range of one place names one port of the
first device, and none of the second one. -/
theorem perform_rename_twins :
    ((twins 0).perform (.numbered 1) (.rename ⟨"row"⟩ "E2/1 - 1/1")).store = twins 0 ∧
      ((twins 1).perform (.numbered 1) (.rename ⟨"row"⟩ "E1/1 - 1/1")).result.toOption = some (.renamed 1) ∧
      ((twins 1).perform (.numbered 1) (.rename ⟨"row"⟩ "E1/1 - 1/1")).store.state.equipments.map
        (·.ports.map (·.name)) = [["E1/1", "right"], ["left", "right"]] := by
  have hfound : ∀ writes, (twins writes).state.equipment? ⟨"row"⟩ = some (rowNamed "first") := fun _ => rfl
  have hsorted : Equipment.sortPorts (rowNamed "first").ports = (rowNamed "first").ports :=
    List.mergeSort_of_pairwise (by decide)
  have hnothing : (NamePattern.range "E" ⟨2, 1⟩ ⟨1, 1⟩).assign (rowNamed "first").ports = ⟨[]⟩ := by
    rw [NamePattern.assign, hsorted]
    decide +kernel
  have hone : (NamePattern.range "E" ⟨1, 1⟩ ⟨1, 1⟩).assign (rowNamed "first").ports = ⟨[(⟨"a"⟩, "E1/1")]⟩ := by
    rw [NamePattern.assign, hsorted]
    decide +kernel
  have hparse : NamePattern.parse "E2/1 - 1/1" = .ok (.range "E" ⟨2, 1⟩ ⟨1, 1⟩) := by decide +kernel
  have hparse' : NamePattern.parse "E1/1 - 1/1" = .ok (.range "E" ⟨1, 1⟩ ⟨1, 1⟩) := by decide +kernel
  obtain ⟨hempty, -, -⟩ := perform_rename (m := .numbered 1) (hfound 0) hparse
  obtain ⟨-, hnamed, -⟩ := perform_rename (m := .numbered 1) (hfound 1) hparse'
  rw [hnothing] at hempty
  rw [hone] at hnamed
  obtain ⟨next, ⟨hsplit, -, -, -, -⟩, hsaved⟩ := hnamed ⟨⟨"a"⟩, by decide +kernel⟩
  obtain ⟨hresult, hstate⟩ := hsaved fun _ => rfl
  refine ⟨(hempty fun _ => rfl).2, congrArg Except.toOption hresult, ?_⟩
  obtain ⟨before, e, e', after, hequipments, hbefore, -, hafter, hports, -⟩ := hsplit
  rw [hstate, hafter]
  cases before with
  | nil =>
    obtain ⟨rfl, rfl⟩ := List.cons.inj hequipments
    simp only [List.nil_append, List.map_cons, hports]
    decide +kernel
  | cons d before =>
    obtain ⟨rfl, -⟩ := List.cons.inj hequipments
    exact absurd rfl (hbefore _ List.mem_cons_self)

end Store
end PortGrid
