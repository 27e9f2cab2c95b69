import PortGrid.BatchRename
import PortGrid.Proofs.Storage.Directory
import PortGrid.Proofs.Store.Durability
import PortGrid.Proofs.Store.Renaming

/-!
# The command a second time

The command comes to rest after one run. Once it has opened its state and found a device selected, or added one, it
renames this device, and what it has written is what the next run opens: a state in which the same device is selected,
and on which the pattern has the same effect but for the time of the change. If no text can be written, or none can be
read, a run leaves everything as it is, so that the next one meets the same.

Key definitions: `CommandReport.view`, `State.touchSelected`, `State.commandDevice`, `Ready`.
Key theorems: `Ready.renameDevice`, `exists_ready`, `batchRename_of_refuses`, `batchRename_again`.
-/

namespace PortGrid

/-! ### Reports -/

def errorTexts (records : List (Level × String)) : List String :=
  (records.filter (·.1 = .error)).map (·.2)

/-- What a report says apart from the records of lower levels: its exit code, its lines, and the texts of its errors. -/
def CommandReport.view (report : CommandReport) : Nat × List String × List String :=
  (report.code, report.lines, errorTexts report.records)

theorem errorTexts_append (records records' : List (Level × String)) :
    errorTexts (records ++ records') = errorTexts records ++ errorTexts records' := by
  unfold errorTexts
  rw [List.filter_append, List.map_append]

theorem Event.level_ne_error (event : Event) : event.level ≠ .error := by
  cases event <;> simp [level]

theorem errorTexts_recordsOf (events : List Event) : errorTexts (recordsOf events) = [] := by
  have hnone : (recordsOf events).filter (·.1 = .error) = [] := by
    rw [List.filter_eq_nil_iff]
    intro record hrecord
    obtain ⟨event, -, rfl⟩ := List.mem_map.mp hrecord
    simpa using event.level_ne_error
  exact congrArg (List.map (·.2)) hnone

/-- Only the records that come last say something of errors, if those before them are events or hold none. -/
theorem view_append {records : List (Level × String)} (hrecords : errorTexts records = []) (code : Nat)
    (lines : List String) (events : List Event) (last : List (Level × String)) :
    CommandReport.view ⟨code, lines, records ++ recordsOf events ++ last⟩ = (code, lines, errorTexts last) := by
  unfold CommandReport.view
  simp only [errorTexts_append, hrecords, errorTexts_recordsOf, List.nil_append]

/-- What a report says of a device whose ports are named by a pattern, or of the pattern that is refused. -/
def renamedView (language : Language) (pattern : String) (e : Equipment) : Nat × List String × List String :=
  match assignNames pattern e.ports with
  | .error fault => (0, [], [language.messages.describe fault])
  | .ok names => (0, gridLines (e.withNames names), [])

theorem gridLines_renamed {pattern : String} {e : Equipment} {names : Names}
    (h : assignNames pattern e.ports = .ok names) (now : Timestamp) :
    gridLines (e.renamed pattern now) = gridLines (e.withNames names) := by
  rw [Equipment.renamed_of_ok h]
  by_cases hempty : names.pairs.isEmpty = true
  · rw [if_pos hempty, Equipment.withNames_of_isEmpty hempty]
  · rw [if_neg hempty]
    rfl

theorem renamedView_renamed (language : Language) (pattern : String) (e : Equipment) (now : Timestamp) :
    renamedView language pattern (e.renamed pattern now) = renamedView language pattern e := by
  have hagain := e.assignNames_renamed pattern pattern now
  unfold renamedView
  cases h : assignNames pattern e.ports with
  | error fault => rw [hagain.trans h]
  | ok names =>
    rw [hagain.trans h]
    simp only
    rw [← gridLines_renamed (hagain.trans h) now, e.renamed_renamed, gridLines_renamed h]

/-! ### States -/

namespace State

variable {s : State} {e : Equipment}

/-- The state with the selected device marked as changed at the given time. -/
def touchSelected (s : State) (now : Timestamp) : State :=
  match s.selected with
  | some id => s.modifyEquipment id (·.touch now)
  | none => s

/-- The device that the command renames: the one that is selected, or the one that it adds. -/
def commandDevice (s : State) (adding : Moment) : Equipment :=
  s.selected?.getD (firstDraft.build s.portLabel adding)

/-- The identifier that the command draws for a device is not in use, if it adds one. -/
def Admits (s : State) (adding : Moment) : Prop :=
  s.selected? = none → ∀ e ∈ s.equipments, e.id ≠ adding.equipmentId

theorem selected_of_selected? (h : s.selected? = some e) : s.selected = some e.id ∧ s.equipment? e.id = some e := by
  obtain ⟨id, hselected, he⟩ := Option.bind_eq_some_iff.mp h
  have hid := id_of_equipment? he
  exact ⟨hid ▸ hselected, hid ▸ he⟩

theorem selected?_modifyEquipment {f : Equipment → Equipment} (hid : ∀ e, (f e).id = e.id)
    (h : s.selected? = some e) : (s.modifyEquipment e.id f).selected? = some (f e) := by
  obtain ⟨hselected, he⟩ := selected_of_selected? h
  show s.selected.bind (s.modifyEquipment e.id f).equipment? = some (f e)
  rw [hselected]
  exact equipment?_modifyEquipment hid he

/-- If the selected device has been renamed, the pattern changes nothing but the time. -/
theorem renamed_again {pattern : String} {now : Timestamp} (h : s.selected? = some (e.renamed pattern now))
    (later : Timestamp) :
    s.modifyEquipment e.id (·.renamed pattern later) = s ∨
      s.modifyEquipment e.id (·.renamed pattern later) = s.touchSelected later := by
  obtain ⟨hselected, he⟩ := selected_of_selected? h
  rw [e.id_renamed] at hselected he
  have hagain : (e.renamed pattern now).renamed pattern later = e.renamed pattern later :=
    e.renamed_renamed pattern now later
  rcases e.renamed_cases pattern now later with hsame | htouched
  · left
    exact modifyEquipment_of_fixed he (hagain.trans hsame)
  · right
    unfold touchSelected
    rw [hselected]
    exact modifyEquipment_congr he (hagain.trans htouched)

end State

/-! ### Storages that take what is written -/

section Taken

variable {β : Type} [Backend β] {valid : β → Prop} {b : β} {s : State} {e : Equipment}

/-- A device is selected in the state that the storage holds for the command. -/
structure Ready (valid : β → Prop) (b : β) (s : State) (e : Equipment) : Prop where
  valid : valid b
  loaded : Store.load b commandConfig.storageKey = .ok (some s)
  selected : s.selected? = some e

theorem commit_of_takes (takes : Takes commandConfig.storageKey valid) (hvalid : valid b) (s next : State)
    (reply : Reply) (events : List Event) : ∃ b' events', Store.commit ⟨commandConfig, b, s⟩ next reply events =
        ⟨.ok reply, ⟨commandConfig, b', next⟩, events'⟩ ∧
      Store.load b' commandConfig.storageKey = .ok (some next) ∧ valid b' := by
  obtain ⟨b', hset, hget, hvalid'⟩ := takes next.snapshot hvalid
  refine ⟨b', .saved commandConfig.storageKey :: events, ?_, Store.load_of_get hget, hvalid'⟩
  unfold Store.commit Store.write
  rw [hset]

/-- The command goes on to rename the device that is selected. -/
theorem Ready.batchRename (h : Ready valid b s e) (pattern : String) (adding naming : Moment) :
    ∃ records, errorTexts records = [] ∧
      batchRename b pattern adding naming = renameDevice ⟨commandConfig, b, s⟩ e.id pattern naming records := by
  unfold PortGrid.batchRename Store.openWith
  rw [h.loaded]
  simp only [h.selected]
  exact ⟨_, errorTexts_recordsOf _, rfl⟩

/-- The pattern is refused or gives names. Either way the device is selected afterwards as the pattern leaves it. -/
theorem Ready.perform (h : Ready valid b s e) (takes : Takes commandConfig.storageKey valid) (pattern : String)
    (m : Moment) : ∃ b', (Store.perform ⟨commandConfig, b, s⟩ m (.rename e.id pattern)).store =
        ⟨commandConfig, b', s.modifyEquipment e.id (·.renamed pattern m.now)⟩ ∧
      Ready valid b' (s.modifyEquipment e.id (·.renamed pattern m.now)) (e.renamed pattern m.now) ∧
      ((∃ fault, assignNames pattern e.ports = .error fault ∧
          (Store.perform ⟨commandConfig, b, s⟩ m (.rename e.id pattern)).result = .error (.pattern fault)) ∨
        ∃ names count, assignNames pattern e.ports = .ok names ∧
          (Store.perform ⟨commandConfig, b, s⟩ m (.rename e.id pattern)).result = .ok (.renamed count)) := by
  obtain ⟨-, he⟩ := State.selected_of_selected? h.selected
  have hplan := Operation.plan_rename he m pattern
  unfold Store.perform
  cases hnames : assignNames pattern e.ports with
  | error fault =>
    have hsame : e.renamed pattern m.now = e := Equipment.renamed_of_error hnames
    rw [State.modifyEquipment_of_fixed (f := (·.renamed pattern m.now)) he hsame, hsame, hplan, hnames]
    exact ⟨b, rfl, h, .inl ⟨fault, rfl, rfl⟩⟩
  | ok names =>
    by_cases hempty : names.pairs.isEmpty = true
    -- Without any name nothing is written, and the pattern leaves the device as it is.
    · have hsame : e.renamed pattern m.now = e := by rw [Equipment.renamed_of_ok hnames, if_pos hempty]
      rw [State.modifyEquipment_of_fixed (f := (·.renamed pattern m.now)) he hsame, hsame, hplan, hnames]
      simp only [if_pos hempty]
      exact ⟨b, rfl, h, .inr ⟨names, 0, rfl, rfl⟩⟩
    · have hselected := State.selected?_modifyEquipment (fun e => e.id_renamed pattern m.now) h.selected
      obtain ⟨b', events, hcommit, hload, hvalid⟩ := commit_of_takes takes h.valid s
        (s.modifyEquipment e.id (·.renamed pattern m.now)) (.renamed names.size)
        [.renamed names.size e.ports.length e.id pattern]
      rw [hplan, hnames]
      simp only [if_neg hempty]
      rw [if_pos (show commandConfig.autosave = true from rfl), hcommit]
      exact ⟨b', rfl, ⟨hvalid, hload, hselected⟩, .inr ⟨names, names.size, rfl, rfl⟩⟩

/-- The command reports the names or the refusal, and leaves the device selected and renamed behind. -/
theorem Ready.renameDevice (h : Ready valid b s e) (takes : Takes commandConfig.storageKey valid) (pattern : String)
    (m : Moment) {records : List (Level × String)} (hrecords : errorTexts records = []) :
    (renameDevice ⟨commandConfig, b, s⟩ e.id pattern m records).1.view = renamedView s.language pattern e ∧
      Ready valid (renameDevice ⟨commandConfig, b, s⟩ e.id pattern m records).2
        (s.modifyEquipment e.id (·.renamed pattern m.now)) (e.renamed pattern m.now) := by
  obtain ⟨b', hstore, hready, ⟨fault, hnames, hresult⟩ | ⟨names, count, hnames, hresult⟩⟩ := h.perform takes pattern m
  · unfold PortGrid.renameDevice
    simp only [hresult, hstore]
    refine ⟨?_, hready⟩
    rw [view_append hrecords]
    unfold renamedView
    rw [hnames]
    rfl
  · obtain ⟨-, he⟩ := State.selected_of_selected? hready.selected
    rw [e.id_renamed] at he
    unfold PortGrid.renameDevice
    simp only [hresult, hstore, he]
    refine ⟨?_, hready⟩
    rw [view_append hrecords, gridLines_renamed hnames]
    unfold renamedView
    rw [hnames]
    rfl

/-- The device that is added, or one before it of the same identifier, is selected then. -/
theorem exists_selected_add (s : State) (new : Equipment) : ∃ e, e.id = new.id ∧
    State.selected? { s with equipments := s.equipments ++ [new], selected := some new.id } = some e ∧
    ((∀ old ∈ s.equipments, old.id ≠ new.id) → e = new) := by
  have hfound : (s.equipments ++ [new]).find? (·.id = new.id) =
      some ((s.equipments.find? (·.id = new.id)).getD new) := by
    rw [List.find?_append]
    cases s.equipments.find? (·.id = new.id) <;> simp
  refine ⟨_, by simpa using List.find?_some hfound, hfound, fun hfresh => ?_⟩
  have hnone : s.equipments.find? (·.id = new.id) = none := by
    rw [List.find?_eq_none]
    intro old hold hid
    exact hfresh old hold (of_decide_eq_true hid)
  rw [hnone, Option.getD_none]

theorem exists_ready_of_none (takes : Takes commandConfig.storageKey valid) (hvalid : valid b) {events : List Event}
    (hopen : Store.openWith commandConfig b = .ok (⟨commandConfig, b, s⟩, events)) (hnone : s.selected? = none)
    (pattern : String) (adding naming : Moment) :
    ∃ b' s' e records, Ready valid b' s' e ∧ errorTexts records = [] ∧
      batchRename b pattern adding naming = renameDevice ⟨commandConfig, b', s'⟩ e.id pattern naming records ∧
      (s.Admits adding → e = s.commandDevice adding) := by
  have hdevice : s.commandDevice adding = firstDraft.build s.portLabel adding := by
    rw [State.commandDevice, hnone, Option.getD_none]
  rw [hdevice]
  generalize hnew : firstDraft.build s.portLabel adding = new
  generalize hnext : { s with equipments := s.equipments ++ [new], selected := some new.id } = next
  obtain ⟨b', events', hcommit, hload, hvalid'⟩ := commit_of_takes takes hvalid s next (.added new.id)
    [.added new.name new.id new.ports.length]
  have hperform : Store.perform ⟨commandConfig, b, s⟩ adding (.add firstDraft) =
      ⟨.ok (.added new.id), ⟨commandConfig, b', next⟩, events'⟩ := by
    subst hnext hnew
    exact hcommit
  -- A device of the same identifier may have been there before. It is found first, and so it is the one renamed.
  obtain ⟨e, hid, hselected, hfresh⟩ := exists_selected_add s new
  rw [hnext] at hselected
  refine ⟨b', next, e, recordsOf events ++ recordsOf events', ⟨hvalid', hload, hselected⟩, ?_, ?_, fun hadmits => ?_⟩
  · rw [errorTexts_append, errorTexts_recordsOf, errorTexts_recordsOf]
    rfl
  · unfold batchRename
    rw [hopen]
    simp only [hnone, hperform, hid]
  · subst hnew
    exact hfresh (hadmits hnone)

theorem exists_openWith {found : Option State} (hload : Store.load b commandConfig.storageKey = .ok found) :
    ∃ events, Store.openWith commandConfig b =
      .ok (⟨commandConfig, b, found.getD (State.ofLanguage commandConfig.defaultLanguage)⟩, events) := by
  unfold Store.openWith
  rw [hload]
  cases found with
  | none => exact ⟨_, rfl⟩
  | some s => exact ⟨_, rfl⟩

/-- On a storage that can be opened, the command comes to rename a device that is selected, which is the device that was
selected or the one that is added. -/
theorem exists_ready (takes : Takes commandConfig.storageKey valid) (hvalid : valid b) {found : Option State}
    (hload : Store.load b commandConfig.storageKey = .ok found) (pattern : String) (adding naming : Moment) :
    ∃ b' s e records, Ready valid b' s e ∧ errorTexts records = [] ∧
      batchRename b pattern adding naming = renameDevice ⟨commandConfig, b', s⟩ e.id pattern naming records ∧
      ∀ opened ∈ found, opened.Admits adding → e = opened.commandDevice adding := by
  obtain ⟨events, hopen⟩ := exists_openWith hload
  cases found with
  | none =>
    obtain ⟨b', s, e, records, hready, hrecords, hrun, -⟩ :=
      exists_ready_of_none takes hvalid hopen rfl pattern adding naming
    exact ⟨b', s, e, records, hready, hrecords, hrun, fun opened hopened => by cases hopened⟩
  | some s =>
    cases hselected : s.selected? with
    | none =>
      obtain ⟨b', s', e, records, hready, hrecords, hrun, hdevice⟩ :=
        exists_ready_of_none takes hvalid hopen hselected pattern adding naming
      refine ⟨b', s', e, records, hready, hrecords, hrun, fun opened hopened => ?_⟩
      obtain rfl := Option.some.inj hopened
      exact hdevice
    | some e =>
      have hready : Ready valid b s e := ⟨hvalid, hload, hselected⟩
      obtain ⟨records, hrecords, hrun⟩ := hready.batchRename pattern adding naming
      refine ⟨b, s, e, records, hready, hrecords, hrun, fun opened hopened _ => ?_⟩
      obtain rfl := Option.some.inj hopened
      rw [State.commandDevice, hselected, Option.getD_some]

/-- **Behind one run the command is at rest.** On a storage that takes what is written, the second run reports what the
first one did, and leaves the same state, or the same but for the time of the last change of the selected device. -/
theorem batchRename_of_takes (takes : Takes commandConfig.storageKey valid) (hvalid : valid b) {found : Option State}
    (hload : Store.load b commandConfig.storageKey = .ok found) (pattern : String)
    (adding naming adding' naming' : Moment)
    {first second : CommandReport × β} (hfirst : batchRename b pattern adding naming = first)
    (hsecond : batchRename first.2 pattern adding' naming' = second) :
    second.1.view = first.1.view ∧ ∃ s, Store.load first.2 commandConfig.storageKey = .ok (some s) ∧
      (Store.load second.2 commandConfig.storageKey = .ok (some s) ∨
        Store.load second.2 commandConfig.storageKey = .ok (some (s.touchSelected naming'.now))) := by
  obtain ⟨b', s, e, records, hready, hrecords, hrun, -⟩ := exists_ready takes hvalid hload pattern adding naming
  obtain ⟨hview, hready'⟩ := hready.renameDevice takes pattern naming hrecords
  rw [← hrun, hfirst] at hview hready'
  obtain ⟨records', hrecords', hrun'⟩ := hready'.batchRename pattern adding' naming'
  obtain ⟨hview', hready''⟩ := hready'.renameDevice takes pattern naming' hrecords'
  rw [← hrun', hsecond] at hview' hready''
  rw [e.id_renamed] at hready''
  refine ⟨?_, _, hready'.loaded, ?_⟩
  · rw [hview', hview, renamedView_renamed]
    rfl
  · rcases State.renamed_again hready'.selected naming'.now with hsame | htouched
    · exact .inl (hsame ▸ hready''.loaded)
    · exact .inr (htouched ▸ hready''.loaded)

end Taken

/-! ### Storages that stay as they are -/

section Untouched

variable {β : Type} [Backend β] {b : β} {e : StorageError}

theorem commit_of_refuses (h : Refuses b commandConfig.storageKey e) (s next : State) (reply : Reply)
    (events : List Event) : Store.commit ⟨commandConfig, b, s⟩ next reply events =
      ⟨.error (.storage e), ⟨commandConfig, b, s⟩, []⟩ := by
  unfold Store.commit Store.write
  rw [h]

/-- A rename comes to the same at any moment. -/
theorem perform_rename_of_refuses (h : Refuses b commandConfig.storageKey e) (s : State) (id : EquipmentId)
    (pattern : String) : ∃ result events, ∀ m, Store.perform ⟨commandConfig, b, s⟩ m (.rename id pattern) =
      ⟨result, ⟨commandConfig, b, s⟩, events⟩ := by
  cases he : s.equipment? id with
  | none =>
    have hrequire : s.require id = .error (.equipmentNotFound id) := by
      unfold State.require
      rw [he]
    refine ⟨.error (.equipmentNotFound id), [], fun m => ?_⟩
    simp only [Store.perform, Operation.plan, hrequire, bind, Except.bind]
  | some device =>
    cases hnames : assignNames pattern device.ports with
    | error fault =>
      refine ⟨.error (.pattern fault), [], fun m => ?_⟩
      simp only [Store.perform, Operation.plan_rename he, hnames]
    | ok names =>
      by_cases hempty : names.pairs.isEmpty = true
      · refine ⟨.ok (.renamed 0), [.namedNothing pattern id], fun m => ?_⟩
        simp only [Store.perform, Operation.plan_rename he, hnames, if_pos hempty]
      · refine ⟨.error (.storage e), [], fun m => ?_⟩
        simp only [Store.perform, Operation.plan_rename he, hnames, if_neg hempty, commit_of_refuses h]
        rfl

theorem renameDevice_of_refuses (h : Refuses b commandConfig.storageKey e) (s : State) (id : EquipmentId)
    (pattern : String) (records : List (Level × String)) :
    ∃ report, ∀ m, renameDevice ⟨commandConfig, b, s⟩ id pattern m records = (report, b) := by
  obtain ⟨result, events, hperform⟩ := perform_rename_of_refuses h s id pattern
  unfold renameDevice
  simp only [hperform]
  cases result with
  | ok reply => exact ⟨_, fun _ => rfl⟩
  | error fault => cases fault <;> exact ⟨_, fun _ => rfl⟩

theorem batchRename_of_refuses (h : Refuses b commandConfig.storageKey e) (pattern : String) :
    ∃ report, ∀ adding naming, batchRename b pattern adding naming = (report, b) := by
  unfold batchRename
  cases hopen : Store.openWith commandConfig b with
  | error fault => exact ⟨_, fun _ _ => rfl⟩
  | ok opened =>
    obtain ⟨⟨config, backend, s⟩, events⟩ := opened
    obtain ⟨rfl, rfl, -⟩ := Store.kept_of_openWith hopen
    cases hselected : s.selected? with
    | some device =>
      obtain ⟨report, hreport⟩ := renameDevice_of_refuses h s device.id pattern (recordsOf events)
      refine ⟨report, fun _ naming => ?_⟩
      simp only [hselected, hreport]
    | none =>
      have hperform : ∀ adding, Store.perform ⟨commandConfig, _, s⟩ adding (.add firstDraft) =
          ⟨.error (.storage e), ⟨commandConfig, _, s⟩, []⟩ := fun adding => commit_of_refuses h s _ _ _
      simp only [hselected, hperform]
      exact ⟨_, fun _ _ => rfl⟩

theorem get_of_load {found : Option State} (hload : Store.load b commandConfig.storageKey = .ok found) :
    ∃ text, Backend.get b commandConfig.storageKey = .ok text := by
  unfold Store.load at hload
  cases hget : Backend.get b commandConfig.storageKey with
  | error e =>
    rw [hget] at hload
    cases hload
  | ok text => exact ⟨text, rfl⟩

theorem batchRename_of_load_error (hload : Store.load b commandConfig.storageKey = .error e) (pattern : String)
    (adding naming : Moment) : batchRename b pattern adding naming = (failedReport [] e.message, b) := by
  unfold batchRename Store.openWith
  rw [hload]

end Untouched

/-! ### Directories -/

/-- **The command comes to rest after one run.** Whatever is in the directory, a second run with the same pattern ends
with the same exit code, the same lines and the same errors. It leaves the state that the first one has left, or the
same but for the time of the last change of the selected device. If no state can be loaded, the directory stays as it
is. -/
theorem batchRename_again (d : Directory) (pattern : String) (adding naming adding' naming' : Moment)
    {first second : CommandReport × Directory} (hfirst : batchRename d pattern adding naming = first)
    (hsecond : batchRename first.2 pattern adding' naming' = second) :
    second.1.view = first.1.view ∧
      (Store.load second.2 commandConfig.storageKey = Store.load first.2 commandConfig.storageKey ∨
        ∃ s, Store.load first.2 commandConfig.storageKey = .ok (some s) ∧
          Store.load second.2 commandConfig.storageKey = .ok (some (s.touchSelected naming'.now))) ∧
      ∀ e, Store.load d commandConfig.storageKey = .error e → first.2 = d ∧ second.2 = d := by
  -- If a run changes nothing whenever it starts, the second one is the first.
  have hrest : ∀ report, (∀ adding naming, batchRename d pattern adding naming = (report, d)) →
      first = (report, d) ∧ second = (report, d) := by
    intro report hruns
    have hsame : first = (report, d) := hfirst.symm.trans (hruns adding naming)
    rw [hsame, hruns] at hsecond
    exact ⟨hsame, hsecond.symm⟩
  cases hload : Store.load d commandConfig.storageKey with
  | error e =>
    obtain ⟨rfl, rfl⟩ := hrest _ fun adding naming => batchRename_of_load_error hload pattern adding naming
    exact ⟨rfl, .inl rfl, fun _ _ => ⟨rfl, rfl⟩⟩
  | ok found =>
    obtain ⟨text, hget⟩ := get_of_load hload
    have hloaded : ∀ e, (Except.ok found : Except StorageError (Option State)) = .error e →
        first.2 = d ∧ second.2 = d := fun e h => by cases h
    rcases Directory.writable_or_refuses hget with hwritable | ⟨e, hrefuses⟩
    · obtain ⟨hview, s, hfirst', hsame | htouched⟩ :=
        batchRename_of_takes (Directory.takes _) hwritable hload pattern adding naming adding' naming' hfirst hsecond
      · exact ⟨hview, .inl (hsame.trans hfirst'.symm), hloaded⟩
      · exact ⟨hview, .inr ⟨s, hfirst', htouched⟩, hloaded⟩
    · obtain ⟨report, hruns⟩ := batchRename_of_refuses hrefuses pattern
      obtain ⟨rfl, rfl⟩ := hrest report hruns
      exact ⟨rfl, .inl rfl, hloaded⟩

/-- A directory with a text in place of a state. -/
def unreadable : Directory := { entries := [(targetName commandConfig.storageKey, .file "no state".toUTF8)] }

/-- It is left as it is by two runs, of which the second complains as the first does. In an empty directory, a pattern
that is refused after a device was added is refused alike when the device is there. -/
theorem batchRename_again_unreadable :
    (batchRename (batchRename unreadable "E1/1" (.numbered 0) (.numbered 1)).2 "E1/1" (.numbered 2) (.numbered 3)).2 =
        unreadable ∧
      (batchRename (batchRename unreadable "E1/1" (.numbered 0) (.numbered 1)).2 "E1/1" (.numbered 2)
          (.numbered 3)).1.view = (batchRename unreadable "E1/1" (.numbered 0) (.numbered 1)).1.view ∧
      (batchRename (batchRename ({} : Directory) " " (.numbered 0) (.numbered 1)).2 " " (.numbered 2)
          (.numbered 3)).1.view = (batchRename ({} : Directory) " " (.numbered 0) (.numbered 1)).1.view := by
  have hload : ∃ e, Store.load unreadable commandConfig.storageKey = .error e := by
    have hget : Backend.get unreadable commandConfig.storageKey = .ok (some "no state") := by
      show unreadable.get commandConfig.storageKey = _
      unfold Directory.get
      rw [if_pos (by decide +kernel), Directory.readFile_of_file rfl rfl]
    unfold Store.load
    rw [hget]
    exact ⟨_, rfl⟩
  obtain ⟨e, hload⟩ := hload
  obtain ⟨hview, -, huntouched⟩ := batchRename_again unreadable "E1/1" (.numbered 0) (.numbered 1) (.numbered 2)
    (.numbered 3) rfl rfl
  obtain ⟨hview', -⟩ := batchRename_again {} " " (.numbered 0) (.numbered 1) (.numbered 2) (.numbered 3) rfl rfl
  exact ⟨(huntouched e hload).2, hview, hview'⟩

end PortGrid
