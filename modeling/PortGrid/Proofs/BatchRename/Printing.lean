import PortGrid.Proofs.BatchRename
import PortGrid.Proofs.Naming.Invariance
import PortGrid.Proofs.Store.RowMajor

/-!
# What the command prints

The command prints the ports of a row as it meets them in the list, and it does not sort them. So the rows come out as
they stand in the grid because the list does: it was written in row-major order, it is read as it was written, and new
names move no port. As every cell has one port, a line has one name for every column: the one that the pattern gives, or
else the one that the port had.

The text that is read may come from any store, and lie in any directory in which the command can write. The directory
of a store is one, once the store has written to it.

Key definitions: `Equipment.printed`, `Leaves`.
Key theorems: `Equipment.RowMajor.gridLines_withNames`, `view_batchRename`, `Store.written_of_get`,
`batchRename_prints`.
-/

namespace PortGrid

namespace Equipment

/-- A line with the name and the size of a device, and for every row a line with the names on its cells, in column
order: those that are given, or else those that the ports have. -/
def printed (e : Equipment) (names : Names) : List String :=
  s!"{e.name} ({e.layout.rows}x{e.layout.cols})" ::
    (List.range e.layout.rows.toNat).map fun row =>
      "  " ++ "  ".intercalate ((List.range e.layout.cols.toNat).flatMap fun col =>
        (e.portsAt ⟨.ofNat row, .ofNat col⟩).map fun port => (names.get? port.id).getD port.name)

/-- The lines of a device with other names. The ports are printed as the list has them, which is as they stand. -/
theorem RowMajor.gridLines_withNames {e : Equipment} (h : e.RowMajor) (names : Names) :
    gridLines (e.withNames names) = e.printed names := by
  have hline : ∀ row ∈ List.range e.layout.rows.toNat,
      ((e.withNames names).ports.filter (·.position.row.toNat = row)).map (·.name) =
        (List.range e.layout.cols.toNat).flatMap fun col =>
          (e.portsAt ⟨.ofNat row, .ofNat col⟩).map fun port => (names.get? port.id).getD port.name := by
    intro row hrow
    have hports : (e.withNames names).ports = e.ports.map names.rename := rfl
    rw [← List.map_flatMap, ← h.filter_row (List.mem_range.mp hrow), hports, List.filter_map, List.map_map]
    rfl
  unfold gridLines printed
  congr 1
  apply List.map_congr_left
  intro row hrow
  rw [hline row hrow]

end Equipment

section Taken

variable {β : Type} [Backend β] {valid : β → Prop} {b : β}

theorem view_batchRename (takes : Takes commandConfig.storageKey valid) (hvalid : valid b) {found : State}
    (hload : Store.load b commandConfig.storageKey = .ok (some found)) {pattern : String} {p : NamePattern}
    (hpattern : NamePattern.parse pattern = .ok p) {adding : Moment} (hadmits : found.Admits adding) (naming : Moment) :
    (batchRename b pattern adding naming).1.view =
      (0, gridLines ((found.commandDevice adding).withNames (p.assign (found.commandDevice adding).ports)), []) := by
  obtain ⟨b', s, e, records, hready, hrecords, hrun, hdevice⟩ :=
    exists_ready takes hvalid hload pattern adding naming
  rw [hrun, (hready.renameDevice takes pattern naming hrecords).1, hdevice found rfl hadmits, renamedView,
    assignNames_of_parse hpattern]

end Taken

theorem State.RowMajor.commandDevice {s : State} (h : s.RowMajor) (adding : Moment) :
    (s.commandDevice adding).RowMajor := by
  unfold State.commandDevice
  cases hselected : s.selected? with
  | none => exact firstDraft.rowMajor_build s.portLabel adding
  | some e => exact h e (State.mem_of_equipment? (State.selected_of_selected? hselected).2)

/-! ### The file that a store leaves -/

/-- What may become of a directory from which a key was missing: it refuses every text and is as it was, or it takes
every text and holds none that is not on record. -/
inductive Leaves (d : Directory) (key : String) (b : Recorded Directory) : Prop where
  | untouched (hsame : b.inner = d) (hrefuses : ∃ e, Refuses d key e)
  | written (hwritable : b.inner.Writable key)
    (hrecorded : ∀ text, Backend.get b key = .ok (some text) → ∃ w ∈ b.writes, w.text = text)

theorem Leaves.of_get_none {d : Directory} {key : String} (hempty : Backend.get d key = .ok none) :
    Leaves d key ⟨d, []⟩ := by
  rcases Directory.writable_or_refuses hempty with hwritable | hrefuses
  · exact .written hwritable fun text hget => by cases hempty.symm.trans hget
  · exact .untouched rfl hrefuses

theorem Leaves.set {d : Directory} {key : String} {b : Recorded Directory} (h : Leaves d key b) (text : String) :
    Leaves d key (Backend.set b key text).2 := by
  cases h with
  | untouched hsame hrefuses =>
    obtain ⟨e, he⟩ := hrefuses
    refine .untouched ?_ ⟨e, he⟩
    show (Backend.set b.inner key text).2 = d
    rw [hsame, he]
  | written hwritable _ =>
    obtain ⟨d', hset, hget, hwritable'⟩ := hwritable.get_set text
    have hinner : (Backend.set b key text).2.inner = d' := congrArg Prod.snd hset
    refine .written (hinner ▸ hwritable') fun text' hget' => ?_
    obtain rfl : text = text' := by
      change Backend.get (Backend.set b key text).2.inner key = _ at hget'
      rw [hinner] at hget'
      exact Option.some.inj (Except.ok.inj (hget.symm.trans hget'))
    have hwrites : (Backend.set b key text).2.writes = _ := Recorded.writes_set rfl
    exact ⟨_, hwrites ▸ List.mem_concat_self, rfl⟩

/-- **What a store leaves in its directory.** If there was no file under its key at first and there is one after a run,
it holds a text that the run has written, and the directory takes another one. -/
theorem Store.written_of_get {config : StoreConfig} {d : Directory}
    (hempty : Backend.get d config.storageKey = .ok none) {s : Store Directory} {events : List Event}
    (hopen : openWith config d = .ok (s, events)) (ops : List (Moment × Operation)) {text : String}
    (hfile : Backend.get (s.run ops).backend config.storageKey = .ok (some text)) :
    (∃ w ∈ s.writes ops, w.text = text) ∧ (s.run ops).backend.Writable config.storageKey := by
  obtain ⟨rfl, rfl, -⟩ := kept_of_openWith hopen
  have hinner : (s.recorded.run ops).backend.inner = (s.run ops).backend :=
    congrArg Store.backend (run_recorded ops s.recorded)
  have hleaves : Leaves s.backend s.config.storageKey (s.recorded.run ops).backend :=
    backend_induction (fun _ text h => h.set text) ops (.of_get_none hempty)
  rw [← hinner] at hfile ⊢
  cases hleaves with
  | untouched hsame _ =>
    rw [hsame, hempty] at hfile
    cases hfile
  | written hwritable hrecorded => exact ⟨hrecorded text hfile, hwritable⟩

/-! ### The command on such a file -/

/-- **The command prints the grid as it is renamed.** Let a store that started on an empty storage have written its
state in the course of any operations, and let a directory hold the text in the file of the command and not refuse
another one. For every pattern that is accepted, the command ends with code zero and without an error. It prints the
name and the size of the selected device, or of the one that it adds, and then a line for each row with the names of the
ports in column order, of which each cell has exactly one: the name that the pattern gives, or else the one that was
stored. -/
theorem batchRename_prints {β : Type} [Backend β] {config : StoreConfig} {b : β}
    (hempty : Backend.get b config.storageKey = .ok none) {s : Store β} {events : List Event}
    (hopen : Store.openWith config b = .ok (s, events)) {ops : List (Moment × Operation)} {w : WriteRecord}
    (hw : w ∈ s.writes ops) {d : Directory} (hfile : d.get commandConfig.storageKey = .ok (some w.text))
    (htakes : ∀ e, ¬ Refuses d commandConfig.storageKey e) {pattern : String} {p : NamePattern}
    (hpattern : NamePattern.parse pattern = .ok p) (adding naming : Moment) :
    ∃ found : State, w.text = found.snapshot ∧ Store.load d commandConfig.storageKey = .ok (some found) ∧
      (found.Admits adding →
        (found.commandDevice adding).OnePerCell ∧
          (batchRename d pattern adding naming).1.view =
            (0, (found.commandDevice adding).printed (p.assign (found.commandDevice adding).ports), [])) := by
  obtain ⟨found, hrowMajor, htext⟩ := Store.rowMajor_writes hempty hopen hw
  have hload : Store.load d commandConfig.storageKey = .ok (some found) := Store.load_of_get (htext ▸ hfile)
  have hwritable : d.Writable commandConfig.storageKey :=
    (Directory.writable_or_refuses hfile).resolve_right fun ⟨e, hrefuses⟩ => htakes e hrefuses
  refine ⟨found, htext, hload, fun hadmits => ?_⟩
  have hdevice := hrowMajor.commandDevice adding
  refine ⟨hdevice.onePerCell, ?_⟩
  rw [view_batchRename (Directory.takes _) hwritable hload hpattern hadmits, hdevice.gridLines_withNames]

/-- A device of one row, of which the last port has been named. -/
def namedUplink : List (Moment × Operation) :=
  [(.numbered 0, .add { name := "core", layout := ⟨1, 2, one_pos, two_pos⟩ }),
    (.numbered 2, .updatePort ⟨"0"⟩ ⟨"1"⟩ { name := some "uplink" })]

/-- What a store in memory holds then. -/
def withUplink : State := ((Store.fresh ({} : MemoryStorage)).run namedUplink).state

/-- The directory with its state in the file of the command. -/
def uplinkDirectory : Directory :=
  { entries := [(targetName commandConfig.storageKey, .file withUplink.snapshot.toUTF8)] }

/-- A range of one name is given to the first port, and the other one keeps its name. -/
theorem batchRename_prints_uplink :
    (batchRename uplinkDirectory "E1/1-1/1" (.numbered 3) (.numbered 4)).1.view =
      (0, ["core (1x2)", "  E1/1  uplink"], []) := by
  have hopen : Store.openWith {} ({} : MemoryStorage) = .ok (.fresh {}, [.startedEmpty "port-status-storage"]) := rfl
  have hparse : NamePattern.parse "E1/1-1/1" = .ok (.range "E" ⟨1, 1⟩ ⟨1, 1⟩) := by decide +kernel
  have hfile : uplinkDirectory.get commandConfig.storageKey = .ok (some withUplink.snapshot) := by
    unfold Directory.get
    rw [if_pos (by decide +kernel), Directory.readFile_of_file rfl rfl]
  have hw : ⟨"port-status-storage", withUplink.snapshot, true⟩ ∈
      (Store.fresh ({} : MemoryStorage)).writes namedUplink := List.mem_cons_of_mem _ List.mem_cons_self
  have htakes : ∀ e, ¬ Refuses uplinkDirectory commandConfig.storageKey e := by
    intro e hrefuses
    have hset : (uplinkDirectory.set commandConfig.storageKey "").1.toBool = true := by decide +kernel
    rw [show uplinkDirectory.set commandConfig.storageKey "" = (.error e, uplinkDirectory) from hrefuses ""] at hset
    cases hset
  obtain ⟨found, htext, hload, hprints⟩ :=
    batchRename_prints rfl hopen hw hfile htakes hparse (.numbered 3) (.numbered 4)
  obtain rfl : withUplink = found := by
    have hload' := Store.load_of_get (b := uplinkDirectory) hfile
    exact Option.some.inj (Except.ok.inj (hload'.symm.trans hload))
  have hselected : withUplink.selected?.isSome = true := by decide +kernel
  have hadmits : withUplink.Admits (.numbered 3) := fun hnone => by simp [hnone] at hselected
  have hsorted : Equipment.sortPorts (withUplink.commandDevice (.numbered 3)).ports =
      (withUplink.commandDevice (.numbered 3)).ports := List.mergeSort_of_pairwise (by decide +kernel)
  rw [(hprints hadmits).2, NamePattern.assign, hsorted]
  decide +kernel

end PortGrid
