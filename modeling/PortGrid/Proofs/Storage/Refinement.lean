import PortGrid.Proofs.Storage.Directory
import PortGrid.Storage.Memory

/-!
# A directory keeps texts as memory does

A directory holds a memory if under the name of every key stands the file of its text, or nothing if there is none, and
if no folder is in the way. Every call keeps this as long as its key is valid and short enough for both of its names:
reading finds the file of the key alone, writing changes the file of the key alone, since the file that it passes
through belongs to no key, and removing leaves every other file. So any calls are answered alike by a directory that was
empty and by a memory that was. A key that is not valid is refused before anything is done.

Key definitions: `StorageCall`, `StorageCall.perform`, `answers`, `Directory.Holds`.
Key theorems: `Directory.get_eq`, `Directory.set_eq`, `Directory.remove_eq`, `Directory.Holds.perform`,
`Directory.answers_eq`.
-/

namespace PortGrid

/-! ### Calls -/

inductive StorageCall where
  | get (key : String)
  | set (key text : String)
  | remove (key : String)

/-- What a call answers: the text of a key, or that it is done. -/
inductive StorageAnswer where
  | text (found : Option String)
  | done
deriving DecidableEq

namespace StorageCall

def key : StorageCall → String
  | get key => key
  | set key _ => key
  | remove key => key

variable {β : Type} [Backend β]

/-- The answer of a storage, or its refusal, and the storage after the call. -/
def perform (b : β) : StorageCall → Except StorageError StorageAnswer × β
  | get key => ((Backend.get b key).map .text, b)
  | set key text => ((Backend.set b key text).1.map fun _ => .done, (Backend.set b key text).2)
  | remove key => ((Backend.remove b key).1.map fun _ => .done, (Backend.remove b key).2)

end StorageCall

/-- The answers of a storage to calls one after the other. -/
def answers {β : Type} [Backend β] (b : β) : List StorageCall → List (Except StorageError StorageAnswer)
  | [] => []
  | call :: calls => (call.perform b).1 :: answers (call.perform b).2 calls

/-! ### Memory -/

namespace MemoryStorage

variable (m : MemoryStorage) (key other : String)

theorem get?_erase : (m.erase other).get? key = if key = other then none else m.get? key :=
  lookup_filter_ne key other m.entries

theorem get?_insert (text : String) :
    (m.insert other text).get? key = if key = other then some text else m.get? key := by
  show ((other, text) :: (m.erase other).entries).lookup key = _
  rw [List.lookup_cons]
  by_cases h : key = other
  · simp [h]
  · have hbeq : (key == other) = false := by simpa using h
    rw [hbeq, if_neg h]
    exact (m.get?_erase key other).trans (if_neg h)

end MemoryStorage

namespace Directory

/-! ### Directories that hold a memory -/

/-- The directory has room for names of any permitted length, no folders, and under the name of each key the file of the
text that the memory has. -/
structure Holds (d : Directory) (m : MemoryStorage) : Prop where
  room : d.pathBytes + maxNameBytes ≤ maxPathBytes
  no_folder : ∀ name, d.entry? name ≠ some .folder
  texts : ∀ key, d.entry? (targetName key) = (m.get? key).map fun text => .file text.toUTF8

/-- A key whose two names are not too long. -/
structure Fits (key : String) : Prop where
  valid : isValidKey key = true
  short : key.utf8ByteSize ≤ 246

theorem checkName_ok {d : Directory} (hroom : d.pathBytes + maxNameBytes ≤ maxPathBytes) {name : String}
    (hname : name.utf8ByteSize ≤ maxNameBytes) : d.checkName name = .ok () := by
  unfold checkName
  rw [if_neg (by omega)]

/-- A directory that holds a memory takes a text under every key that fits. -/
theorem Holds.writable {d : Directory} {m : MemoryStorage} {key : String} (h : d.Holds m) (hkey : Fits key) :
    d.Writable key := by
  have hshort := hkey.short
  refine ⟨hkey.valid, checkName_ok h.room ?_, checkName_ok h.room ?_, h.no_folder _, h.no_folder _⟩
  · rw [utf8ByteSize_stagingName (ne_empty_of_isValidKey hkey.valid)]
    unfold maxNameBytes
    omega
  · rw [utf8ByteSize_targetName]
    unfold maxNameBytes
    omega

/-! ### Calls on a directory that holds a memory -/

variable {d : Directory} {m : MemoryStorage} {key : String}

theorem get_eq (h : d.Holds m) (hkey : Fits key) : d.get key = .ok (m.get? key) := by
  have htext := h.texts key
  have hname := (h.writable hkey).target
  unfold get
  rw [if_pos hkey.valid]
  cases hm : m.get? key with
  | none =>
    rw [hm] at htext
    rw [readFile_of_none hname htext]
  | some text =>
    rw [hm] at htext
    rw [readFile_of_file hname htext]

theorem set_eq (h : d.Holds m) (hkey : Fits key) (text : String) :
    ∃ d', d.set key text = (.ok (), d') ∧ d'.Holds (m.insert key text) := by
  have hne := stagingName_ne_targetName (ne_empty_of_isValidKey hkey.valid)
  obtain ⟨d', hset, hbytes, hentry⟩ := (h.writable hkey).set_eq text
  refine ⟨d', hset, hbytes ▸ h.room, fun name => ?_, fun other => ?_⟩
  · rw [hentry]
    split
    · simp
    · split
      · simp
      · exact h.no_folder name
  · rw [hentry, MemoryStorage.get?_insert, if_neg (hne other).symm, h.texts]
    simp only [targetName_inj]
    split <;> rfl

theorem remove_eq (h : d.Holds m) (hkey : Fits key) :
    ∃ d', d.remove key = (.ok (), d') ∧ d'.Holds (m.erase key) := by
  have htext := h.texts key
  have hname := (h.writable hkey).target
  unfold remove
  rw [if_pos hkey.valid]
  cases hm : m.get? key with
  | none =>
    rw [hm] at htext
    -- There is no file to remove, nor a text in the memory.
    rw [removeFile_of_none hname htext]
    refine ⟨d, rfl, h.room, h.no_folder, fun other => ?_⟩
    rw [h.texts, MemoryStorage.get?_erase]
    by_cases hother : other = key
    · rw [hother, hm, if_pos rfl]
    · rw [if_neg hother]
  | some text =>
    rw [hm] at htext
    rw [removeFile_of_file hname htext]
    refine ⟨d.drop (targetName key), rfl, h.room, fun name => ?_, fun other => ?_⟩
    · rw [entry?_drop]
      split
      · simp
      · exact h.no_folder name
    · rw [entry?_drop, MemoryStorage.get?_erase, h.texts]
      simp only [targetName_inj]
      split <;> rfl

/-- **A call is answered alike, and the directory goes on holding the memory.** -/
theorem Holds.perform (h : d.Holds m) {call : StorageCall} (hkey : Fits call.key) :
    (call.perform d).1 = (call.perform m).1 ∧ (call.perform d).2.Holds (call.perform m).2 := by
  cases call with
  | get key =>
    have hget := get_eq h hkey
    exact ⟨congrArg (Except.map StorageAnswer.text) hget, h⟩
  | set key text =>
    obtain ⟨d', hset, hholds⟩ := set_eq h hkey text
    have hset' : Backend.set d key text = (.ok (), d') := hset
    rw [StorageCall.perform, StorageCall.perform, hset']
    exact ⟨rfl, hholds⟩
  | remove key =>
    obtain ⟨d', hremove, hholds⟩ := remove_eq h hkey
    have hremove' : Backend.remove d key = (.ok (), d') := hremove
    rw [StorageCall.perform, StorageCall.perform, hremove']
    exact ⟨rfl, hholds⟩

theorem Holds.answers_run : ∀ (calls : List StorageCall) {d : Directory} {m : MemoryStorage}, d.Holds m →
    (∀ call ∈ calls, Fits call.key) → answers d calls = answers m calls
  | [], _, _, _, _ => rfl
  | call :: calls, d, m, h, hkeys => by
    obtain ⟨hanswer, hholds⟩ := h.perform (hkeys call List.mem_cons_self)
    have hrest := hholds.answers_run calls fun c hc => hkeys c (List.mem_cons_of_mem call hc)
    rw [answers, answers, hanswer, hrest]

theorem holds_empty {d : Directory} (hempty : d.entries = []) (hroom : d.pathBytes + maxNameBytes ≤ maxPathBytes) :
    d.Holds {} := by
  have hnone : ∀ name, d.entry? name = none := by
    intro name
    unfold entry?
    rw [hempty]
    rfl
  refine ⟨hroom, fun name => ?_, fun key => ?_⟩
  · rw [hnone]
    simp
  · rw [hnone]
    rfl

/-- A key that is not valid is refused, and the directory stays as it is. -/
theorem perform_of_invalid {call : StorageCall} (h : isValidKey call.key = false) (d : Directory) :
    call.perform d = (.error (.invalidKey call.key), d) := by
  have hvalid : ¬ isValidKey call.key = true := by
    rw [h]
    decide
  cases call with
  | get key =>
    have hget : Backend.get d key = .error (.invalidKey key) := if_neg hvalid
    rw [StorageCall.perform, hget]
    rfl
  | set key text =>
    have hset : Backend.set d key text = (.error (.invalidKey key), d) := if_neg hvalid
    rw [StorageCall.perform, hset]
    rfl
  | remove key =>
    have hremove : Backend.remove d key = (.error (.invalidKey key), d) := if_neg hvalid
    rw [StorageCall.perform, hremove]
    rfl

/-- **A directory is a memory.** Any calls on valid keys of at most 246 bytes are answered by a directory that is empty
at first as they are by a memory that is, if its path leaves room for the names. And whatever is in a directory, a call
on a key that is not valid is refused and changes nothing. -/
theorem answers_eq {d : Directory} (hempty : d.entries = []) (hroom : d.pathBytes + maxNameBytes ≤ maxPathBytes)
    {calls : List StorageCall} (hkeys : ∀ call ∈ calls, isValidKey call.key = true ∧ call.key.utf8ByteSize ≤ 246) :
    answers d calls = answers ({} : MemoryStorage) calls ∧
      ∀ (call : StorageCall) (d' : Directory), isValidKey call.key = false →
        call.perform d' = (.error (.invalidKey call.key), d') :=
  ⟨(holds_empty hempty hroom).answers_run calls fun call hcall => ⟨(hkeys call hcall).1, (hkeys call hcall).2⟩,
    fun _ d' h => perform_of_invalid h d'⟩

/-- Keys whose files have names that look alike, each written, read or removed in turn. -/
def lookAlikes : List StorageCall :=
  [.set "a" "1", .set "a.json" "2", .set "a.json.tmp" "3", .remove "a.json", .get "a", .get "a.json", .get "a.json.tmp"]

/-- An empty directory tells them apart as memory does, and refuses a key that leads out of it. -/
theorem answers_lookAlikes :
    answers ({} : Directory) lookAlikes = [.ok .done, .ok .done, .ok .done, .ok .done, .ok (.text (some "1")),
        .ok (.text none), .ok (.text (some "3"))] ∧
      (StorageCall.get "../escape").perform ({} : Directory) = (.error (.invalidKey "../escape"), {}) := by
  have hkeys : ∀ call ∈ lookAlikes, isValidKey call.key = true ∧ call.key.utf8ByteSize ≤ 246 := by decide +kernel
  obtain ⟨hanswers, hinvalid⟩ := answers_eq (d := {}) rfl (by decide) hkeys
  exact ⟨hanswers.trans rfl, hinvalid (.get "../escape") {} (by decide +kernel)⟩

end Directory
end PortGrid
