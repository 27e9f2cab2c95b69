import PortGrid.Proofs.Storage.Interruption
import PortGrid.Proofs.Storage.Refinement
import PortGrid.Proofs.Text.Reading
import PortGrid.Storage.Tree

/-!
# Keys and paths

The two names of a valid key consist of the characters of keys, of which none separates the steps of a path, and they
are longer than the names with a meaning of their own. So each of them is one step of a path, and the path of a directory
with this step behind it leads to what the directory has under the name, and to nothing else. A key that is not valid is
refused, and a valid one is refused for other reasons only.

Key definitions: `KeyChar`, `PlainName`, `Path.join`, `DirectChild`.
Key theorems: `isValidKey_iff`, `Directory.refusesKey_iff`, `Path.written_append_slash`, `Path.parse_join`,
`Tree.walk_append`, `Tree.entry?_directoryAt`, `PlainName.directChild`, `withExtension_join`,
`Directory.entry?_set_of_ne`, `keys_insideAndApart`.
-/

namespace PortGrid

/-! ### Valid keys -/

/-- An ASCII letter or digit, a dash, an underscore or a dot. -/
def KeyChar (c : Char) : Prop :=
  ('A' ≤ c ∧ c ≤ 'Z') ∨ ('a' ≤ c ∧ c ≤ 'z') ∨ ('0' ≤ c ∧ c ≤ '9') ∨ c = '-' ∨ c = '_' ∨ c = '.'

theorem keyChar_iff {c : Char} :
    (c.isAlphanum || c == '-' || c == '_' || c == '.') = true ↔ KeyChar c := by
  have halphanum : c.isAlphanum = (c.isUpper || c.isLower || c.isDigit) := rfl
  simp only [KeyChar, halphanum, Bool.or_eq_true, beq_iff_eq, isUpper_iff, isLower_iff, isDigit_iff, Char.le_def,
    ge_iff_le, or_assoc]

theorem isValidKey_iff {key : String} :
    isValidKey key = true ↔ key ≠ "" ∧ key ≠ "." ∧ key ≠ ".." ∧ ∀ c ∈ key.toList, KeyChar c := by
  simp only [isValidKey, Bool.and_eq_true, Bool.not_eq_true', bne_iff_ne, List.all_eq_true, keyChar_iff, and_assoc,
    String.isEmpty_eq_false_iff]

namespace Directory

theorem perform_ne_invalidKey {call : StorageCall} (h : isValidKey call.key = true) (d : Directory) (key : String) :
    (call.perform d).1 ≠ .error (.invalidKey key) := by
  intro hrefused
  cases call with
  | get name =>
    have hvalid : isValidKey name = true := h
    have hget : (d.get name).map StorageAnswer.text = .error (.invalidKey key) := hrefused
    rw [get, if_pos hvalid] at hget
    split at hget <;> cases hget
  | set name text =>
    have hvalid : isValidKey name = true := h
    have hset : (d.set name text).1.map (fun _ => StorageAnswer.done) = .error (.invalidKey key) := hrefused
    rw [set, if_pos hvalid] at hset
    split at hset
    · cases hset
    · split at hset <;> cases hset
  | remove name =>
    have hvalid : isValidKey name = true := h
    have hremove : (d.remove name).1.map (fun _ => StorageAnswer.done) = .error (.invalidKey key) := hrefused
    rw [remove, if_pos hvalid] at hremove
    split at hremove <;> cases hremove

/-- A call is refused for its key exactly if the key is not valid. -/
theorem refusesKey_iff (call : StorageCall) (d : Directory) :
    (call.perform d).1 = .error (.invalidKey call.key) ↔ isValidKey call.key = false := by
  constructor
  · intro h
    rw [← Bool.not_eq_true]
    exact fun hvalid => perform_ne_invalidKey hvalid d call.key h
  · intro h
    rw [perform_of_invalid h]

end Directory

/-! ### Plain names -/

/-- A name that is one step of a path: it is neither empty nor one of the steps that lead to the same folder or to the
one above, and nothing in it separates steps. -/
structure PlainName (name : String) : Prop where
  ne_empty : name ≠ ""
  ne_dot : name ≠ "."
  ne_dots : name ≠ ".."
  no_slash : '/' ∉ name.toList

theorem plainName_of_keyChars {name : String} (hchars : ∀ c ∈ name.toList, KeyChar c) (hlength : 2 < name.length) :
    PlainName name := by
  have hne : ∀ short : String, short.length ≤ 2 → name ≠ short := by
    rintro short hshort rfl
    omega
  exact ⟨hne "" (by decide), hne "." (by decide), hne ".." (by decide),
    fun hslash => absurd (keyChar_iff.mpr (hchars _ hslash)) (by decide)⟩

/-! ### Paths -/

namespace Path

/-- The path of a name in the directory at a path: a slash is put between them unless the path is empty or ends in one.
What begins with a slash is a path of its own. -/
def join (root name : String) : String :=
  if name.startsWith "/" then name
  else if root = "" ∨ root.toList.getLast? = some '/' then root ++ name
  else root ++ "/" ++ name

/-- A path is written step by step. -/
theorem written_append_slash (root name : String) : written (root ++ "/" ++ name) = written name ++ written root := by
  have hslash : (root ++ "/" ++ name).toList = root.toList ++ '/' :: name.toList := by simp
  rw [written, hslash, List.splitOn_append_cons_self, List.map_append, List.reverse_append, List.filter_append]
  rfl

theorem written_empty : written "" = [] := by
  simp [written]

variable {name : String}

theorem written_plain (h : PlainName name) : written name = [name] := by
  rw [written, List.splitOn_eq_singleton h.no_slash]
  simp [h.ne_empty]

theorem not_startsWith_slash (h : PlainName name) : name.startsWith "/" = false := by
  rw [← Bool.not_eq_true, String.startsWith_string_iff]
  exact fun hslash => h.no_slash (hslash.subset (by simp))

/-- A plain name is put behind a path as it is, or with a slash in front. -/
theorem join_cases (root : String) : (root = "" ∧ ∀ name, PlainName name → join root name = name) ∨
    ∃ above, root ≠ "" ∧ (root = above ∨ root = above ++ "/") ∧
      ∀ name, PlainName name → join root name = above ++ "/" ++ name := by
  by_cases hempty : root = ""
  · refine .inl ⟨hempty, fun name h => ?_⟩
    rw [join, not_startsWith_slash h, if_neg Bool.false_ne_true, if_pos (.inl hempty), hempty, String.empty_append]
  · by_cases hend : root.toList.getLast? = some '/'
    · obtain ⟨above, habove⟩ := List.getLast?_eq_some_iff.mp hend
      have hroot : root = String.ofList above ++ "/" := by
        rw [← String.toList_inj, habove]
        simp
      refine .inr ⟨String.ofList above, hempty, .inr hroot, fun name h => ?_⟩
      rw [join, not_startsWith_slash h, if_neg Bool.false_ne_true, if_pos (.inr hend), ← hroot]
    · refine .inr ⟨root, hempty, .inl rfl, fun name h => ?_⟩
      rw [join, not_startsWith_slash h, if_neg Bool.false_ne_true, if_neg (not_or.mpr ⟨hempty, hend⟩)]

theorem written_join (h : PlainName name) (root : String) : written (join root name) = name :: written root := by
  rcases join_cases root with ⟨hroot, hjoin⟩ | ⟨above, -, hroot, hjoin⟩
  · rw [hjoin name h, hroot, written_plain h, written_empty]
  · have hwritten : written root = written above := by
      rcases hroot with rfl | rfl
      · rfl
      · rw [← String.append_empty (s := above ++ "/"), written_append_slash, written_empty, List.nil_append]
    rw [hjoin name h, written_append_slash, written_plain h, hwritten]
    rfl

theorem startsWith_append {root : String} (h : root ≠ "") (rest : String) :
    (root ++ rest).startsWith "/" = root.startsWith "/" := by
  obtain ⟨c, cs, hroot⟩ := List.exists_cons_of_ne_nil (mt String.toList_eq_nil_iff.mp h)
  have hslash : "/".toList = ['/'] := by decide
  rw [Bool.eq_iff_iff, String.startsWith_string_iff, String.startsWith_string_iff, String.toList_append, hroot, hslash,
    List.cons_append, List.cons_prefix_cons, List.cons_prefix_cons]
  simp

theorem startsWith_join (h : PlainName name) (root : String) :
    (join root name).startsWith "/" = root.startsWith "/" := by
  rcases join_cases root with ⟨hroot, hjoin⟩ | ⟨above, hne, hroot, hjoin⟩
  · rw [hjoin name h, hroot, not_startsWith_slash h]
    rfl
  · rw [hjoin name h]
    rcases hroot with rfl | rfl
    · rw [String.append_assoc]
      exact startsWith_append hne _
    · exact startsWith_append hne name

/-- **A plain name is one more step of a path.** -/
theorem parse_join (h : PlainName name) (root : String) :
    parse (join root name) = ⟨name :: (parse root).steps, false, (parse root).isAbsolute⟩ := by
  rw [parse, written_join h, startsWith_join h]
  simp [parse, h.ne_dot]

end Path

/-! ### What paths lead to -/

namespace Tree

variable {t : Tree} {here : Location} {name : String}

theorem walk_append (t : Tree) : ∀ (here : Location) (steps more : List String),
    t.walk here (steps ++ more) = (t.walk here steps).bind (t.walk · more)
  | _, [], _ => rfl
  | here, step :: steps, more => by
    rw [List.cons_append, walk, walk]
    cases hhere : t.entry? here with
    | none => rfl
    | some entry =>
      cases entry with
      | file content => rfl
      | folder =>
        simp only
        by_cases hup : step = ".."
        · rw [if_pos hup, if_pos hup]
          exact walk_append t _ steps more
        · rw [if_neg hup, if_neg hup]
          by_cases hlong : step.utf8ByteSize > maxNameBytes
          · rw [if_pos hlong, if_pos hlong]
            rfl
          · rw [if_neg hlong, if_neg hlong]
            cases t.entry? (step :: here) with
            | none => rfl
            | some found => exact walk_append t _ steps more

theorem walk_plain (hname : PlainName name) (hhere : t.entry? here = some .folder) (found : Location) :
    t.walk here [name] = .ok found ↔
      found = name :: here ∧ name.utf8ByteSize ≤ maxNameBytes ∧ t.entry? (name :: here) ≠ none := by
  rw [walk, hhere]
  simp only
  rw [if_neg hname.ne_dots]
  by_cases hlong : name.utf8ByteSize > maxNameBytes
  · rw [if_pos hlong]
    simp [Nat.not_le.mpr hlong]
  · rw [if_neg hlong]
    cases t.entry? (name :: here) with
    | none => simp
    | some entry => simp [walk, Nat.le_of_not_lt hlong, eq_comm]

theorem folderAt_eq_ok {base : Location} {steps : List String} (h : t.folderAt base steps = .ok here) :
    t.walk base steps.reverse = .ok here ∧ t.entry? here = some .folder := by
  unfold folderAt at h
  cases hwalk : t.walk base steps.reverse with
  | error fault =>
    rw [hwalk] at h
    cases h
  | ok there =>
    rw [hwalk] at h
    simp only [bind, Except.bind] at h
    split at h
    · rename_i hfolder
      cases h
      exact ⟨rfl, hfolder⟩
    · cases h

/-- A directory has under a name what stands there in the folder of which it is the directory. -/
theorem entry?_directoryAt (t : Tree) (here : Location) (bytes : Nat) (name : String) :
    Directory.entry? (t.directoryAt here bytes) name = t.entry? (name :: here) := by
  unfold directoryAt Directory.entry? entry?
  simp only
  induction t.entries with
  | nil => rfl
  | cons pair entries ih =>
    obtain ⟨location, entry⟩ := pair
    rw [List.lookup_cons]
    cases location with
    | nil =>
      have hother : (name :: here == []) = false := rfl
      rw [hother, List.filterMap_cons_none rfl]
      exact ih
    | cons other parent =>
      by_cases hparent : parent = here
      · have hname : (name :: here == other :: parent) = (name == other) := by
          rw [hparent]
          simp
        simp only [hname, List.filterMap_cons, if_pos hparent, List.lookup_cons, ih]
      · -- What stands in another folder is left out of the directory.
        have hother : (name :: here == other :: parent) = false := by
          rw [beq_eq_false_iff_ne]
          exact fun heq => hparent (List.cons.inj heq).2.symm
        simp only [hother, List.filterMap_cons, if_neg hparent, ih]

end Tree

/-- The path of the name in the directory at a path is one step longer, and wherever that directory stands, it leads to
what the directory has under the name, and to nothing else. -/
structure DirectChild (root name : String) : Prop where
  parse : Path.parse (Path.join root name) = ⟨name :: (Path.parse root).steps, false, (Path.parse root).isAbsolute⟩
  leads : ∀ (t : Tree) (start here : Location) (bytes : Nat), t.folderAt start (Path.parse root).steps = .ok here →
    ∀ found, t.walk start (Path.parse (Path.join root name)).steps.reverse = .ok found ↔
      found = name :: here ∧ name.utf8ByteSize ≤ maxNameBytes ∧ Directory.entry? (t.directoryAt here bytes) name ≠ none

/-- **A plain name stays inside the directory.** -/
theorem PlainName.directChild {name : String} (h : PlainName name) (root : String) : DirectChild root name where
  parse := Path.parse_join h root
  leads t start here bytes hroot found := by
    obtain ⟨hwalk, hfolder⟩ := Tree.folderAt_eq_ok hroot
    rw [Path.parse_join h, List.reverse_cons, Tree.walk_append, hwalk, Tree.entry?_directoryAt]
    exact Tree.walk_plain h hfolder found

/-! ### The names of keys -/

section Names

variable {key other : String}

theorem keyChar_of_mem_append (hkey : isValidKey key = true) (hother : isValidKey other = true) :
    ∀ c ∈ (key ++ other).toList, KeyChar c := by
  intro c hc
  rw [String.toList_append] at hc
  rcases List.mem_append.mp hc with hc | hc
  · exact (isValidKey_iff.mp hkey).2.2.2 c hc
  · exact (isValidKey_iff.mp hother).2.2.2 c hc

/-- The two names of a valid key are plain, and they consist of characters of keys. -/
theorem plainName_of_isValidKey (h : isValidKey key = true) {name : String}
    (hname : name = targetName key ∨ name = stagingName key) :
    (∀ c ∈ name.toList, KeyChar c) ∧ PlainName name := by
  -- Both endings would be keys themselves.
  have hending : ∀ {ending : String}, isValidKey ending = true → 2 < ending.length →
      (∀ c ∈ (key ++ ending).toList, KeyChar c) ∧ PlainName (key ++ ending) := by
    intro ending hvalid hlength
    have hchars := keyChar_of_mem_append h hvalid
    refine ⟨hchars, plainName_of_keyChars hchars ?_⟩
    rw [String.length_append]
    omega
  rcases hname with rfl | rfl
  · rw [targetName_eq]
    exact hending (by decide +kernel) (by decide)
  · rw [stagingName_eq (ne_empty_of_isValidKey h)]
    exact hending (by decide +kernel) (by decide)

/-- The path of the name under which a text is written first is that of the file of the key, with another extension. -/
theorem withExtension_join (h : isValidKey key = true) (root : String) :
    withExtension (Path.join root (targetName key)) "json.tmp" = Path.join root (stagingName key) := by
  have hne : key.toList ≠ [] := by simpa [String.toList_eq_nil_iff] using ne_empty_of_isValidKey h
  have hfront : ∃ front, ∀ name, PlainName name → Path.join root name = front ++ name := by
    rcases Path.join_cases root with ⟨-, hjoin⟩ | ⟨above, -, -, hjoin⟩
    · exact ⟨"", fun name hname => by rw [hjoin name hname, String.empty_append]⟩
    · exact ⟨above ++ "/", hjoin⟩
  obtain ⟨front, hjoin⟩ := hfront
  have htext : (front ++ targetName key).toList = front.toList ++ key.toList ++ '.' :: ['j', 's', 'o', 'n'] := by
    rw [targetName_eq, String.toList_append, String.toList_append, List.append_assoc]
    rfl
  have hstem : front.toList ++ key.toList ≠ [] := List.append_ne_nil_of_right_ne_nil _ hne
  rw [hjoin _ (plainName_of_isValidKey h (.inl rfl)).2, hjoin _ (plainName_of_isValidKey h (.inr rfl)).2, withExtension,
    htext, stemChars_append hstem (by decide), stagingName_eq (ne_empty_of_isValidKey h), ← String.toList_inj]
  simp [toString]

theorem stagingName_inj (hkey : key ≠ "") (hother : other ≠ "") :
    stagingName key = stagingName other ↔ key = other := by
  rw [stagingName_eq hkey, stagingName_eq hother, String.append_left_inj]

/-- Writing changes nothing under other names than the two of the key, whether it ends well or not. -/
theorem Directory.entry?_set_of_ne (h : isValidKey key = true) (d : Directory) (text : String) {name : String}
    (htarget : name ≠ targetName key) (hstaging : name ≠ stagingName key) :
    Directory.entry? (d.set key text).2 name = d.entry? name := by
  cases hset : d.set key text with
  | mk result d' =>
    cases result with
    | ok done =>
      obtain ⟨d₁, hset', -, hentry⟩ := (writable_of_set hset).set_eq text
      obtain rfl : d' = d₁ := (Prod.mk.inj (hset.symm.trans hset')).2
      rw [hentry, if_neg htarget, if_neg hstaging]
    | error e =>
      obtain ⟨fault, -, hfailed⟩ := reaches_failed h hset
      rcases hfailed.left h with rfl | ⟨count, hwrite⟩
      · rfl
      · obtain ⟨-, -, rfl⟩ := writeFile_eq_ok_iff.mp hwrite
        rw [entry?_put, if_neg hstaging]

end Names

/-- **Keys stay inside the directory and apart.** A key is valid if and only if it is neither empty nor one dot or two
dots, and consists of ASCII letters, digits, dashes, underscores and dots; and any call is refused for its key if and
only if the key is not valid. The text of a valid key is kept under the key with one ending, and written first under the
key with another one, which is the path of the first with its extension replaced. Both names consist of characters of
keys too and are plain, so that in the directory at whatever path, the path of each leads to what this directory has
under the name; and writing changes nothing under other names. The name under which a text is written first is not that
of the file of any key, and keys that differ have both names different. -/
theorem keys_insideAndApart :
    (∀ key, isValidKey key = true ↔ key ≠ "" ∧ key ≠ "." ∧ key ≠ ".." ∧ ∀ c ∈ key.toList, KeyChar c) ∧
      (∀ (call : StorageCall) (d : Directory),
        (call.perform d).1 = .error (.invalidKey call.key) ↔ isValidKey call.key = false) ∧
      (∀ key, isValidKey key = true →
        targetName key = key ++ ".json" ∧ stagingName key = key ++ ".json.tmp" ∧
          (∀ root, withExtension (Path.join root (targetName key)) "json.tmp" = Path.join root (stagingName key)) ∧
          (∀ name, name = targetName key ∨ name = stagingName key →
            (∀ c ∈ name.toList, KeyChar c) ∧ PlainName name ∧ ∀ root, DirectChild root name) ∧
          ∀ (d : Directory) text name, name ≠ targetName key → name ≠ stagingName key →
            Directory.entry? (d.set key text).2 name = d.entry? name) ∧
      ∀ key other, isValidKey key = true → isValidKey other = true →
        stagingName key ≠ targetName other ∧
          (key ≠ other → targetName key ≠ targetName other ∧ stagingName key ≠ stagingName other) := by
  refine ⟨fun key => isValidKey_iff, Directory.refusesKey_iff, fun key hkey => ?_, fun key other hkey hother => ?_⟩
  · refine ⟨targetName_eq key, stagingName_eq (ne_empty_of_isValidKey hkey), withExtension_join hkey,
      fun name hname => ?_, fun d text name => d.entry?_set_of_ne hkey text⟩
    obtain ⟨hchars, hplain⟩ := plainName_of_isValidKey hkey hname
    exact ⟨hchars, hplain, hplain.directChild⟩
  · have hkey := ne_empty_of_isValidKey hkey
    have hother := ne_empty_of_isValidKey hother
    exact ⟨stagingName_ne_targetName hkey other,
      fun hne => ⟨mt targetName_inj.mp hne, mt (stagingName_inj hkey hother).mp hne⟩⟩

/-- Three dots are a key like any other, but two are not. A key that looks like the file beside that of another key has
files of its own, which are not touched when a text is written under the other. -/
theorem keys_insideAndApart_lookAlikes :
    isValidKey "..." = true ∧
      Path.parse (Path.join "state/" (stagingName "...")) = ⟨["....json.tmp", "state"], false, false⟩ ∧
      ((StorageCall.get "..").perform Directory.cutShort).1 = .error (.invalidKey "..") ∧
      isValidKey "a" = true ∧ isValidKey "a.json.tmp" = true ∧ "a" ≠ "a.json.tmp" ∧
      stagingName "a" ≠ targetName "a.json.tmp" ∧ targetName "a" ≠ targetName "a.json.tmp" ∧
      Directory.entry? (Directory.cutShort.set "a" "new").2 "a.json.tmp.json" = some (.file "other".toUTF8) := by
  obtain ⟨-, hrefused, hnames, hapart⟩ := keys_insideAndApart
  have hdots : isValidKey "..." = true := by decide +kernel
  have ha : isValidKey "a" = true := by decide +kernel
  have hbeside : isValidKey "a.json.tmp" = true := by decide +kernel
  have hne : "a" ≠ "a.json.tmp" := by decide
  obtain ⟨hstaging, hdiffer⟩ := hapart "a" "a.json.tmp" ha hbeside
  obtain ⟨-, -, -, hchild, -⟩ := hnames "..." hdots
  obtain ⟨-, -, -, -, hkept⟩ := hnames "a" ha
  have hparse := ((hchild _ (.inr rfl)).2.2 "state/").parse
  have hroot : Path.parse "state/" = ⟨["state"], false, false⟩ := by decide +kernel
  have hname : stagingName "..." = "....json.tmp" := by decide +kernel
  rw [hroot, hname] at hparse
  refine ⟨hdots, hname ▸ hparse, (hrefused (.get "..") _).mpr (by decide +kernel), ha, hbeside, hne, hstaging,
    (hdiffer hne).1, ?_⟩
  exact (hkept _ "new" "a.json.tmp.json" (by decide +kernel) (by decide +kernel)).trans rfl

end PortGrid
