import PortGrid.Proofs.Storage.Laws
import PortGrid.Storage.Directory

/-!
# Names and files of a directory

The file of a key and the file beside it, in which its text is written first, have the key with an ending as their
names. Keys that differ have files that differ, and since the two endings differ too, no file that is written first is
the file of any key. What stands under a name after a file was put or dropped is what stood there before, unless it is
the name of that file.

Key theorems: `stagingName_eq`, `targetName_inj`, `stagingName_ne_targetName`, `Directory.entry?_put`,
`Directory.entry?_drop`.
-/

namespace PortGrid

/-! ### Names -/

theorem targetName_eq (key : String) : targetName key = key ++ ".json" := rfl

theorem stemChars_append {stem extension : List Char} (hstem : stem ≠ []) (hdot : '.' ∉ extension) :
    stemChars (stem ++ '.' :: extension) = stem := by
  have hreverse : (stem ++ '.' :: extension).reverse = extension.reverse ++ '.' :: stem.reverse := by simp
  have hbehind : ∀ c ∈ extension.reverse, decide (c ≠ '.') = true := by
    intro c hc
    rw [decide_eq_true_eq]
    rintro rfl
    exact hdot (List.mem_reverse.mp hc)
  have hdrop : (stem ++ '.' :: extension).reverse.dropWhile (· ≠ '.') = '.' :: stem.reverse := by
    rw [hreverse, List.dropWhile_append_of_pos hbehind, List.dropWhile_cons_of_neg (by simp)]
  unfold stemChars
  rw [hdrop]
  cases hs : stem.reverse with
  | nil => exact absurd (List.reverse_eq_nil_iff.mp hs) hstem
  | cons c before =>
    simp only
    rw [← hs, List.reverse_reverse]

/-- However many dots a key has, its file is written beside under the name of the file and one more extension. -/
theorem stagingName_eq {key : String} (hkey : key ≠ "") : stagingName key = key ++ ".json.tmp" := by
  have hstem : stemChars (targetName key).toList = key.toList := by
    have hne : key.toList ≠ [] := by simpa [String.toList_eq_nil_iff] using hkey
    have happend : (targetName key).toList = key.toList ++ '.' :: ['j', 's', 'o', 'n'] := by
      rw [targetName_eq, String.toList_append]
      rfl
    rw [happend, stemChars_append hne (by decide)]
  have hjoin : stagingName key = String.ofList (stemChars (targetName key).toList) ++ "." ++ "json.tmp" := rfl
  rw [hjoin, hstem, String.ofList_toList, String.append_assoc]
  rfl

theorem ne_empty_of_isValidKey {key : String} (h : isValidKey key = true) : key ≠ "" := by
  rintro rfl
  exact absurd h (by decide)

theorem targetName_inj {key other : String} : targetName key = targetName other ↔ key = other := by
  rw [targetName_eq, targetName_eq, String.append_left_inj]

/-- No file that is written first is the file of a key. -/
theorem stagingName_ne_targetName {key : String} (hkey : key ≠ "") (other : String) :
    stagingName key ≠ targetName other := by
  rw [stagingName_eq hkey, targetName_eq]
  intro h
  -- The one name ends in `p` and the other in `n`.
  have hlast := congrArg (fun name : String => name.toList.getLast?) h
  simp [List.getLast?_append] at hlast

theorem utf8ByteSize_targetName (key : String) : (targetName key).utf8ByteSize = key.utf8ByteSize + 5 :=
  String.utf8ByteSize_append

theorem utf8ByteSize_stagingName {key : String} (hkey : key ≠ "") :
    (stagingName key).utf8ByteSize = key.utf8ByteSize + 9 := by
  rw [stagingName_eq hkey]
  exact String.utf8ByteSize_append

theorem fromUTF8?_toUTF8 (text : String) : String.fromUTF8? text.toUTF8 = some text := by
  unfold String.fromUTF8?
  rw [String.toUTF8_eq_toByteArray, dif_pos text.isValidUTF8]
  rfl

/-! ### Entries -/

theorem lookup_filter_ne {α : Type} (key other : String) : ∀ entries : List (String × α),
    (entries.filter (·.1 ≠ other)).lookup key = if key = other then none else entries.lookup key
  | [] => by simp
  | (k, x) :: entries => by
    have ih := lookup_filter_ne key other entries
    by_cases hk : k = other
    · rw [List.filter_cons_of_neg (by simpa using hk), ih]
      split
      · rfl
      · rename_i hne
        have hbeq : (key == k) = false := by simpa [hk] using hne
        rw [List.lookup_cons, hbeq]
    · rw [List.filter_cons_of_pos (by simpa using hk), List.lookup_cons, List.lookup_cons, ih]
      by_cases hkey : key = k
      · have hne : key ≠ other := hkey ▸ hk
        simp [hkey, hk]
      · have hbeq : (key == k) = false := by simpa using hkey
        simp only [hbeq]

namespace Directory

section Entries

variable (d : Directory) (name other : String)

theorem entry?_drop : entry? (d.drop other) name = if name = other then none else d.entry? name :=
  lookup_filter_ne name other d.entries

theorem entry?_put (entry : Entry) :
    entry? (d.put other entry) name = if name = other then some entry else d.entry? name := by
  show ((other, entry) :: (d.drop other).entries).lookup name = _
  rw [List.lookup_cons]
  by_cases h : name = other
  · simp [h]
  · have hbeq : (name == other) = false := by simpa using h
    rw [hbeq, if_neg h]
    exact (d.entry?_drop name other).trans (if_neg h)

end Entries

/-! ### Files -/

section Files

variable {d : Directory} {name : String} (hname : d.checkName name = .ok ())

include hname

theorem readFile_of_file {text : String} (h : d.entry? name = some (.file text.toUTF8)) :
    d.readFile name = .ok text := by
  unfold readFile
  rw [hname, h]
  simp only [fromUTF8?_toUTF8, bind, Except.bind, pure, Except.pure]

theorem readFile_of_none (h : d.entry? name = none) : d.readFile name = .error .notFound := by
  unfold readFile
  rw [hname, h]
  rfl

theorem writeFile_ok (h : d.entry? name ≠ some .folder) (content : ByteArray) :
    d.writeFile name content = .ok (d.put name (.file content)) := by
  unfold writeFile
  rw [hname]
  cases hentry : d.entry? name with
  | none => rfl
  | some entry =>
    cases entry with
    | file _ => rfl
    | folder => exact absurd hentry h

theorem rename_ok {source : String} (hsource : d.checkName source = .ok ()) {entry : Entry}
    (hentry : d.entry? source = some entry) (h : d.entry? name ≠ some .folder) :
    d.rename source name = .ok ((d.drop source).put name entry) := by
  unfold rename
  rw [hsource, hname, hentry]
  cases htarget : d.entry? name with
  | none => rfl
  | some found =>
    cases found with
    | file _ => rfl
    | folder => exact absurd htarget h

theorem removeFile_of_file {content : ByteArray} (h : d.entry? name = some (.file content)) :
    d.removeFile name = .ok (d.drop name) := by
  unfold removeFile
  rw [hname, h]
  rfl

theorem removeFile_of_none (h : d.entry? name = none) : d.removeFile name = .error .notFound := by
  unfold removeFile
  rw [hname, h]
  rfl

end Files

/-! ### Keys under which a text can be written -/

/-- Both names of the key are accepted, and no folder stands under them. -/
structure Writable (d : Directory) (key : String) : Prop where
  valid : isValidKey key = true
  staging : d.checkName (stagingName key) = .ok ()
  target : d.checkName (targetName key) = .ok ()
  staging_free : d.entry? (stagingName key) ≠ some .folder
  target_free : d.entry? (targetName key) ≠ some .folder

variable {d : Directory} {key : String}

/-- A text is written to the file of the key. The file beside it is gone, and everything else is as it was. -/
theorem Writable.set_eq (h : d.Writable key) (text : String) :
    ∃ d', d.set key text = (.ok (), d') ∧ d'.pathBytes = d.pathBytes ∧
      ∀ name, d'.entry? name =
        if name = targetName key then some (.file text.toUTF8)
        else if name = stagingName key then none else d.entry? name := by
  have hne := stagingName_ne_targetName (ne_empty_of_isValidKey h.valid) key
  have hwrite := writeFile_ok h.staging h.staging_free text.toUTF8
  generalize hstaged : d.put (stagingName key) (.file text.toUTF8) = staged at hwrite
  have hcheck : ∀ name, staged.checkName name = d.checkName name := fun _ => by rw [← hstaged]; rfl
  have hsource : staged.entry? (stagingName key) = some (.file text.toUTF8) := by
    rw [← hstaged, entry?_put, if_pos rfl]
  have htarget : staged.entry? (targetName key) ≠ some .folder := by
    rw [← hstaged, entry?_put, if_neg hne.symm]
    exact h.target_free
  have hrename := rename_ok ((hcheck _).trans h.target) ((hcheck _).trans h.staging) hsource htarget
  refine ⟨(staged.drop (stagingName key)).put (targetName key) (.file text.toUTF8), ?_, ?_, fun name => ?_⟩
  · unfold set
    rw [if_pos h.valid, hwrite]
    simp only
    rw [hrename]
  · rw [← hstaged]
    rfl
  · rw [entry?_put, entry?_drop, ← hstaged, entry?_put]
    by_cases hname : name = stagingName key
    · rw [if_pos hname, if_pos hname]
    · rw [if_neg hname, if_neg hname, if_neg hname]

theorem Writable.get_set (h : d.Writable key) (text : String) :
    ∃ d', d.set key text = (.ok (), d') ∧ d'.get key = .ok (some text) ∧ d'.Writable key := by
  obtain ⟨d', hset, hbytes, hentry⟩ := h.set_eq text
  have hne := stagingName_ne_targetName (ne_empty_of_isValidKey h.valid) key
  have hcheck : ∀ name, d'.checkName name = d.checkName name := by
    intro name
    unfold checkName
    rw [hbytes]
  have htarget : d'.entry? (targetName key) = some (.file text.toUTF8) := (hentry _).trans (if_pos rfl)
  have hstaging : d'.entry? (stagingName key) = none := by rw [hentry, if_neg hne, if_pos rfl]
  have hwritable : d'.Writable key := by
    refine ⟨h.valid, (hcheck _).trans h.staging, (hcheck _).trans h.target, ?_, ?_⟩
    · simp [hstaging]
    · simp [htarget]
  refine ⟨d', hset, ?_, hwritable⟩
  unfold get
  rw [if_pos h.valid, readFile_of_file hwritable.target htarget]

theorem takes (key : String) : Takes key (Writable · key) :=
  fun text h => h.get_set text

theorem checkName_cases (d : Directory) (name : String) :
    d.checkName name = .ok () ∨ d.checkName name = .error .nameTooLong := by
  unfold checkName
  split
  · exact .inr rfl
  · exact .inl rfl

theorem target_of_get {found : Option String} (h : d.get key = .ok found) :
    isValidKey key = true ∧ d.checkName (targetName key) = .ok () ∧ d.entry? (targetName key) ≠ some .folder := by
  unfold get at h
  by_cases hvalid : isValidKey key = true
  · rw [if_pos hvalid] at h
    unfold readFile at h
    rcases d.checkName_cases (targetName key) with hcheck | hcheck
    · refine ⟨hvalid, hcheck, fun hfolder => ?_⟩
      rw [hcheck, hfolder] at h
      cases h
    · rw [hcheck] at h
      cases h
  · rw [if_neg hvalid] at h
    cases h

/-- Under a key that can be read, texts can be written, or every text is refused for the same reason and nothing is
changed. -/
theorem writable_or_refuses {found : Option String} (h : d.get key = .ok found) :
    d.Writable key ∨ ∃ e, Refuses d key e := by
  obtain ⟨hvalid, htarget, hfree⟩ := target_of_get h
  have hrefuses : ∀ fault, (∀ content, d.writeFile (stagingName key) content = .error fault) →
      Refuses d key (.file key fault) := by
    intro fault hwrite text
    show d.set key text = _
    unfold set
    rw [if_pos hvalid, hwrite]
  rcases d.checkName_cases (stagingName key) with hstaging | hstaging
  · by_cases hfolder : d.entry? (stagingName key) = some .folder
    · refine .inr ⟨_, hrefuses .isDirectory fun content => ?_⟩
      unfold writeFile
      rw [hstaging, hfolder]
      rfl
    · exact .inl ⟨hvalid, hstaging, htarget, hfolder, hfree⟩
  · refine .inr ⟨_, hrefuses .nameTooLong fun content => ?_⟩
    unfold writeFile
    rw [hstaging]
    rfl

end Directory
end PortGrid
