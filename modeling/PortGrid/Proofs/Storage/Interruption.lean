import Mathlib.Logic.Relation
import PortGrid.Proofs.Storage.Directory

/-!
# Writes that are interrupted

A text is written in steps: a file is made beside that of the key, bytes are put into it, and it is renamed when it has
all of them. Any step may fail, and the program may be stopped behind any of them. Until the file is renamed, nothing
but the file beside is changed, and no key has that as its file; so every key has the text that it had before, whatever
was left there by an earlier write. The renamed file has all bytes of the text. So a write is done or has not been begun,
as far as any key can tell.

Key definitions: `Stage`, `WriteStep`, `Directory.Reaches`, `Directory.Left`.
Key theorems: `Directory.get_put_staging`, `Directory.get_of_set`, `Directory.Left.step`, `Directory.Reaches.left`,
`Directory.reaches_done_iff`, `Directory.set_allOrNothing`.
-/

namespace PortGrid

/-! ### Steps -/

/-- How far a write has come. -/
inductive Stage where
  | begun
  /-- The file beside that of the key holds as many bytes of the text as given, and no others. -/
  | writing (count : Nat)
  | done
  | failed (fault : FileFault)

/-- Whether the write goes on from here. -/
def Stage.Running : Stage → Prop
  | .begun => True
  | .writing _ => True
  | .done => False
  | .failed _ => False

/-- One step of writing a text under a key. -/
inductive WriteStep (key text : String) : Stage × Directory → Stage × Directory → Prop where
  /-- The file beside is made, or emptied if it was there before. -/
  | create {d d' : Directory} (h : d.writeFile (stagingName key) (text.toUTF8.extract 0 0) = .ok d') :
    WriteStep key text (.begun, d) (.writing 0, d')
  /-- More bytes are put into it. -/
  | append {d d' : Directory} {count more : Nat} (hle : count ≤ more) (hmore : more ≤ text.toUTF8.size)
    (h : d.writeFile (stagingName key) (text.toUTF8.extract 0 more) = .ok d') :
    WriteStep key text (.writing count, d) (.writing more, d')
  /-- It is renamed when it has all of them. -/
  | rename {d d' : Directory} (h : d.rename (stagingName key) (targetName key) = .ok d') :
    WriteStep key text (.writing text.toUTF8.size, d) (.done, d')
  /-- A step fails, and what has been written stays. -/
  | fail (stage : Stage) (d : Directory) (hrunning : stage.Running) (fault : FileFault) :
    WriteStep key text (stage, d) (.failed fault, d)

namespace Directory

/-- Some steps of the write lead from the directory before it to another one. -/
def Reaches (d : Directory) (key text : String) (stage : Stage) (d' : Directory) : Prop :=
  Relation.ReflTransGen (WriteStep key text) (.begun, d) (stage, d')

variable {d d' d'' : Directory} {key other text name target : String} {content content' : ByteArray} {entry : Entry}

/-! ### Files -/

theorem put_put (d : Directory) (name : String) (entry entry' : Entry) :
    (d.put name entry).put name entry' = d.put name entry' := by
  have hentries : ((name, entry) :: (d.drop name).entries).filter (·.1 ≠ name) = (d.drop name).entries := by
    rw [List.filter_cons_of_neg (by simp), drop, List.filter_filter]
    simp
  exact congrArg (fun entries => { d with entries := (name, entry') :: entries }) hentries

theorem writeFile_eq_ok_iff : d.writeFile name content = .ok d' ↔
    d.checkName name = .ok () ∧ d.entry? name ≠ some .folder ∧ d' = d.put name (.file content) := by
  constructor
  · intro h
    have hcheck : d.checkName name = .ok () := by
      unfold writeFile at h
      rcases d.checkName_cases name with hcheck | hcheck
      · exact hcheck
      · rw [hcheck] at h
        cases h
    have hfree : d.entry? name ≠ some .folder := by
      intro hfolder
      unfold writeFile at h
      rw [hcheck, hfolder] at h
      cases h
    rw [writeFile_ok hcheck hfree] at h
    exact ⟨hcheck, hfree, (Except.ok.inj h).symm⟩
  · rintro ⟨hcheck, hfree, rfl⟩
    exact writeFile_ok hcheck hfree content

theorem writeFile_put (h : d.writeFile name content = .ok d') :
    d'.writeFile name content' = d.writeFile name content' := by
  obtain ⟨hcheck, hfree, rfl⟩ := writeFile_eq_ok_iff.mp h
  have hfree' : entry? (d.put name (.file content)) name ≠ some .folder := by simp [entry?_put]
  have hcheck' : (d.put name (.file content)).checkName name = .ok () := hcheck
  rw [writeFile_ok hcheck' hfree', writeFile_ok hcheck hfree, put_put]

theorem target_of_rename (h : d.rename name target = .ok d') :
    d.checkName target = .ok () ∧ d.entry? target ≠ some .folder := by
  unfold rename at h
  rcases d.checkName_cases name with hname | hname
  · rcases d.checkName_cases target with htarget | htarget
    · refine ⟨htarget, fun hfolder => ?_⟩
      rw [hname, htarget, hfolder] at h
      cases hsource : d.entry? name <;> rw [hsource] at h <;> cases h
    · rw [hname, htarget] at h
      cases h
  · rw [hname] at h
    cases h

theorem set_eq_ok_iff : d.set key text = (.ok (), d') ↔ isValidKey key = true ∧
    ∃ staged, d.writeFile (stagingName key) text.toUTF8 = .ok staged ∧
      staged.rename (stagingName key) (targetName key) = .ok d' := by
  unfold set
  by_cases hkey : isValidKey key = true
  · rw [if_pos hkey]
    cases hwrite : d.writeFile (stagingName key) text.toUTF8 with
    | error fault => simp
    | ok staged => cases hrename : staged.rename (stagingName key) (targetName key) <;> simp [hkey, hrename]
  · simp [hkey]

/-! ### What keys can tell -/

theorem get_congr (hbytes : d'.pathBytes = d.pathBytes)
    (hentry : d'.entry? (targetName key) = d.entry? (targetName key)) : d'.get key = d.get key := by
  unfold get readFile checkName
  rw [hbytes, hentry]

theorem get_of_file (hkey : isValidKey key = true) (hcheck : d.checkName (targetName key) = .ok ())
    (hentry : d.entry? (targetName key) = some (.file text.toUTF8)) : d.get key = .ok (some text) := by
  unfold get
  rw [if_pos hkey, readFile_of_file hcheck hentry]

/-- **The file beside is the file of no key.** -/
theorem get_put_staging (hkey : isValidKey key = true) (d : Directory) (entry : Entry) (other : String) :
    (d.put (stagingName key) entry).get other = d.get other := by
  have hne := stagingName_ne_targetName (ne_empty_of_isValidKey hkey) other
  refine get_congr rfl ?_
  rw [entry?_put, if_neg hne.symm]

theorem writable_of_set (h : d.set key text = (.ok (), d')) : d.Writable key := by
  obtain ⟨hkey, staged, hwrite, hrename⟩ := set_eq_ok_iff.mp h
  obtain ⟨hcheck, hfree, rfl⟩ := writeFile_eq_ok_iff.mp hwrite
  obtain ⟨htarget, hfree'⟩ := target_of_rename hrename
  have hne := stagingName_ne_targetName (ne_empty_of_isValidKey hkey) key
  rw [entry?_put, if_neg hne.symm] at hfree'
  exact ⟨hkey, hcheck, htarget, hfree, hfree'⟩

/-- **A write that ends well changes what is read under its key**, and nothing else. -/
theorem get_of_set (h : d.set key text = (.ok (), d')) :
    d'.get key = .ok (some text) ∧ ∀ other, other ≠ key → d'.get other = d.get other := by
  have hwritable := writable_of_set h
  constructor
  · obtain ⟨d₁, hset, hget, -⟩ := hwritable.get_set text
    obtain rfl : d' = d₁ := (Prod.mk.inj (h.symm.trans hset)).2
    exact hget
  · intro other hother
    obtain ⟨d₁, hset, hbytes, hentry⟩ := hwritable.set_eq text
    obtain rfl : d' = d₁ := (Prod.mk.inj (h.symm.trans hset)).2
    have hne := stagingName_ne_targetName (ne_empty_of_isValidKey hwritable.valid) other
    refine get_congr hbytes ?_
    rw [hentry, if_neg (mt targetName_inj.mp hother), if_neg hne.symm]

end Directory

/-! ### What steps leave behind -/

/-- What a write that has come so far has made of the directory. -/
def Directory.Left (d : Directory) (key text : String) : Stage × Directory → Prop
  | (.begun, d') => d' = d
  | (.writing count, d') => d.writeFile (stagingName key) (text.toUTF8.extract 0 count) = .ok d'
  | (.done, d') => d.set key text = (.ok (), d')
  | (.failed _, d') => d' = d ∨ ∃ count, d.writeFile (stagingName key) (text.toUTF8.extract 0 count) = .ok d'

namespace Directory

variable {d d' : Directory} {key text : String} {stage : Stage} {p q : Stage × Directory}

/-- **One step.** Behind every step the directory is as it is left by a write that has come so far. -/
theorem Left.step (hkey : isValidKey key = true) (h : d.Left key text p) (hstep : WriteStep key text p q) :
    d.Left key text q := by
  cases hstep with
  | create hwrite =>
    obtain rfl : _ = d := h
    exact hwrite
  | append _ _ hwrite => exact (writeFile_put h).symm.trans hwrite
  | rename hrename =>
    -- The rename begins only when all bytes have been written.
    have hwrite : d.writeFile (stagingName key) (text.toUTF8.extract 0 text.toUTF8.size) = .ok _ := h
    rw [ByteArray.extract_zero_size] at hwrite
    exact set_eq_ok_iff.mpr ⟨hkey, _, hwrite, hrename⟩
  | fail stage _ hrunning fault =>
    cases stage with
    | begun => exact .inl h
    | writing count => exact .inr ⟨count, h⟩
    | done => exact hrunning.elim
    | failed _ => exact hrunning.elim

/-- **Any number of steps.** -/
theorem Reaches.left (hkey : isValidKey key = true) (h : d.Reaches key text stage d') : d.Left key text (stage, d') := by
  unfold Reaches at h
  generalize (stage, d') = q at h
  induction h with
  | refl => rfl
  | tail _ hstep ih => exact ih.step hkey hstep

/-- As long as a write has not been done, every key has what it had before. -/
theorem Left.get_eq (hkey : isValidKey key = true) (h : d.Left key text (stage, d')) (hstage : stage ≠ .done)
    (other : String) : d'.get other = d.get other := by
  have hwriting : ∀ count, d.writeFile (stagingName key) (text.toUTF8.extract 0 count) = .ok d' →
      d'.get other = d.get other := by
    intro count hwrite
    obtain ⟨-, -, rfl⟩ := writeFile_eq_ok_iff.mp hwrite
    exact get_put_staging hkey d _ other
  cases stage with
  | begun => exact congrArg (·.get other) h
  | writing count => exact hwriting count h
  | done => exact absurd rfl hstage
  | failed fault =>
    rcases h with rfl | ⟨count, hwrite⟩
    · rfl
    · exact hwriting count hwrite

/-! ### Writes as steps -/

/-- A write can be stopped behind any number of bytes. -/
theorem reaches_writing {count : Nat} (hcount : count ≤ text.toUTF8.size)
    (h : d.writeFile (stagingName key) (text.toUTF8.extract 0 count) = .ok d') :
    d.Reaches key text (.writing count) d' := by
  obtain ⟨hcheck, hfree, -⟩ := writeFile_eq_ok_iff.mp h
  have hcreate := writeFile_ok hcheck hfree (text.toUTF8.extract 0 0)
  have happend := (writeFile_put hcreate).trans h
  exact (Relation.ReflTransGen.single (.create hcreate)).tail (.append (Nat.zero_le count) hcount happend)

/-- A write that ends well is a write in steps that is done. -/
theorem reaches_done_iff (hkey : isValidKey key = true) :
    d.Reaches key text .done d' ↔ d.set key text = (.ok (), d') := by
  refine ⟨fun h => h.left hkey, fun h => ?_⟩
  obtain ⟨-, staged, hwrite, hrename⟩ := set_eq_ok_iff.mp h
  rw [← ByteArray.extract_zero_size (b := text.toUTF8)] at hwrite
  exact (reaches_writing (Nat.le_refl _) hwrite).tail (.rename hrename)

theorem reaches_failed {e : StorageError} (hkey : isValidKey key = true) (h : d.set key text = (.error e, d')) :
    ∃ fault, e = .file key fault ∧ d.Reaches key text (.failed fault) d' := by
  unfold set at h
  rw [if_pos hkey] at h
  split at h
  · rename_i fault hwrite
    obtain ⟨he, rfl⟩ := Prod.mk.inj h
    exact ⟨fault, (Except.error.inj he).symm, .single (.fail .begun d trivial fault)⟩
  · rename_i staged hwrite
    split at h
    · rename_i fault hrename
      obtain ⟨he, rfl⟩ := Prod.mk.inj h
      rw [← ByteArray.extract_zero_size (b := text.toUTF8)] at hwrite
      have hall := reaches_writing (Nat.le_refl _) hwrite
      exact ⟨fault, (Except.error.inj he).symm, hall.tail (.fail (.writing _) _ trivial fault)⟩
    · cases (Prod.mk.inj h).1

/-- **A write is done or has not been begun, as far as any key can tell.** Let a text be written in steps under a key, in
a directory with whatever files and folders. Wherever the write is stopped, and whichever of its steps has failed, as
long as the file has not been renamed every key has what it had before; and it can be stopped behind any number of
bytes. The write is done exactly if it ends well, and then its key has the text and every other key what it had before.
A write that is refused has been left where a step of it failed. -/
theorem set_allOrNothing (hkey : isValidKey key = true) (d : Directory) (text : String) :
    (∀ stage d', d.Reaches key text stage d' → stage ≠ .done → ∀ other, d'.get other = d.get other) ∧
      (∀ count d', count ≤ text.toUTF8.size →
        d.writeFile (stagingName key) (text.toUTF8.extract 0 count) = .ok d' → d.Reaches key text (.writing count) d') ∧
      (∀ d', d.Reaches key text .done d' ↔ d.set key text = (.ok (), d')) ∧
      (∀ d', d.set key text = (.ok (), d') →
        d'.get key = .ok (some text) ∧ ∀ other, other ≠ key → d'.get other = d.get other) ∧
      ∀ e d', d.set key text = (.error e, d') → (∀ other, d'.get other = d.get other) ∧
        ∃ fault, e = .file key fault ∧ d.Reaches key text (.failed fault) d' := by
  refine ⟨fun stage d' h hstage => (h.left hkey).get_eq hkey hstage, fun count d' => reaches_writing,
    fun d' => reaches_done_iff hkey, fun d' => get_of_set, fun e d' h => ?_⟩
  obtain ⟨fault, he, hfailed⟩ := reaches_failed hkey h
  exact ⟨(hfailed.left hkey).get_eq hkey (by intro hdone; cases hdone), fault, he, hfailed⟩

/-- A directory with the texts of two keys, of which the one has the name of a file beside, and with a file that was left
beside by an earlier write. -/
def cutShort : Directory where
  entries := [("a.json", .file "old".toUTF8), ("a.json.tmp", .file "left behind".toUTF8),
    ("a.json.tmp.json", .file "other".toUTF8)]

/-- A write is stopped when one byte has been written, and no key can tell; then the same text is written again. -/
theorem set_allOrNothing_cutShort :
    ∃ d' d'', cutShort.Reaches "a" "new" (.writing 1) d' ∧
      d'.get "a" = .ok (some "old") ∧ d'.get "a.json.tmp" = .ok (some "other") ∧
      d'.set "a" "new" = (.ok (), d'') ∧
      d''.get "a" = .ok (some "new") ∧ d''.get "a.json.tmp" = .ok (some "other") := by
  have hkey : isValidKey "a" = true := by decide +kernel
  have hold : cutShort.get "a" = .ok (some "old") := get_of_file hkey rfl rfl
  have hother : cutShort.get "a.json.tmp" = .ok (some "other") := get_of_file (by decide +kernel) rfl rfl
  have hstaging : stagingName "a" = "a.json.tmp" := by decide +kernel
  have hbeside : cutShort.entry? (stagingName "a") = some (.file "left behind".toUTF8) := by
    rw [hstaging]
    rfl
  have hcheck : cutShort.checkName (stagingName "a") = .ok () := by
    rw [hstaging]
    rfl
  have hwrite := writeFile_ok hcheck (by simp [hbeside]) ("new".toUTF8.extract 0 1)
  generalize hd' : cutShort.put (stagingName "a") (.file ("new".toUTF8.extract 0 1)) = d' at hwrite
  obtain ⟨hunchanged, hprefix, -⟩ := set_allOrNothing hkey cutShort "new"
  have hreaches := hprefix 1 d' (by decide) hwrite
  have hbefore := hunchanged _ d' hreaches (by intro h; cases h)
  -- The file beside is in no way of the second write.
  have hwritable : d'.Writable "a" := by
    have hfree : d'.entry? (stagingName "a") ≠ some .folder := by simp [← hd', entry?_put]
    have htarget : d'.entry? (targetName "a") = some (.file "old".toUTF8) := by
      rw [← hd', entry?_put, hstaging]
      rfl
    have hfree' : d'.entry? (targetName "a") ≠ some .folder := by simp [htarget]
    rw [← hd'] at hfree hfree' ⊢
    exact ⟨hkey, hcheck, rfl, hfree, hfree'⟩
  obtain ⟨d'', hset, -, -⟩ := hwritable.get_set "new"
  obtain ⟨-, -, -, hdone, -⟩ := set_allOrNothing hkey d' "new"
  obtain ⟨hnew, hsame⟩ := hdone d'' hset
  refine ⟨d', d'', hreaches, (hbefore "a").trans hold, (hbefore "a.json.tmp").trans hother, hset, hnew, ?_⟩
  rw [hsame "a.json.tmp" (by decide), hbefore, hother]

end Directory
end PortGrid
