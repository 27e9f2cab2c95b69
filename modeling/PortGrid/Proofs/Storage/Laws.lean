import PortGrid.Storage.Guarded
import PortGrid.Storage.Memory

/-!
# What may be asked of a storage

A storage fails cleanly if a write that fails changes no value. It is reliable if, as long as nothing but writes happens
to it, every write fails cleanly or leaves its text to be read under its key. The storage in memory is reliable, and so
is a reliable storage behind a guard that refuses writes. Memory moreover refuses no write.

A recorded storage keeps a list of the writes that were asked of it, so that what a store does to its storage can be
told apart from what the storage makes of it.

Key definitions: `FailsCleanly`, `ReadsBack`, `NeverRefuses`, `Reliable`, `Takes`, `Refuses`, `WriteRecord`,
`Recorded`.
Key theorems: `MemoryStorage.reliable`, `MemoryStorage.neverRefuses`, `Guarded.reliable`, `Recorded.reliable`.
-/

namespace PortGrid

section Laws

variable {β : Type} [Backend β]

/-- A write to the storage that fails changes no value. -/
def FailsCleanly (b : β) : Prop :=
  ∀ {key text : String} {e : StorageError} {b' : β}, Backend.set b key text = (.error e, b') →
    ∀ k, Backend.get b' k = Backend.get b k

/-- A text that is written to the storage can be read. -/
def ReadsBack (b : β) : Prop :=
  ∀ {key text : String} {b' : β}, Backend.set b key text = (.ok (), b') → Backend.get b' key = .ok (some text)

/-- On these storages, which no write leads out of, every write succeeds. -/
structure NeverRefuses (valid : β → Prop) : Prop where
  valid_set : ∀ {b : β} (key text : String), valid b → valid (Backend.set b key text).2
  set_ok : ∀ {b : β} (key text : String), valid b → (Backend.set b key text).1 = .ok ()

/-- On these storages, which no write leads out of, a text that was written can be read, and a write that fails changes
no value. -/
structure Reliable (valid : β → Prop) : Prop where
  valid_set : ∀ {b : β} (key text : String), valid b → valid (Backend.set b key text).2
  get_set : ∀ {b b' : β} {key text : String}, valid b → Backend.set b key text = (.ok (), b') →
    Backend.get b' key = .ok (some text)
  failsCleanly : ∀ {b : β}, valid b → FailsCleanly b

/-- On these storages every text can be written under the key and read then, and no such write leads out of them. -/
def Takes (key : String) (valid : β → Prop) : Prop :=
  ∀ {b : β} (text : String), valid b →
    ∃ b', Backend.set b key text = (.ok (), b') ∧ Backend.get b' key = .ok (some text) ∧ valid b'

/-- The storage refuses every text under the key with the error, and stays as it is. -/
def Refuses (b : β) (key : String) (e : StorageError) : Prop :=
  ∀ text, Backend.set b key text = (.error e, b)

end Laws

theorem MemoryStorage.reliable : Reliable fun _ : MemoryStorage => True where
  valid_set _ _ _ := trivial
  get_set := by
    intro b b' key text _ h
    cases h
    show Except.ok ((b.insert key text).get? key) = _
    simp [get?, insert]
  failsCleanly := by
    intro b _ key text e b' h
    cases h

theorem MemoryStorage.neverRefuses : NeverRefuses fun _ : MemoryStorage => True where
  valid_set _ _ _ := trivial
  set_ok _ _ _ := rfl

namespace Guarded

variable {β : Type} [Backend β]

/-- A write through the guard is one to the storage behind it, or is refused and does nothing. -/
theorem set_cases (b : Guarded β) (key text : String) :
    (∃ e, b.set key text = (.error e, b)) ∨
      ∃ left, b.set key text =
        ((Backend.set b.inner key text).1, ⟨(Backend.set b.inner key text).2, left, b.refusesReads⟩) := by
  unfold set
  split
  · exact .inl ⟨_, rfl⟩
  · exact .inr ⟨_, rfl⟩

/-- A reliable storage stays reliable behind a guard that lets reads through. -/
theorem reliable {valid : β → Prop} (h : Reliable valid) :
    Reliable fun b : Guarded β => b.refusesReads = false ∧ valid b.inner where
  valid_set := by
    intro b key text ⟨hreads, hvalid⟩
    rcases b.set_cases key text with ⟨e, he⟩ | ⟨left, he⟩
    · show (b.set key text).2.refusesReads = false ∧ valid (b.set key text).2.inner
      rw [he]
      exact ⟨hreads, hvalid⟩
    · show (b.set key text).2.refusesReads = false ∧ valid (b.set key text).2.inner
      rw [he]
      exact ⟨hreads, h.valid_set key text hvalid⟩
  get_set := by
    intro b b' key text ⟨hreads, hvalid⟩ hset
    change b.set key text = _ at hset
    rcases b.set_cases key text with ⟨e, he⟩ | ⟨left, he⟩
    · rw [he] at hset
      cases hset
    · rw [he] at hset
      obtain ⟨hok, rfl⟩ := Prod.mk.inj hset
      have := h.get_set hvalid (Prod.ext hok rfl)
      show get _ _ = _
      simpa [get, hreads] using this
  failsCleanly := by
    intro b ⟨hreads, hvalid⟩ key text e b' hset k
    change b.set key text = _ at hset
    show get b' k = get b k
    rcases b.set_cases key text with ⟨e', he⟩ | ⟨left, he⟩
    · rw [he] at hset
      cases hset
      rfl
    · rw [he] at hset
      obtain ⟨herror, rfl⟩ := Prod.mk.inj hset
      have := h.failsCleanly hvalid (Prod.ext herror rfl) k
      simpa [get, hreads] using this

end Guarded

/-! ### Recorded storages -/

/-- A write that was asked of a storage, and whether it succeeded. -/
structure WriteRecord where
  key : String
  text : String
  succeeded : Bool

/-- A storage with a record of the writes that were asked of it, in their order. -/
structure Recorded (β : Type) where
  inner : β
  writes : List WriteRecord := []

namespace Recorded

variable {β : Type} [Backend β]

def set (b : Recorded β) (key text : String) : Except StorageError Unit × Recorded β :=
  let (result, inner) := Backend.set b.inner key text
  (result, ⟨inner, b.writes ++ [⟨key, text, result.toBool⟩]⟩)

/-- Removes, which is no write. -/
def remove (b : Recorded β) (key : String) : Except StorageError Unit × Recorded β :=
  let (result, inner) := Backend.remove b.inner key
  (result, { b with inner := inner })

instance : Backend (Recorded β) where
  get b key := Backend.get b.inner key
  set := Recorded.set
  remove := Recorded.remove

theorem reliable {valid : β → Prop} (h : Reliable valid) : Reliable fun b : Recorded β => valid b.inner where
  valid_set := fun key text hvalid => h.valid_set key text hvalid
  get_set := by
    intro b b' key text hvalid hset
    obtain ⟨hok, rfl⟩ := Prod.mk.inj hset
    exact h.get_set hvalid (Prod.ext hok rfl)
  failsCleanly := by
    intro b hvalid key text e b' hset
    obtain ⟨herror, rfl⟩ := Prod.mk.inj hset
    exact h.failsCleanly hvalid (Prod.ext herror rfl)

theorem writes_set {b b' : Recorded β} {key text : String} {result : Except StorageError Unit}
    (h : Backend.set b key text = (result, b')) : b'.writes = b.writes ++ [⟨key, text, result.toBool⟩] := by
  obtain ⟨rfl, rfl⟩ := Prod.mk.inj h
  rfl

end Recorded

end PortGrid
