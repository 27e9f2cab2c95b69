import PortGrid.Proofs.Snapshot
import PortGrid.Proofs.Store.Run

/-!
# What a store that saves by itself leaves behind

A store is kept by its storage if the storage holds its state, or holds nothing and the state is the one in which a
store starts. Every store is kept when it is opened. If it saves by itself on a reliable storage it stays so, since its
state changes only behind a write that succeeded. So it can be opened again at any time, and the state is the same.

The invariant speaks of recorded stores, so that it can say that the text under the key is that of the present state as
soon as one write has succeeded.

Key definitions: `Store.Kept`, `Store.Durable`.
Key theorems: `Store.Durable.perform`, `Store.reopen_run`.
-/

namespace PortGrid
namespace Store

variable {β : Type} [Backend β]

/-! ### Loading -/

theorem load_of_get {b : β} {key : String} {state : State}
    (h : Backend.get b key = .ok (some state.snapshot)) : load b key = .ok (some state) := by
  unfold load
  rw [h]
  simp only [State.ofSnapshot_of_spells state.spells_snapshot]

theorem load_congr {b b' : β} {key : String} (h : Backend.get b' key = Backend.get b key) :
    load b' key = load b key := by
  unfold load
  rw [h]

/-- The storage of the store holds its state, or holds nothing and the state is the one to start with. -/
def Kept (s : Store β) : Prop :=
  load s.backend s.config.storageKey = .ok (some s.state) ∨
    (load s.backend s.config.storageKey = .ok none ∧ s.state = State.ofLanguage s.config.defaultLanguage)

theorem kept_of_openWith {config : StoreConfig} {b : β} {s : Store β} {events : List Event}
    (h : openWith config b = .ok (s, events)) : s.config = config ∧ s.backend = b ∧ s.Kept := by
  unfold openWith at h
  split at h
  · cases h
  · rename_i state hload
    cases h
    exact ⟨rfl, rfl, .inl hload⟩
  · rename_i hload
    cases h
    exact ⟨rfl, rfl, .inr ⟨hload, rfl⟩⟩

theorem Kept.openWith {s : Store β} (h : s.Kept) : ∃ events, openWith s.config s.backend = .ok (s, events) := by
  unfold Store.openWith
  rcases h with hload | ⟨hload, hstate⟩
  · rw [hload]
    exact ⟨_, rfl⟩
  · rw [hload, ← hstate]
    exact ⟨_, rfl⟩

theorem Kept.of_get_eq {s : Store β} {b : β} (h : s.Kept)
    (hb : Backend.get b s.config.storageKey = Backend.get s.backend s.config.storageKey) :
    Kept { s with backend := b } := by
  unfold Kept
  rw [load_congr hb]
  exact h

/-! ### The invariant -/

/-- What holds of a recorded store that saves by itself: it is kept, and after a write that succeeded the text under its
key is that of its state. -/
structure Durable (valid : β → Prop) (s : Store (Recorded β)) : Prop where
  valid : valid s.backend.inner
  autosave : s.config.autosave = true
  kept : s.Kept
  written : (∃ w ∈ s.backend.writes, w.succeeded = true) →
    Backend.get s.backend s.config.storageKey = .ok (some s.state.snapshot)

/-- **No operation takes durability away**, whether it is refused, writes, or fails to. -/
theorem Durable.perform {valid : β → Prop} (laws : Reliable valid) {s : Store (Recorded β)} (h : Durable valid s)
    (m : Moment) (op : Operation) : Durable valid (s.perform m op).store := by
  have hstep := step_perform s m op
  generalize s.perform m op = o at hstep ⊢
  cases hstep with
  | refused _ => exact h
  | kept _ => exact h
  | unsaved _ hauto =>
    rw [h.autosave] at hauto
    cases hauto
  | @saved next reply events b _ hset =>
    have hget := (Recorded.reliable laws).get_set h.valid hset
    have hvalid := (Recorded.reliable laws).valid_set s.config.storageKey next.snapshot h.valid
    rw [hset] at hvalid
    exact ⟨hvalid, h.autosave, .inl (load_of_get hget), fun _ => hget⟩
  | @failed next reply events e b _ hset =>
    have hget := (Recorded.reliable laws).failsCleanly h.valid hset s.config.storageKey
    have hvalid := (Recorded.reliable laws).valid_set s.config.storageKey next.snapshot h.valid
    rw [hset] at hvalid
    refine ⟨hvalid, h.autosave, h.kept.of_get_eq hget, ?_⟩
    -- The write that failed is no witness, so there was one before it.
    rintro ⟨w, hw, hok⟩
    rw [Recorded.writes_set hset, List.mem_append, List.mem_singleton] at hw
    rcases hw with hw | rfl
    · rw [hget]
      exact h.written ⟨w, hw, hok⟩
    · cases hok

/-- A store that was just opened is durable. -/
theorem durable_recorded {valid : β → Prop} {s : Store β} (hvalid : valid s.backend) (hauto : s.config.autosave = true)
    (hkept : s.Kept) : Durable valid s.recorded :=
  ⟨hvalid, hauto, hkept, by rintro ⟨w, hw, -⟩; cases hw⟩

/-- **What a store has done survives it.** After any operations, of whose writes any may fail, the storage opens to the
very store that ran; and once a write has succeeded, the text under the key is that of the present state. -/
theorem reopen_run {valid : β → Prop} (laws : Reliable valid) {config : StoreConfig} (hauto : config.autosave = true)
    {b : β} (hvalid : valid b) {s : Store β} {events : List Event} (hopen : openWith config b = .ok (s, events))
    (ops : List (Moment × Operation)) :
    (∃ events', openWith config (s.run ops).backend = .ok (s.run ops, events')) ∧
      ((∃ w ∈ s.writes ops, w.succeeded = true) →
        Backend.get (s.run ops).backend config.storageKey = .ok (some (s.run ops).state.snapshot)) := by
  obtain ⟨rfl, rfl, hkept⟩ := kept_of_openWith hopen
  have hdurable := run_induction (P := Durable valid) (fun _ m op h => h.perform laws m op) ops _
    (durable_recorded hvalid hauto hkept)
  have hrun : (s.recorded.run ops).unrecorded = s.run ops := run_recorded ops s.recorded
  have hconfig : (s.recorded.run ops).config = s.config :=
    run_induction (P := fun t => t.config = s.config)
      (fun t m op h => ((step_perform t m op).config_eq).trans h) ops _ rfl
  rw [← hrun]
  constructor
  · obtain ⟨events', h⟩ := Kept.openWith (s := (s.recorded.run ops).unrecorded) hdurable.kept
    exact ⟨events', by rwa [show (s.recorded.run ops).unrecorded.config = s.config from hconfig] at h⟩
  · intro hw
    rw [← hconfig]
    exact hdurable.written hw

/-- A store on an empty storage that lets one write through. -/
def oneWrite : Store (Guarded MemoryStorage) := ⟨{}, { inner := {}, writesLeft := some 1 }, {}⟩

/-- Two changes, each of them to be written. -/
def twoChanges : List (Moment × Operation) := [(.numbered 0, .toggleDark), (.numbered 1, .setLanguage .english)]

/-- One write succeeds and one fails, and the storage opens to the state after the first. -/
theorem reopen_oneWrite :
    (oneWrite.writes twoChanges).map (·.succeeded) = [true, false] ∧
      (∃ events, openWith {} (oneWrite.run twoChanges).backend = .ok (oneWrite.run twoChanges, events)) ∧
      Backend.get (oneWrite.run twoChanges).backend "port-status-storage" =
        .ok (some (oneWrite.run twoChanges).state.snapshot) := by
  have hopen : openWith {} oneWrite.backend = .ok (oneWrite, [.startedEmpty "port-status-storage"]) := rfl
  obtain ⟨hagain, hget⟩ :=
    reopen_run (Guarded.reliable MemoryStorage.reliable) rfl ⟨rfl, trivial⟩ hopen twoChanges
  have hwrites : (oneWrite.writes twoChanges).map (·.succeeded) = [true, false] := rfl
  refine ⟨hwrites, hagain, hget ?_⟩
  exact ⟨_, List.mem_cons_self, rfl⟩

end Store
end PortGrid
