import PortGrid.Proofs.Store.Run

/-!
# What an operation that returns an error leaves behind

An operation is refused before anything is written, from the state alone; then the storage does not matter and sees
nothing. Otherwise an error is that of a failed write, and the state that was to be written is dropped. Either way the
store is as it was, provided that a failed write changes no value.

Key theorems: `Store.perform_of_refused`, `Store.Step.error_cases`, `Store.perform_error`.
-/

namespace PortGrid
namespace Store

variable {β : Type} [Backend β]

theorem perform_of_refused {s : Store β} {m : Moment} {op : Operation} {e : StoreError}
    (h : op.plan m s.state = .error e) : s.perform m op = ⟨.error e, s, []⟩ := by
  unfold perform
  rw [h]

theorem writes_of_refused {s : Store β} {m : Moment} {op : Operation} {e : StoreError}
    (h : op.plan m s.state = .error e) : s.writes [(m, op)] = [] := by
  have hrun : s.recorded.run [(m, op)] = s.recorded := by
    show (s.recorded.perform m op).store = s.recorded
    rw [perform_of_refused (s := s.recorded) h]
  unfold writes
  rw [hrun]
  rfl

/-- An error is a refusal, or that of a write that failed. -/
theorem Step.error_cases {s : Store β} {m : Moment} {op : Operation} {o : Outcome β} {e : StoreError}
    (h : Step s m op o) (he : o.result = .error e) :
    (op.plan m s.state = .error e ∧ o.store = s) ∨
      ∃ fault text b, e = .storage fault ∧
        Backend.set s.backend s.config.storageKey text = (.error fault, b) ∧ o.store = { s with backend := b } := by
  cases h with
  | refused h =>
    cases he
    exact .inl ⟨h, rfl⟩
  | kept _ => cases he
  | unsaved _ _ => cases he
  | saved _ _ => cases he
  | failed _ hb =>
    cases he
    exact .inr ⟨_, _, _, rfl, hb, rfl⟩

/-- **An operation that returns an error has done nothing.** The state and every stored value are those before it; and
unless the error is one of the storage, it is the same on every storage, and no write is asked for. -/
theorem perform_error {s : Store β} (hclean : FailsCleanly s.backend) {m : Moment} {op : Operation} {e : StoreError}
    (he : (s.perform m op).result = .error e) :
    (s.perform m op).store.state = s.state ∧ (s.perform m op).store.config = s.config ∧
      (∀ key, Backend.get (s.perform m op).store.backend key = Backend.get s.backend key) ∧
      ((∀ fault, e ≠ .storage fault) → ∀ {γ : Type} [Backend γ] (t : Store γ), t.state = s.state →
        t.perform m op = ⟨.error e, t, []⟩ ∧ t.writes [(m, op)] = []) := by
  rcases (step_perform s m op).error_cases he with ⟨hplan, hstore⟩ | ⟨fault, text, b, rfl, hset, hstore⟩
  · rw [hstore]
    refine ⟨rfl, rfl, fun _ => rfl, fun _ γ _ t ht => ?_⟩
    rw [← ht] at hplan
    exact ⟨perform_of_refused hplan, writes_of_refused hplan⟩
  · rw [hstore]
    refine ⟨rfl, rfl, fun key => hclean hset key, fun hne => ?_⟩
    exact absurd rfl (hne fault)

/-- A store on an empty storage that lets no write through. -/
def noWrite : Store (Guarded MemoryStorage) := ⟨{}, { inner := {}, writesLeft := some 0 }, {}⟩

/-- A write that fails leaves the display as it was, and a device that is not there is refused without a
write on any other storage too. -/
theorem perform_error_noWrite :
    (noWrite.perform (.numbered 0) .toggleDark).store.state = noWrite.state ∧
      (∀ key, Backend.get (noWrite.perform (.numbered 0) .toggleDark).store.backend key =
        Backend.get noWrite.backend key) ∧
      (fresh ({} : MemoryStorage)).writes [(.numbered 0, .delete ⟨"equipment"⟩)] = [] := by
  have hclean : FailsCleanly noWrite.backend := (Guarded.reliable MemoryStorage.reliable).failsCleanly ⟨rfl, trivial⟩
  have hwrite : (noWrite.perform (.numbered 0) .toggleDark).result =
      .error (.storage (.file "port-status-storage" (.other "read-only"))) := rfl
  have hdelete : (noWrite.perform (.numbered 0) (.delete ⟨"equipment"⟩)).result =
      .error (.equipmentNotFound ⟨"equipment"⟩) := rfl
  obtain ⟨hstate, -, hget, -⟩ := perform_error hclean hwrite
  obtain ⟨-, -, -, hrefused⟩ := perform_error hclean hdelete
  have hne : ∀ fault, StoreError.equipmentNotFound ⟨"equipment"⟩ ≠ .storage fault := by
    intro fault h
    cases h
  exact ⟨hstate, hget, (hrefused hne (fresh ({} : MemoryStorage)) rfl).2⟩

end Store
end PortGrid
