import PortGrid.Proofs.Store.Atomicity
import PortGrid.Proofs.Store.Commutation
import PortGrid.Proofs.Store.Independence

/-!
# Operations without a failing write

An operation is never refused for the storage before it is written. So if the storage takes its write, it does not fail
for the storage at all, and as long as it does not, its answer and the state behind it are its effect.

Key definition: `Store.UnfailedRun`.
Key theorems: `Operation.plan_ne_storage`, `Store.unfailed_of_accepted`, `Store.perform_of_unfailed`,
`Store.unfailedRun_of_neverRefuses`.
-/

namespace PortGrid

/-! ### Refusals -/

/-- To require a device is not refused for the storage, so that what is refused for it is what follows. -/
theorem require_bind_storage {α : Type} {s : State} {id : EquipmentId} {f : Equipment → Except StoreError α}
    {fault : StorageError} (h : (s.require id >>= f) = .error (.storage fault)) : ∃ e, f e = .error (.storage fault) := by
  unfold State.require at h
  split at h
  · exact ⟨_, h⟩
  · cases h

/-- **No operation is refused for the storage from the state alone.** -/
theorem Operation.plan_ne_storage (m : Moment) (s : State) (op : Operation) (fault : StorageError) :
    op.plan m s ≠ .error (.storage fault) := by
  intro h
  cases op with
  | update id change =>
    obtain ⟨e, h⟩ := require_bind_storage h
    cases h
  | delete id =>
    obtain ⟨e, h⟩ := require_bind_storage h
    cases h
  | select id =>
    cases id with
    | none => cases h
    | some id =>
      obtain ⟨e, h⟩ := require_bind_storage h
      cases h
  | updatePort id port change =>
    obtain ⟨e, h⟩ := require_bind_storage h
    split at h <;> cases h
  | rename id pattern =>
    obtain ⟨e, h⟩ := require_bind_storage h
    split at h
    · cases h
    · split at h <;> cases h
  | _ => cases h

namespace Store

variable {β : Type} [Backend β]

/-! ### Effects -/

section Steps

variable {s : Store β} {m : Moment} {op : Operation}

theorem unfailed_of_accepted (hset : ∀ text, (Backend.set s.backend s.config.storageKey text).1 = .ok ()) (m : Moment)
    (op : Operation) : (s.perform m op).Unfailed := by
  intro fault hresult
  rcases (step_perform s m op).error_cases hresult with ⟨hplan, -⟩ | ⟨_, text, b, -, hfailed, -⟩
  · exact op.plan_ne_storage m s.state fault hplan
  · have hok := hset text
    rw [hfailed] at hok
    cases hok

/-- **An operation that does not fail for the storage has its effect.** -/
theorem perform_of_unfailed (hok : (s.perform m op).Unfailed) :
    (s.perform m op).result = (op.effect m s.state).1 ∧ (s.perform m op).store.state = (op.effect m s.state).2 := by
  have hstep := step_perform s m op
  generalize s.perform m op = o at hok hstep ⊢
  unfold Operation.effect
  cases hstep with
  | refused hplan =>
    rw [hplan]
    exact ⟨rfl, rfl⟩
  | kept hplan =>
    rw [hplan]
    exact ⟨rfl, rfl⟩
  | unsaved hplan _ =>
    rw [hplan]
    exact ⟨rfl, rfl⟩
  | saved hwriting _ =>
    rcases hwriting with ⟨hplan, -⟩ | ⟨hplan, rfl, rfl, -⟩
    · rw [hplan]
      exact ⟨rfl, rfl⟩
    · rw [hplan]
      exact ⟨rfl, rfl⟩
  | failed _ _ => exact absurd rfl (hok _)

end Steps

/-! ### Runs -/

/-- No operation of the run fails for the storage. -/
def UnfailedRun (s : Store β) : List (Moment × Operation) → Prop
  | [] => True
  | (m, op) :: ops => (s.perform m op).Unfailed ∧ (s.perform m op).store.UnfailedRun ops

theorem unfailedRun_of_neverRefuses {valid : β → Prop} (haccepts : NeverRefuses valid) :
    ∀ (ops : List (Moment × Operation)) {s : Store β}, valid s.backend → s.UnfailedRun ops
  | [], _, _ => trivial
  | (m, op) :: ops, _, hvalid =>
    ⟨unfailed_of_accepted (fun text => haccepts.set_ok _ text hvalid) m op,
      unfailedRun_of_neverRefuses haccepts ops (valid_runTo haccepts hvalid [(m, op)] 1)⟩

end Store
end PortGrid
