import PortGrid.Proofs.Store.Run

/-!
# What a store does, wherever and whenever it saves

The effect of an operation is its answer and the state after it, as they follow from its plan alone. A store whose
writes succeed performs exactly the effects, whether it saves by itself or not. A store that does not save by itself
goes through the same states on any storage, gives the same answers unless it is told to save, and touches its storage
only then. So two such stores that start in one state cannot be told apart by their states and answers.

Key definition: `Operation.effect`.
Key theorems: `Store.perform_of_accepted`, `Store.perform_of_unsaved`, `Store.perform_save_ok`, `Store.runs_agree`.
-/

namespace PortGrid

/-- What an operation answers and makes of a state at a moment, if no write fails. -/
def Operation.effect (m : Moment) (s : State) (op : Operation) : Except StoreError Reply × State :=
  match op.plan m s with
  | .error e => (.error e, s)
  | .ok (.keep reply _) => (.ok reply, s)
  | .ok (.change next reply _) => (.ok reply, next)
  | .ok .write => (.ok .done, s)

namespace Store

/-! ### One operation -/

section Steps

variable {β : Type} [Backend β] {s : Store β} {m : Moment} {op : Operation}

theorem perform_of_accepted (hset : ∀ text, (Backend.set s.backend s.config.storageKey text).1 = .ok ()) (m : Moment)
    (op : Operation) :
    ((s.perform m op).result, (s.perform m op).store.state) = op.effect m s.state := by
  have hstep := step_perform s m op
  generalize s.perform m op = o at hstep ⊢
  unfold Operation.effect
  cases hstep with
  | refused hplan => rw [hplan]
  | kept hplan => rw [hplan]
  | unsaved hplan _ => rw [hplan]
  | saved hwriting _ =>
    rcases hwriting with ⟨hplan, -⟩ | ⟨hplan, rfl, rfl, -⟩
    · rw [hplan]
    · rw [hplan]
  | @failed next reply events e b _ hfailed =>
    have hok := hset next.snapshot
    rw [hfailed] at hok
    cases hok

/-- A store that does not save by itself does what the plan says and leaves its storage alone, unless it is told to
save. -/
theorem perform_of_unsaved (hauto : s.config.autosave = false) (hop : op ≠ .save) :
    (s.perform m op).result = (op.effect m s.state).1 ∧
      (s.perform m op).store = { s with state := (op.effect m s.state).2 } := by
  have hstep := step_perform s m op
  generalize s.perform m op = o at hstep ⊢
  have hsilent : ∀ {next : State} {reply : Reply} {events : List Event}, ¬ s.Writing m op next reply events := by
    rintro next reply events (⟨-, hsaves⟩ | ⟨hplan, -⟩)
    · rw [hauto] at hsaves
      cases hsaves
    · exact hop (Operation.plan_eq_write_iff.mp hplan)
  unfold Operation.effect
  cases hstep with
  | refused hplan =>
    rw [hplan]
    exact ⟨rfl, rfl⟩
  | kept hplan =>
    rw [hplan]
    exact ⟨rfl, rfl⟩
  | unsaved hplan _ =>
    rw [hplan]
    exact ⟨rfl, rfl⟩
  | saved hwriting _ => exact absurd hwriting hsilent
  | failed hwriting _ => exact absurd hwriting hsilent

theorem state_perform_save (s : Store β) (m : Moment) : (s.perform m .save).store.state = s.state := by
  show (s.commit s.state .done []).store.state = s.state
  unfold commit
  split <;> rfl

/-- An order to save that succeeds has written the state under the key, and done nothing else. -/
theorem perform_save_ok {reply : Reply} (hok : (s.perform m .save).result = .ok reply) :
    Backend.set s.backend s.config.storageKey s.state.snapshot = (.ok (), (s.perform m .save).store.backend) := by
  change (s.commit s.state .done []).result = _ at hok
  show Backend.set s.backend s.config.storageKey s.state.snapshot = (.ok (), (s.commit s.state .done []).store.backend)
  unfold commit at hok ⊢
  split at hok
  · rename_i b hset
    change Backend.set s.backend s.config.storageKey s.state.snapshot = (.ok (), b) at hset
    simp only [hset]
  · cases hok

theorem state_of_unsaved (hauto : s.config.autosave = false) :
    (s.perform m op).store.state = (op.effect m s.state).2 := by
  by_cases hop : op = .save
  · subst hop
    exact state_perform_save s m
  · rw [(perform_of_unsaved hauto hop).2]

end Steps

/-! ### Runs -/

section Runs

variable {β γ : Type} [Backend β] [Backend γ]

theorem valid_runTo {valid : β → Prop} (haccepts : NeverRefuses valid) {s : Store β} (hvalid : valid s.backend)
    (ops : List (Moment × Operation)) (k : Nat) : valid (s.runTo ops k).backend :=
  backend_induction (fun _ text hb => haccepts.valid_set _ text hb) (ops.take k) hvalid

/-- **Where and when a store saves makes no difference.** A store whose writes all succeed, whether it saves by itself
or not, and a store that does not save by itself, on any other storage, go through the same states if they start in the
same one, and answer the same to every operation but the order to save. The second one leaves its storage alone except
for that order, which when it succeeds has written the present state under the key. -/
theorem runs_agree {valid : β → Prop} (haccepts : NeverRefuses valid) {s : Store β} (hvalid : valid s.backend)
    {t : Store γ} (hauto : t.config.autosave = false) (hstate : s.state = t.state) (ops : List (Moment × Operation)) :
    (∀ k, (s.runTo ops k).state = (t.runTo ops k).state) ∧
      (∀ k m op, ops[k]? = some (m, op) → op ≠ .save →
        ((s.runTo ops k).perform m op).result = ((t.runTo ops k).perform m op).result ∧
          (t.runTo ops (k + 1)).backend = (t.runTo ops k).backend) ∧
      ∀ k m reply, ops[k]? = some (m, .save) → ((t.runTo ops k).perform m .save).result = .ok reply →
        Backend.set (t.runTo ops k).backend t.config.storageKey (t.runTo ops k).state.snapshot =
            (.ok (), (t.runTo ops (k + 1)).backend) ∧
          (ReadsBack (t.runTo ops k).backend →
            Backend.get (t.runTo ops (k + 1)).backend t.config.storageKey =
              .ok (some (t.runTo ops k).state.snapshot)) := by
  have hset : ∀ k text, (Backend.set (s.runTo ops k).backend (s.runTo ops k).config.storageKey text).1 = .ok () :=
    fun k text => haccepts.set_ok _ text (valid_runTo haccepts hvalid ops k)
  have hunsaved : ∀ k, (t.runTo ops k).config.autosave = false := by
    intro k
    rw [runTo, config_run]
    exact hauto
  -- Both runs go through the effects of the operations; where they write does not enter into the states.
  have hstates : ∀ k, (s.runTo ops k).state = (t.runTo ops k).state := by
    intro k
    induction k with
    | zero => exact hstate
    | succ k ih =>
      cases hop : ops[k]? with
      | none => rw [runTo_succ_of_none hop, runTo_succ_of_none hop, ih]
      | some entry =>
        obtain ⟨m, op⟩ := entry
        have heffect := congrArg Prod.snd (perform_of_accepted (hset k) m op)
        rw [runTo_succ hop, runTo_succ hop, state_of_unsaved (hunsaved k), ← ih]
        exact heffect
  refine ⟨hstates, fun k m op hop hne => ?_, fun k m reply hop hok => ?_⟩
  · obtain ⟨hresult, hstore⟩ := perform_of_unsaved (m := m) (hunsaved k) hne
    have heffect := congrArg Prod.fst (perform_of_accepted (hset k) m op)
    rw [runTo_succ hop, hresult, hstore, ← hstates k]
    exact ⟨heffect, rfl⟩
  · have hwritten := perform_save_ok hok
    have hkey : (t.runTo ops k).config = t.config := config_run t _
    rw [hkey] at hwritten
    rw [runTo_succ hop]
    exact ⟨hwritten, fun hreads => hreads hwritten⟩

end Runs

/-- A store that does not save by itself, on a storage that lets one write through. -/
def manual : Store (Guarded MemoryStorage) := ⟨{ autosave := false }, { inner := {}, writesLeft := some 1 }, {}⟩

/-- The display changes twice, and in between the state is to be saved. -/
def saveBetween : List (Moment × Operation) :=
  [(.numbered 0, .toggleDark), (.numbered 1, .save), (.numbered 2, .toggleDark), (.numbered 3, .save)]

/-- Behind them the two stores are in the same state, and answer the same on the way; what is stored is the dark state,
since the second order to save fails. -/
theorem runs_agree_saveBetween :
    (∀ k, ((fresh ({} : MemoryStorage)).runTo saveBetween k).state = (manual.runTo saveBetween k).state) ∧
      (((fresh ({} : MemoryStorage)).runTo saveBetween 2).perform (.numbered 2) .toggleDark).result =
        ((manual.runTo saveBetween 2).perform (.numbered 2) .toggleDark).result ∧
      Backend.get (manual.runTo saveBetween 2).backend "port-status-storage" =
        .ok (some ({ isDark := true } : State).snapshot) ∧
      (∃ e, ((manual.runTo saveBetween 3).perform (.numbered 3) .save).result = .error e) := by
  obtain ⟨hstates, hanswers, hsaved⟩ := runs_agree MemoryStorage.neverRefuses (s := fresh {}) trivial (t := manual)
    rfl rfl saveBetween
  have hdark : (manual.runTo saveBetween 1).state = { isDark := true } := rfl
  have hreads : ReadsBack (manual.runTo saveBetween 1).backend :=
    (Guarded.reliable MemoryStorage.reliable).get_set ⟨rfl, trivial⟩
  have hstored := (hsaved 1 (.numbered 1) .done rfl rfl).2 hreads
  rw [hdark] at hstored
  exact ⟨hstates, (hanswers 2 _ _ rfl (by simp)).1, hstored, ⟨_, rfl⟩⟩

end Store
end PortGrid
