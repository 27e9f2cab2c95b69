import PortGrid.Proofs.Storage.Laws
import PortGrid.Store

/-!
# What operations do, one by one and in a row

`Changes` lists the changes that an operation can plan, one for each kind of operation, and `Step` the five ways in
which a store can come out of an operation: refused, kept, changed without a write, changed behind a write, and stopped
by a write that failed. A run performs operations one after the other; what every step keeps, every run keeps.

The writes of a run are those that a recorded storage sees. Recording changes nothing else: a recorded run goes through
the same states as a run on the storage itself.

Key definitions: `Changes`, `Store.Step`, `Store.run`, `Store.runTo`, `Store.writes`.
Key theorems: `Changes.of_plan`, `Store.step_perform`, `Store.run_induction`, `Store.backend_induction`,
`Store.run_recorded`.
-/

namespace PortGrid

/-! ### Plans -/

/-- The change that an operation makes to a state at a moment, and its answer. -/
inductive Changes (m : Moment) (s : State) : Operation → State → Reply → Prop where
  | add (draft : Draft) :
    Changes m s (.add draft)
      { s with equipments := s.equipments ++ [draft.build s.portLabel m], selected := some m.equipmentId }
      (.added m.equipmentId)
  | update {id : EquipmentId} {change : EquipmentUpdate} {e : Equipment} (he : s.equipment? id = some e) :
    Changes m s (.update id change) (s.modifyEquipment id (·.apply change s.portLabel m)) .done
  | delete {id : EquipmentId} {e : Equipment} (he : s.equipment? id = some e) :
    Changes m s (.delete id) (s.eraseEquipment id) .done
  | deselect : Changes m s (.select none) { s with selected := none } .done
  | select {id : EquipmentId} {e : Equipment} (he : s.equipment? id = some e) :
    Changes m s (.select (some id)) { s with selected := some id } .done
  | updatePort {id : EquipmentId} {port : PortId} {change : PortUpdate} {e : Equipment} {p : Port}
    (he : s.equipment? id = some e) (hp : e.port? port = some p) :
    Changes m s (.updatePort id port change)
      (s.modifyEquipment id fun e => (e.modifyPort port (·.apply change)).touch m.now) .done
  | rename {id : EquipmentId} {pattern : String} {e : Equipment} {names : Names} (he : s.equipment? id = some e)
    (hnames : assignNames pattern e.ports = .ok names) (hne : names.pairs.isEmpty = false) :
    Changes m s (.rename id pattern) (s.modifyEquipment id fun e => (e.withNames names).touch m.now)
      (.renamed names.size)
  | setFilter (change : FilterUpdate) : Changes m s (.setFilter change) { s with filter := s.filter.merge change } .done
  | clearFilter : Changes m s .clearFilter { s with filter := {} } .done
  | toggleDark : Changes m s .toggleDark { s with isDark := !s.isDark } (.dark (!s.isDark))
  | setLanguage (language : Language) : Changes m s (.setLanguage language) { s with language := language } .done

theorem State.require_ok {s : State} {id : EquipmentId} {e : Equipment} (h : s.require id = .ok e) :
    s.equipment? id = some e := by
  unfold require at h
  split at h
  · rename_i he
    cases h
    exact he
  · cases h

theorem State.require_of_found {s : State} {id : EquipmentId} {e : Equipment} (h : s.equipment? id = some e) :
    s.require id = .ok e := by
  unfold require
  rw [h]

/-- An operation on a piece of equipment goes on with it, or is refused. -/
theorem require_bind {α : Type} {s : State} {id : EquipmentId} {f : Equipment → Except StoreError α} {x : α}
    (h : (s.require id >>= f) = .ok x) : ∃ e, s.equipment? id = some e ∧ f e = .ok x := by
  cases hr : s.require id with
  | error e =>
    rw [hr] at h
    cases h
  | ok e =>
    rw [hr] at h
    exact ⟨e, State.require_ok hr, h⟩

theorem Changes.of_plan {m : Moment} {s next : State} {op : Operation} {reply : Reply} {events : List Event}
    (h : op.plan m s = .ok (.change next reply events)) : Changes m s op next reply := by
  cases op with
  | add draft =>
    cases h
    exact .add draft
  | update id change =>
    obtain ⟨e, he, h⟩ := require_bind h
    cases h
    exact .update he
  | delete id =>
    obtain ⟨e, he, h⟩ := require_bind h
    cases h
    exact .delete he
  | select id =>
    cases id with
    | none =>
      cases h
      exact .deselect
    | some id =>
      obtain ⟨e, he, h⟩ := require_bind h
      cases h
      exact .select he
  | updatePort id port change =>
    obtain ⟨e, he, h⟩ := require_bind h
    split at h
    · cases h
    · rename_i p hp
      cases h
      exact .updatePort he hp
  | rename id pattern =>
    obtain ⟨e, he, h⟩ := require_bind h
    split at h
    · cases h
    · rename_i names hnames
      split at h
      · cases h
      · rename_i hne
        cases h
        exact .rename he hnames (by simpa using hne)
  | setFilter change =>
    cases h
    exact .setFilter change
  | clearFilter =>
    cases h
    exact .clearFilter
  | toggleDark =>
    cases h
    exact .toggleDark
  | setLanguage language =>
    cases h
    exact .setLanguage language
  | save => cases h

/-- What is accepted is planned as a change, unless it is a rename that names nothing or the order to save. -/
theorem Operation.plan_cases {m : Moment} {s : State} {op : Operation} {plan : Plan} (h : op.plan m s = .ok plan) :
    (∃ next reply events, plan = .change next reply events) ∨
      (∃ id pattern reply events, op = .rename id pattern ∧ plan = .keep reply events) ∨
      (op = .save ∧ plan = .write) := by
  cases op with
  | rename id pattern =>
    obtain ⟨e, -, h⟩ := require_bind h
    split at h
    · cases h
    · split at h
      · cases h
        exact .inr (.inl ⟨id, pattern, _, _, rfl, rfl⟩)
      · cases h
        exact .inl ⟨_, _, _, rfl⟩
  | save =>
    cases h
    exact .inr (.inr ⟨rfl, rfl⟩)
  | update id change =>
    obtain ⟨e, -, h⟩ := require_bind h
    cases h
    exact .inl ⟨_, _, _, rfl⟩
  | delete id =>
    obtain ⟨e, -, h⟩ := require_bind h
    cases h
    exact .inl ⟨_, _, _, rfl⟩
  | updatePort id port change =>
    obtain ⟨e, -, h⟩ := require_bind h
    split at h
    · cases h
    · cases h
      exact .inl ⟨_, _, _, rfl⟩
  | select id =>
    cases id with
    | none =>
      cases h
      exact .inl ⟨_, _, _, rfl⟩
    | some id =>
      obtain ⟨e, -, h⟩ := require_bind h
      cases h
      exact .inl ⟨_, _, _, rfl⟩
  | _ =>
    cases h
    exact .inl ⟨_, _, _, rfl⟩

/-- Only the order to save is planned as a write of the state as it is. -/
theorem Operation.plan_eq_write_iff {m : Moment} {s : State} {op : Operation} :
    op.plan m s = .ok .write ↔ op = .save := by
  constructor
  · intro h
    rcases Operation.plan_cases h with ⟨_, _, _, hplan⟩ | ⟨_, _, _, _, -, hplan⟩ | ⟨hop, -⟩
    · cases hplan
    · cases hplan
    · exact hop
  · rintro rfl
    rfl

/-! ### Steps -/

namespace Store

variable {β : Type} [Backend β]

/-- The state that an operation is going to write, with its answer and what it reports once the write is done: a planned
change if the store saves by itself, and the state as it is if it is told to save. -/
def Writing (s : Store β) (m : Moment) (op : Operation) (next : State) (reply : Reply) (events : List Event) : Prop :=
  (op.plan m s.state = .ok (.change next reply events) ∧ s.config.autosave = true) ∨
    (op.plan m s.state = .ok .write ∧ next = s.state ∧ reply = .done ∧ events = [])

/-- The ways in which a store comes out of an operation. -/
inductive Step (s : Store β) (m : Moment) (op : Operation) : Outcome β → Prop where
  | refused {e : StoreError} (h : op.plan m s.state = .error e) : Step s m op ⟨.error e, s, []⟩
  | kept {reply : Reply} {events : List Event} (h : op.plan m s.state = .ok (.keep reply events)) :
    Step s m op ⟨.ok reply, s, events⟩
  | unsaved {next : State} {reply : Reply} {events : List Event}
    (h : op.plan m s.state = .ok (.change next reply events)) (hauto : s.config.autosave = false) :
    Step s m op ⟨.ok reply, { s with state := next }, events⟩
  | saved {next : State} {reply : Reply} {events : List Event} {b : β} (h : s.Writing m op next reply events)
    (hb : Backend.set s.backend s.config.storageKey next.snapshot = (.ok (), b)) :
    Step s m op ⟨.ok reply, { s with backend := b, state := next }, .saved s.config.storageKey :: events⟩
  | failed {next : State} {reply : Reply} {events : List Event} {e : StorageError} {b : β}
    (h : s.Writing m op next reply events)
    (hb : Backend.set s.backend s.config.storageKey next.snapshot = (.error e, b)) :
    Step s m op ⟨.error (.storage e), { s with backend := b }, []⟩

theorem step_commit {s : Store β} {m : Moment} {op : Operation} {next : State} {reply : Reply} {events : List Event}
    (h : s.Writing m op next reply events) : Step s m op (s.commit next reply events) := by
  unfold commit
  split
  · rename_i b hb
    exact .saved h hb
  · rename_i e b hb
    exact .failed h hb

theorem step_perform (s : Store β) (m : Moment) (op : Operation) : Step s m op (s.perform m op) := by
  unfold perform
  split
  · rename_i e h
    exact .refused h
  · rename_i reply events h
    exact .kept h
  · rename_i next reply events h
    split
    · rename_i hauto
      exact step_commit (.inl ⟨h, hauto⟩)
    · rename_i hauto
      exact .unsaved h (by simpa using hauto)
  · rename_i h
    exact step_commit (.inr ⟨h, rfl, rfl, rfl⟩)

/-- The state after an operation is the one before it, or one that the operation has changed it into with success. -/
theorem Step.state_cases {s : Store β} {m : Moment} {op : Operation} {o : Outcome β} (h : Step s m op o) :
    o.store.state = s.state ∨ ∃ reply, o.result = .ok reply ∧ Changes m s.state op o.store.state reply := by
  cases h with
  | refused h => exact .inl rfl
  | kept h => exact .inl rfl
  | unsaved h hauto => exact .inr ⟨_, rfl, .of_plan h⟩
  | saved h hb =>
    rcases h with ⟨h, -⟩ | ⟨-, rfl, -, -⟩
    · exact .inr ⟨_, rfl, .of_plan h⟩
    · exact .inl rfl
  | failed h hb => exact .inl rfl

theorem Step.config_eq {s : Store β} {m : Moment} {op : Operation} {o : Outcome β} (h : Step s m op o) :
    o.store.config = s.config := by
  cases h <;> rfl

/-- The storage after an operation is the one before it, or comes out of a write under the key of the store. -/
theorem Step.backend_cases {s : Store β} {m : Moment} {op : Operation} {o : Outcome β} (h : Step s m op o) :
    o.store.backend = s.backend ∨ ∃ text, o.store.backend = (Backend.set s.backend s.config.storageKey text).2 := by
  cases h with
  | refused _ => exact .inl rfl
  | kept _ => exact .inl rfl
  | unsaved _ _ => exact .inl rfl
  | saved _ hb => exact .inr ⟨_, (congrArg Prod.snd hb).symm⟩
  | failed _ hb => exact .inr ⟨_, (congrArg Prod.snd hb).symm⟩

/-! ### Runs -/

/-- The store after some operations, each performed at a moment of its own. -/
def run (s : Store β) : List (Moment × Operation) → Store β
  | [] => s
  | (m, op) :: ops => (s.perform m op).store.run ops

/-- What every operation keeps, every run keeps. -/
theorem run_induction {P : Store β → Prop} (hstep : ∀ s m op, P s → P (s.perform m op).store) :
    ∀ (ops : List (Moment × Operation)) (s : Store β), P s → P (s.run ops)
  | [], _, h => h
  | (m, op) :: ops, s, h => run_induction hstep ops _ (hstep s m op h)

theorem run_append : ∀ (ops ops' : List (Moment × Operation)) (s : Store β),
    s.run (ops ++ ops') = (s.run ops).run ops'
  | [], _, _ => rfl
  | (_, _) :: ops, ops', _ => run_append ops ops' _

theorem config_run (s : Store β) (ops : List (Moment × Operation)) : (s.run ops).config = s.config :=
  run_induction (P := fun t => t.config = s.config) (fun t m op h => (step_perform t m op).config_eq.trans h) ops s rfl

/-- What every write under the key of a store keeps of a storage, every run of the store keeps. -/
theorem backend_induction {P : β → Prop} {s : Store β}
    (hset : ∀ b text, P b → P (Backend.set b s.config.storageKey text).2) (ops : List (Moment × Operation))
    (h : P s.backend) : P (s.run ops).backend := by
  have hrun := run_induction (P := fun t : Store β => t.config = s.config ∧ P t.backend)
    (fun t m op ⟨hconfig, ht⟩ => ?_) ops s ⟨rfl, h⟩
  · exact hrun.2
  have hstep := step_perform t m op
  refine ⟨hstep.config_eq.trans hconfig, ?_⟩
  rcases hstep.backend_cases with hsame | ⟨text, hwritten⟩
  · exact hsame ▸ ht
  · rw [hwritten, hconfig]
    exact hset _ text ht

/-- The store after the first operations of a run. -/
def runTo (s : Store β) (ops : List (Moment × Operation)) (k : Nat) : Store β := s.run (ops.take k)

theorem runTo_zero (s : Store β) (ops : List (Moment × Operation)) : s.runTo ops 0 = s := by
  rw [runTo, List.take_zero, run]

theorem runTo_succ {s : Store β} {ops : List (Moment × Operation)} {k : Nat} {m : Moment} {op : Operation}
    (h : ops[k]? = some (m, op)) : s.runTo ops (k + 1) = ((s.runTo ops k).perform m op).store := by
  rw [runTo, List.take_add_one, h, run_append]
  rfl

theorem runTo_succ_of_none {s : Store β} {ops : List (Moment × Operation)} {k : Nat} (h : ops[k]? = none) :
    s.runTo ops (k + 1) = s.runTo ops k := by
  rw [runTo, List.take_add_one, h, Option.toList_none, List.append_nil]
  rfl

/-! ### The writes of a run -/

/-- The store on its storage with an empty record. -/
def recorded (s : Store β) : Store (Recorded β) := ⟨s.config, ⟨s.backend, []⟩, s.state⟩

/-- The store without the record of its storage. -/
def unrecorded (s : Store (Recorded β)) : Store β := ⟨s.config, s.backend.inner, s.state⟩

/-- The writes that some operations ask of the storage, in their order. -/
def writes (s : Store β) (ops : List (Moment × Operation)) : List WriteRecord :=
  (s.recorded.run ops).backend.writes

theorem commit_recorded (s : Store (Recorded β)) (next : State) (reply : Reply) (events : List Event) :
    unrecorded (s.commit next reply events).store = (s.unrecorded.commit next reply events).store := by
  have hset : s.write next = ((s.unrecorded.write next).1, ⟨(s.unrecorded.write next).2, s.backend.writes ++
      [⟨s.config.storageKey, next.snapshot, (s.unrecorded.write next).1.toBool⟩]⟩) := rfl
  unfold commit
  rw [hset]
  rcases s.unrecorded.write next with ⟨_ | _, b⟩ <;> rfl

theorem perform_recorded (s : Store (Recorded β)) (m : Moment) (op : Operation) :
    unrecorded (s.perform m op).store = (s.unrecorded.perform m op).store := by
  have hstate : s.unrecorded.state = s.state := rfl
  have hconfig : s.unrecorded.config = s.config := rfl
  simp only [perform, hstate, hconfig]
  cases op.plan m s.state with
  | error e => rfl
  | ok plan =>
    cases plan with
    | keep reply events => rfl
    | change next reply events =>
      by_cases hauto : s.config.autosave = true
      · simp only [hauto, if_true]
        exact commit_recorded s next reply events
      · simp only [hauto]
        rfl
    | write => exact commit_recorded s s.state .done []

/-- A record changes nothing but itself. -/
theorem run_recorded : ∀ (ops : List (Moment × Operation)) (s : Store (Recorded β)),
    unrecorded (s.run ops) = s.unrecorded.run ops
  | [], _ => rfl
  | (m, op) :: ops, s => by
    rw [run, run_recorded ops, perform_recorded]
    rfl

end Store

/-! ### Moments -/

/-- The beginning of 1970, with numbers from the given one on for identifiers. -/
def Moment.numbered (first : Nat) : Moment where
  now := .atMinute ⟨1970, 1, 1, by decide⟩ 0 0 0
  equipmentId := ⟨first.repr⟩
  portId i := ⟨(first + i).repr⟩

end PortGrid
