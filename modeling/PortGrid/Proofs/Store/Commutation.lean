import PortGrid.Proofs.Store.Renaming

/-!
# Operations on different devices

An operation that changes, renames or deletes a device, or edits one of its ports, looks at this device and the
language, and at nothing else of the state. What comes of it is its work: a refusal, an answer alone, or an edit of the
device. An edit leaves every other device and the language alone, so that two operations on different devices have the
same work whichever comes first. Their edits commute, and with them the operations, as long as no write fails.

Key definitions: `Operation.target?`, `Edit`, `Work`, `Outcome.Unfailed`.
Key theorems: `Edit.run_comm`, `Operation.plan_eq_work`, `Store.perform_work`, `Store.perform_comm`.
-/

namespace PortGrid

/-! ### Edits -/

/-- What is done to a device: it is changed, or taken away. A change keeps the identifier. -/
inductive Edit where
  | modify (f : Equipment → Equipment) (hid : ∀ e, (f e).id = e.id)
  | erase

namespace Edit

/-- The state after the edit of the device of an identifier. -/
def run (edit : Edit) (id : EquipmentId) (s : State) : State :=
  match edit with
  | modify f _ => s.modifyEquipment id f
  | erase => s.eraseEquipment id

variable {i j : EquipmentId}

theorem language_run (edit : Edit) (i : EquipmentId) (s : State) : (edit.run i s).language = s.language := by
  cases edit <;> rfl

theorem equipment?_run (edit : Edit) (hne : i ≠ j) (s : State) : (edit.run i s).equipment? j = s.equipment? j := by
  cases edit with
  | modify f hid =>
    apply find?_modifyFirst
    · intro e
      rw [hid]
    · intro e he
      simpa [of_decide_eq_true he] using hne
  | erase =>
    show (s.equipments.filter (·.id ≠ i)).find? (·.id = j) = s.equipments.find? (·.id = j)
    rw [List.find?_filter]
    congr 1
    funext e
    by_cases he : e.id = j
    · simp [he, hne.symm]
    · simp [he]

theorem eraseEquipment_modifyEquipment {f : Equipment → Equipment} (hid : ∀ e, (f e).id = e.id) (hne : i ≠ j)
    (s : State) : (s.modifyEquipment i f).eraseEquipment j = (s.eraseEquipment j).modifyEquipment i f := by
  have hlist : (modifyFirst (·.id = i) f s.equipments).filter (·.id ≠ j) =
      modifyFirst (·.id = i) f (s.equipments.filter (·.id ≠ j)) := by
    apply filter_modifyFirst
    · intro e
      rw [hid]
    · intro e he
      simpa [of_decide_eq_true he] using hne
  exact congrArg (fun equipments => { s.eraseEquipment j with equipments := equipments }) hlist

/-- **Edits of different devices commute.** -/
theorem run_comm (a b : Edit) (hne : i ≠ j) (s : State) : b.run j (a.run i s) = a.run i (b.run j s) := by
  cases a with
  | modify f hf =>
    cases b with
    | modify g hg =>
      have hlist : modifyFirst (·.id = j) g (modifyFirst (·.id = i) f s.equipments) =
          modifyFirst (·.id = i) f (modifyFirst (·.id = j) g s.equipments) := by
        apply modifyFirst_comm
        · intro e
          rw [hf]
        · intro e
          rw [hg]
        · intro e he
          simpa [of_decide_eq_true he] using hne
      exact congrArg (fun equipments => { s with equipments := equipments }) hlist
    | erase => exact eraseEquipment_modifyEquipment hf hne s
  | erase =>
    cases b with
    | modify g hg => exact (eraseEquipment_modifyEquipment hg hne.symm s).symm
    | erase =>
      -- The selection falls if it is one of the two, whichever is deleted first.
      have hlist : (s.equipments.filter (·.id ≠ i)).filter (·.id ≠ j) =
          (s.equipments.filter (·.id ≠ j)).filter (·.id ≠ i) := List.filter_comm ..
      simp only [run, State.eraseEquipment, hlist]
      congr 1
      split <;> split <;> simp_all

end Edit

/-! ### The work of an operation -/

/-- The device that an operation works on, if there is one. -/
def Operation.target? : Operation → Option EquipmentId
  | .update id _ => some id
  | .delete id => some id
  | .updatePort id _ _ => some id
  | .rename id _ => some id
  | _ => none

/-- What comes of an operation on a device: it is refused, it gives an answer alone, or it edits the device. -/
inductive Work where
  | refuse (e : StoreError)
  | keep (reply : Reply) (events : List Event)
  | edit (change : Edit) (reply : Reply) (events : List Event)

namespace Work

/-- The work as it is planned for the device of an identifier. -/
def plan (w : Work) (id : EquipmentId) (s : State) : Except StoreError Plan :=
  match w with
  | refuse e => .error e
  | keep reply events => .ok (.keep reply events)
  | edit change reply events => .ok (.change (change.run id s) reply events)

def result : Work → Except StoreError Reply
  | refuse e => .error e
  | keep reply _ => .ok reply
  | edit _ reply _ => .ok reply

def run (w : Work) (id : EquipmentId) (s : State) : State :=
  match w with
  | edit change _ _ => change.run id s
  | _ => s

/-- Whether the work is an edit, which a store that saves by itself has to write. -/
def edits : Work → Bool
  | edit _ _ _ => true
  | _ => false

variable {i j : EquipmentId}

theorem run_of_not_edits {w : Work} (h : w.edits = false) (s : State) : w.run i s = s := by
  cases w with
  | edit change reply events => cases h
  | _ => rfl

theorem language_run (w : Work) (i : EquipmentId) (s : State) : (w.run i s).language = s.language := by
  cases w with
  | edit change reply events => exact change.language_run i s
  | _ => rfl

theorem equipment?_run (w : Work) (hne : i ≠ j) (s : State) : (w.run i s).equipment? j = s.equipment? j := by
  cases w with
  | edit change reply events => exact change.equipment?_run hne s
  | _ => rfl

theorem run_comm (v w : Work) (hne : i ≠ j) (s : State) : w.run j (v.run i s) = v.run i (w.run j s) := by
  cases v with
  | edit a reply events =>
    cases w with
    | edit b reply' events' => exact a.run_comm b hne s
    | _ => rfl
  | _ => rfl

end Work

theorem State.require_congr {s t : State} {id : EquipmentId} (h : t.equipment? id = s.equipment? id) :
    t.require id = s.require id := by
  rw [require, require, h]

/-- An operation on a device that states of one language have alike is the same work on them all. -/
theorem Operation.plan_eq_work {op : Operation} {id : EquipmentId} (hop : op.target? = some id) (m : Moment)
    (s : State) : ∃ w : Work, ∀ t : State, t.equipment? id = s.equipment? id → t.language = s.language →
      op.plan m t = w.plan id t := by
  cases hfound : s.require id with
  | error fault =>
    refine ⟨.refuse fault, fun t ht _ => ?_⟩
    rw [← State.require_congr ht] at hfound
    cases op <;> cases hop <;> simp only [plan, hfound] <;> rfl
  | ok e =>
    have hrequire : ∀ t : State, t.equipment? id = s.equipment? id → t.require id = .ok e :=
      fun t ht => (State.require_congr ht).trans hfound
    cases op with
    | update i change =>
      cases hop
      refine ⟨.edit (.modify (·.apply change s.portLabel m) fun _ => Equipment.id_apply _) .done
        ((e.resizedBy change).elim [] fun layout => [.resized id layout]), fun t ht hlanguage => ?_⟩
      -- The label of fresh ports comes from the language, the rest from the device.
      have hlabel : t.portLabel = s.portLabel := congrArg (·.messages.portLabel) hlanguage
      simp only [plan, hrequire t ht, hlabel, bind, Except.bind]
      cases e.resizedBy change <;> rfl
    | delete i =>
      cases hop
      refine ⟨.edit .erase .done [.deleted id], fun t ht _ => ?_⟩
      rw [plan, hrequire t ht]
      rfl
    | updatePort i port change =>
      cases hop
      cases hport : e.port? port with
      | none =>
        refine ⟨.refuse (.portNotFound id port), fun t ht _ => ?_⟩
        simp only [plan, hrequire t ht, bind, Except.bind, hport]
        rfl
      | some p =>
        refine ⟨.edit (.modify (fun e => (e.modifyPort port (·.apply change)).touch m.now) fun _ => rfl) .done
          [.portUpdated port id], fun t ht _ => ?_⟩
        simp only [plan, hrequire t ht, bind, Except.bind, hport]
        rfl
    | rename i pattern =>
      cases hop
      have he := State.require_ok hfound
      cases hnames : assignNames pattern e.ports with
      | error fault =>
        refine ⟨.refuse (.pattern fault), fun t ht _ => ?_⟩
        rw [plan_rename (ht.trans he), hnames]
        rfl
      | ok names =>
        by_cases hempty : names.pairs.isEmpty = true
        · refine ⟨.keep (.renamed 0) [.namedNothing pattern id], fun t ht _ => ?_⟩
          simp only [plan_rename (ht.trans he), hnames, if_pos hempty]
          rfl
        · refine ⟨.edit (.modify (·.renamed pattern m.now) fun e => e.id_renamed pattern m.now) (.renamed names.size)
            [.renamed names.size e.ports.length id pattern], fun t ht _ => ?_⟩
          simp only [plan_rename (ht.trans he), hnames, if_neg hempty]
          rfl
    | _ => cases hop

/-! ### Stores -/

/-- No write of the operation has failed. -/
def Outcome.Unfailed {β : Type} (o : Outcome β) : Prop := ∀ e, o.result ≠ .error (.storage e)

namespace Store

variable {β : Type} [Backend β] {valid : β → Prop} {s : Store β}

/-- A state whose write does not fail has been written, and becomes that of the store. -/
theorem commit_of_unfailed {next : State} {reply : Reply} {events : List Event}
    (hok : (s.commit next reply events).Unfailed) :
    ∃ b, Backend.set s.backend s.config.storageKey next.snapshot = (.ok (), b) ∧
      s.commit next reply events =
        ⟨.ok reply, { s with backend := b, state := next }, .saved s.config.storageKey :: events⟩ := by
  unfold commit at hok ⊢
  split at hok
  · rename_i b hset
    exact ⟨b, hset, rfl⟩
  · rename_i e b hset
    exact absurd rfl (hok e)

/-- An operation whose write does not fail does its work, and the state behind an edit is the one stored if the store
saves by itself. -/
theorem perform_work (laws : Reliable valid) (hvalid : valid s.backend) {m : Moment} {op : Operation} {w : Work}
    {id : EquipmentId} (hplan : op.plan m s.state = w.plan id s.state) (hok : (s.perform m op).Unfailed) :
    (s.perform m op).result = w.result ∧ (s.perform m op).store.state = w.run id s.state ∧
      (s.perform m op).store.config = s.config ∧ valid (s.perform m op).store.backend ∧
      Backend.get (s.perform m op).store.backend s.config.storageKey =
        if w.edits && s.config.autosave then .ok (some (w.run id s.state).snapshot)
        else Backend.get s.backend s.config.storageKey := by
  unfold perform at hok ⊢
  rw [hplan] at hok ⊢
  cases w with
  | refuse e => exact ⟨rfl, rfl, rfl, hvalid, rfl⟩
  | keep reply events => exact ⟨rfl, rfl, rfl, hvalid, rfl⟩
  | edit change reply events =>
    simp only [Work.plan, Work.run, Work.edits, Bool.true_and] at hok ⊢
    cases hauto : s.config.autosave with
    | false => exact ⟨rfl, rfl, rfl, hvalid, rfl⟩
    | true =>
      rw [hauto, if_pos rfl] at hok
      obtain ⟨b, hset, hcommit⟩ := commit_of_unfailed hok
      have hkept := laws.valid_set s.config.storageKey (change.run id s.state).snapshot hvalid
      rw [hset] at hkept
      rw [if_pos rfl, hcommit]
      exact ⟨rfl, rfl, rfl, hkept, laws.get_set hvalid hset⟩

/-- **Operations on different devices commute.** If no write fails, two operations that change, rename or delete
different devices, or edit ports of theirs, answer the same whichever comes first, and lead to the same state and the
same stored text. -/
theorem perform_comm (laws : Reliable valid) (hvalid : valid s.backend) {a b : Operation} {i j : EquipmentId}
    (ha : a.target? = some i) (hb : b.target? = some j) (hne : i ≠ j) (ma mb : Moment)
    (hfirst : (s.perform ma a).Unfailed) (hsecond : ((s.perform ma a).store.perform mb b).Unfailed)
    (hfirst' : (s.perform mb b).Unfailed) (hsecond' : ((s.perform mb b).store.perform ma a).Unfailed) :
    ((s.perform mb b).store.perform ma a).result = (s.perform ma a).result ∧
      ((s.perform ma a).store.perform mb b).result = (s.perform mb b).result ∧
      ((s.perform mb b).store.perform ma a).store.state = ((s.perform ma a).store.perform mb b).store.state ∧
      Backend.get ((s.perform mb b).store.perform ma a).store.backend s.config.storageKey =
        Backend.get ((s.perform ma a).store.perform mb b).store.backend s.config.storageKey := by
  obtain ⟨v, hv⟩ := Operation.plan_eq_work ha ma s.state
  obtain ⟨w, hw⟩ := Operation.plan_eq_work hb mb s.state
  obtain ⟨hresult, hstate, hconfig, hkept, hget⟩ := perform_work laws hvalid (hv _ rfl rfl) hfirst
  obtain ⟨hresult', hstate', hconfig', hkept', hget'⟩ := perform_work laws hvalid (hw _ rfl rfl) hfirst'
  -- What the one has done does not show in what the other looks at.
  have hplan : b.plan mb (s.perform ma a).store.state = w.plan j (s.perform ma a).store.state := by
    rw [hstate]
    exact hw _ (v.equipment?_run hne s.state) (v.language_run i s.state)
  have hplan' : a.plan ma (s.perform mb b).store.state = v.plan i (s.perform mb b).store.state := by
    rw [hstate']
    exact hv _ (w.equipment?_run hne.symm s.state) (w.language_run j s.state)
  obtain ⟨hresult₂, hstate₂, -, -, hget₂⟩ := perform_work laws hkept hplan hsecond
  obtain ⟨hresult₂', hstate₂', -, -, hget₂'⟩ := perform_work laws hkept' hplan' hsecond'
  rw [hconfig, hstate, hget] at hget₂
  rw [hconfig', hstate', hget', ← v.run_comm w hne] at hget₂'
  refine ⟨hresult₂'.trans hresult.symm, hresult₂.trans hresult'.symm, ?_, ?_⟩
  · rw [hstate₂, hstate₂', hstate, hstate', v.run_comm w hne]
  · rw [hget₂, hget₂']
    -- Behind a write of either comes a write of both, unless the other is no edit and leaves the state as it is.
    cases hedits : v.edits with
    | false => simp [v.run_of_not_edits hedits]
    | true =>
      cases hedits' : w.edits with
      | false => simp [w.run_of_not_edits hedits']
      | true => cases s.config.autosave <;> rfl

/-- A store with two devices of one port each, of which the second is selected. -/
def twoDevices : Store MemoryStorage where
  config := {}
  backend := {}
  state := {
    equipments := [
      { name := "router", layout := ⟨1, 1, one_pos, one_pos⟩ : Draft }.build "Port" (.numbered 0),
      { name := "switch", layout := ⟨1, 1, one_pos, one_pos⟩ : Draft }.build "Port" (.numbered 1)]
    selected := some ⟨"1"⟩ }

def widen : Operation := .update ⟨"0"⟩ { layout := some ⟨1, 2, one_pos, two_pos⟩ }

/-- Whether the first device moves before or after the second one is deleted, both succeed and the same is left. -/
theorem perform_comm_twoDevices :
    ((twoDevices.perform (.numbered 3) (.delete ⟨"1"⟩)).store.perform (.numbered 2) widen).store.state =
        ((twoDevices.perform (.numbered 2) widen).store.perform (.numbered 3) (.delete ⟨"1"⟩)).store.state ∧
      Backend.get ((twoDevices.perform (.numbered 3) (.delete ⟨"1"⟩)).store.perform (.numbered 2) widen).store.backend
          "port-status-storage" =
        Backend.get ((twoDevices.perform (.numbered 2) widen).store.perform (.numbered 3)
          (.delete ⟨"1"⟩)).store.backend "port-status-storage" ∧
      ((twoDevices.perform (.numbered 2) widen).store.perform (.numbered 3) (.delete ⟨"1"⟩)).result.toOption =
        some .done := by
  have hunfailed : ∀ {o : Outcome MemoryStorage}, o.result = .ok .done → o.Unfailed := by
    intro o hdone e he
    rw [hdone] at he
    cases he
  obtain ⟨-, hresult, hstate, hget⟩ := perform_comm MemoryStorage.reliable (s := twoDevices) trivial (a := widen)
    (b := .delete ⟨"1"⟩) rfl rfl (by decide) (.numbered 2) (.numbered 3) (hunfailed rfl) (hunfailed rfl)
    (hunfailed rfl) (hunfailed rfl)
  exact ⟨hstate, hget, congrArg Except.toOption hresult⟩

end Store

end PortGrid
