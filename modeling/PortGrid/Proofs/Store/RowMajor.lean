import PortGrid.Proofs.Store.History

/-!
# Ports stay in row-major order

The ports of a device stand in its list as the cells stand in its grid, and a row of the grid is a piece of the list.
This does not need identifiers that differ: a new device has its ports in this order, a move sorts them, and nothing
else moves a port. So whatever a run writes to the storage is a state of devices in this order.

Key definitions: `Equipment.RowMajor`, `State.RowMajor`.
Key theorems: `Equipment.RowMajor.apply`, `Changes.rowMajor`, `Store.writes_induction`, `Store.rowMajor_writes`,
`Equipment.RowMajor.filter_row`.
-/

namespace PortGrid

/-! ### Devices -/

namespace Equipment

/-- The positions of the ports are the cells of the layout, row by row. -/
def RowMajor (e : Equipment) : Prop := e.cells = e.layout.positions

instance (e : Equipment) : Decidable e.RowMajor :=
  inferInstanceAs (Decidable (e.cells = e.layout.positions))

namespace RowMajor

variable {e : Equipment}

theorem onePerCell (h : e.RowMajor) : e.OnePerCell := onePerCell_iff.mpr (.of_eq h)

theorem of_eq {e' : Equipment} (h : e.RowMajor) (hlayout : e'.layout = e.layout) (hplaces : e'.places = e.places) :
    e'.RowMajor := by
  rw [RowMajor, cells_eq_places] at *
  rw [hlayout, hplaces]
  exact h

theorem modifyPort (h : e.RowMajor) (id : PortId) (change : PortUpdate) :
    (e.modifyPort id (·.apply change)).RowMajor :=
  h.of_eq rfl (e.places_modifyPort id change)

theorem withNames (h : e.RowMajor) (names : Names) : (e.withNames names).RowMajor :=
  h.of_eq rfl (e.places_withNames names)

theorem touch (h : e.RowMajor) (now : Timestamp) : (e.touch now).RowMajor :=
  h.of_eq rfl rfl

/-- **A change keeps ports in row-major order**, whether it moves the device to another layout or not. -/
theorem apply (h : e.RowMajor) (change : EquipmentUpdate) (label : String) (m : Moment) :
    (e.apply change label m).RowMajor := by
  unfold Equipment.apply
  cases hresized : e.resizedBy change with
  | none => exact h.of_eq rfl rfl
  | some layout => exact cells_reconcile layout label m.portId (nodup_cells_inside layout h.onePerCell.nodup_cells)

end RowMajor

end Equipment

/-! ### Rows -/

/-- A list in which no key comes twice is put together from the elements of each of its keys. -/
theorem flatMap_filter_map {α κ : Type} [DecidableEq κ] (key : α → κ) : ∀ {xs : List α}, (xs.map key).Nodup →
    ((xs.map key).flatMap fun k => xs.filter (key · = k)) = xs
  | [], _ => rfl
  | x :: xs, h => by
    obtain ⟨hx, hxs⟩ := List.nodup_cons.mp h
    have hfirst : xs.filter (key · = key x) = [] := by
      rw [List.filter_eq_nil_iff]
      intro y hy hkey
      exact hx (List.mem_map.mpr ⟨y, hy, of_decide_eq_true hkey⟩)
    have hrest : ∀ k ∈ xs.map key, (x :: xs).filter (key · = k) = xs.filter (key · = k) := by
      intro k hk
      exact List.filter_cons_of_neg (by simpa using fun heq : key x = k => hx (heq ▸ hk))
    rw [List.map_cons, List.flatMap_cons, List.filter_cons_of_pos (by simp), hfirst, List.flatMap_congr hrest,
      flatMap_filter_map key hxs]
    rfl

/-- **A row of ports in row-major order** is the ports on its cells, in column order. -/
theorem Equipment.RowMajor.filter_row {e : Equipment} (h : e.RowMajor) {row : Nat} (hrow : row < e.layout.rows.toNat) :
    e.ports.filter (·.position.row.toNat = row) =
      (List.range e.layout.cols.toNat).flatMap fun col => e.portsAt ⟨.ofNat row, .ofNat col⟩ := by
  have hcells : (e.ports.filter (·.position.row.toNat = row)).map (·.position) =
      (List.range e.layout.cols.toNat).map fun col => ⟨.ofNat row, .ofNat col⟩ := by
    rw [← Layout.filter_row_positions hrow, ← h, cells, List.filter_map]
    rfl
  have hnodup : ((e.ports.filter (·.position.row.toNat = row)).map (·.position)).Nodup :=
    h.onePerCell.nodup_cells.sublist (List.filter_sublist.map _)
  rw [← flatMap_filter_map _ hnodup, hcells, List.flatMap_map]
  apply List.flatMap_congr
  intro col _
  rw [List.filter_filter, portsAt]
  apply List.filter_congr
  intro port _
  by_cases hport : port.position = ⟨.ofNat row, .ofNat col⟩
  · have hin : port.position.row.toNat = row := by
      rw [hport]
      exact UInt32.toNat_ofNat_of_lt (Nat.lt_trans hrow e.layout.rows.toNat_lt)
    rw [hin]
    simp
  · simp [hport]

/-! ### States -/

theorem Draft.rowMajor_build (draft : Draft) (label : String) (m : Moment) : (draft.build label m).RowMajor :=
  position_freshPorts m.portId label 1 draft.layout.positions

/-- All devices have their ports in row-major order. -/
def State.RowMajor (s : State) : Prop := ∀ e ∈ s.equipments, e.RowMajor

/-- **Every change keeps ports in row-major order.** -/
theorem Changes.rowMajor {m : Moment} {s next : State} {op : Operation} {reply : Reply} (hc : Changes m s op next reply)
    (h : s.RowMajor) : next.RowMajor := by
  cases hc with
  | add draft =>
    intro e he
    rcases List.mem_append.mp he with he | he
    · exact h e he
    · exact List.mem_singleton.mp he ▸ draft.rowMajor_build s.portLabel m
  | update _ => exact State.forall_modifyEquipment h fun e _ he => he.apply _ s.portLabel m
  | delete _ => exact fun e he => h e (List.mem_filter.mp he).1
  | deselect => exact h
  | select _ => exact h
  | updatePort _ _ => exact State.forall_modifyEquipment h fun e _ he => (he.modifyPort _ _).touch m.now
  | rename _ _ _ => exact State.forall_modifyEquipment h fun e _ he => (he.withNames _).touch m.now
  | setFilter _ => exact h
  | clearFilter => exact h
  | toggleDark => exact h
  | setLanguage _ => exact h

/-! ### What is written -/

namespace Store

variable {β : Type} [Backend β]

/-- If every change keeps a property of states, what a run writes is states with the property. -/
theorem writes_induction {Q : State → Prop}
    (hchange : ∀ {m s op next reply}, Changes m s op next reply → Q s → Q next) (ops : List (Moment × Operation))
    {s : Store β} (hs : Q s.state) {w : WriteRecord} (hw : w ∈ s.writes ops) :
    ∃ state, Q state ∧ w.text = state.snapshot := by
  have hrun := run_induction
    (P := fun t : Store (Recorded β) => Q t.state ∧ ∀ w ∈ t.backend.writes, ∃ state, Q state ∧ w.text = state.snapshot)
    (fun t m op ⟨hstate, hwrites⟩ => ?_) ops s.recorded ⟨hs, fun w hw => absurd hw List.not_mem_nil⟩
  · exact hrun.2 w hw
  -- A step of the recorded store writes the state that it is going to have.
  have hnext : ∀ {next reply events}, t.Writing m op next reply events → Q next := by
    rintro next reply events (⟨hplan, -⟩ | ⟨-, rfl, -, -⟩)
    · exact hchange (.of_plan hplan) hstate
    · exact hstate
  have hlast : ∀ {next result b}, Q next → Backend.set t.backend t.config.storageKey next.snapshot = (result, b) →
      ∀ w ∈ b.writes, ∃ state, Q state ∧ w.text = state.snapshot := by
    intro next result b hQ hset w hw
    rw [Recorded.writes_set hset] at hw
    rcases List.mem_append.mp hw with hw | hw
    · exact hwrites w hw
    · exact ⟨next, hQ, by rw [List.mem_singleton.mp hw]⟩
  have hstep := step_perform t m op
  generalize t.perform m op = o at hstep ⊢
  cases hstep with
  | refused _ => exact ⟨hstate, hwrites⟩
  | kept _ => exact ⟨hstate, hwrites⟩
  | unsaved hplan _ => exact ⟨hchange (.of_plan hplan) hstate, hwrites⟩
  | saved hwriting hset => exact ⟨hnext hwriting, hlast (hnext hwriting) hset⟩
  | failed hwriting hset => exact ⟨hstate, hlast (hnext hwriting) hset⟩

/-- What a store that starts on an empty storage writes is states with all ports in row-major order. -/
theorem rowMajor_writes {config : StoreConfig} {b : β} (hempty : Backend.get b config.storageKey = .ok none)
    {s : Store β} {events : List Event} (hopen : openWith config b = .ok (s, events)) {ops : List (Moment × Operation)}
    {w : WriteRecord} (hw : w ∈ s.writes ops) : ∃ state : State, state.RowMajor ∧ w.text = state.snapshot := by
  apply writes_induction Changes.rowMajor ops _ hw
  rw [state_of_empty hempty hopen]
  exact fun e he => absurd he List.not_mem_nil

end Store

end PortGrid
