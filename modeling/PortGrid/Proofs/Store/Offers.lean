import PortGrid.Filter
import PortGrid.Proofs.Store.Effects
import PortGrid.Proofs.Store.Tidiness
import PortGrid.Proofs.Text.ByteOrder

/-!
# The values offered for a filter

A location or a type can be chosen from those of the equipment that is shown. As a filter asks for each of the two by
itself, choosing one narrows the list that is shown to the equipment that has it. For this the value must not be empty,
which would clear the choice, and it must not put out another one. It does neither: no location and no type of a tidy
state is empty, and where one is asked for already, it is the only one offered.

Key definitions: `Facet`, `Facet.offered`.
Key theorems: `distinctValues_ascending`, `FilterOptions.accepts_iff`, `FilterOptions.select_choosing`,
`Store.offers_run`.
-/

namespace PortGrid

/-! ### Distinct values -/

theorem mem_insertDistinct {value v : String} :
    ∀ {values : List String}, v ∈ insertDistinct value values ↔ v = value ∨ v ∈ values
  | [] => by simp [insertDistinct]
  | w :: values => by
    unfold insertDistinct
    split
    · exact List.mem_cons
    · split
      · rename_i hsame
        rw [hsame, List.mem_cons, or_self_left]
      · rw [List.mem_cons, mem_insertDistinct, List.mem_cons, or_left_comm]

theorem insertDistinct_ascending {value : String} :
    ∀ {values : List String}, values.Pairwise (· < ·) → (insertDistinct value values).Pairwise (· < ·)
  | [], _ => List.pairwise_singleton _ _
  | w :: values, h => by
    obtain ⟨hw, hvalues⟩ := List.pairwise_cons.mp h
    unfold insertDistinct
    split
    · rename_i hless
      refine List.pairwise_cons.mpr ⟨fun v hv => ?_, h⟩
      rcases List.mem_cons.mp hv with rfl | hv
      · exact hless
      · exact String.lt_trans hless (hw v hv)
    · rename_i hnotLess
      split
      · exact h
      · rename_i hne
        have hgreater : w < value := Std.lt_of_le_of_ne (String.not_lt.mp hnotLess) (Ne.symm hne)
        refine List.pairwise_cons.mpr ⟨fun v hv => ?_, insertDistinct_ascending hvalues⟩
        rcases mem_insertDistinct.mp hv with rfl | hv
        · exact hgreater
        · exact hw v hv

theorem mem_distinctValues {v : String} : ∀ {values : List String}, v ∈ distinctValues values ↔ v ∈ values
  | [] => Iff.rfl
  | w :: values => by
    rw [distinctValues, List.foldr_cons, mem_insertDistinct, List.mem_cons]
    exact or_congr_right mem_distinctValues

theorem distinctValues_ascending : ∀ values : List String, (distinctValues values).Pairwise (· < ·)
  | [] => List.Pairwise.nil
  | _ :: values => insertDistinct_ascending (distinctValues_ascending values)

/-! ### What can be chosen -/

/-- What a filter can ask for besides a text. -/
inductive Facet where
  | location
  | kind
deriving DecidableEq

namespace Facet

def of : Facet → Equipment → Option String
  | location, e => e.location
  | kind, e => e.kind

def asked : Facet → FilterOptions → Option String
  | location, f => f.location
  | kind, f => f.kind

/-- The change of the filter that asks for a location or for a type. -/
def choosing : Facet → String → FilterUpdate
  | location, value => { location := some (some value) }
  | kind, value => { kind := some (some value) }

/-- The locations or the types that a store offers in a state. -/
def offered : Facet → State → List String
  | location, s => s.locations
  | kind, s => s.kinds

theorem offered_eq (facet : Facet) (s : State) :
    facet.offered s = distinctValues (s.filtered.filterMap facet.of) := by
  cases facet <;> rfl

theorem mem_offered_iff {facet : Facet} {s : State} {value : String} :
    value ∈ facet.offered s ↔ ∃ e ∈ s.filtered, facet.of e = some value := by
  rw [offered_eq, mem_distinctValues, List.mem_filterMap]

theorem offered_ascending (facet : Facet) (s : State) :
    (facet.offered s).Pairwise fun v w => Text.bytes v < Text.bytes w := by
  rw [offered_eq]
  exact (distinctValues_ascending _).imp Text.bytes_lt

/-- A chosen value is asked for, and what is asked for otherwise stays. -/
theorem asked_merge_choosing (facet : Facet) {value : String} (hne : value ≠ "") (f : FilterOptions) (other : Facet) :
    other.asked (f.merge (facet.choosing value)) = if other = facet then some value else other.asked f := by
  have hkept : (some value).filter (!·.isEmpty) = some value := by simpa using hne
  cases facet <;> cases other <;> simp [asked, choosing, FilterOptions.merge, hkept]

theorem search_merge_choosing (facet : Facet) (value : String) (f : FilterOptions) :
    (f.merge (facet.choosing value)).search = f.search := by
  cases facet <;> rfl

end Facet

/-! ### Choosing a value -/

namespace FilterOptions

variable {f : FilterOptions}

/-- A filter lets through what its search does and what has the location and the type that it asks for, if any. -/
theorem accepts_iff {e : Equipment} : f.accepts e = true ↔
    f.searchAccepts e = true ∧ ∀ facet : Facet, ∀ value ∈ facet.asked f, facet.of e = some value := by
  have hasked : ∀ asked given : Option String,
      (asked.isNone || asked == given) = true ↔ ∀ value ∈ asked, given = some value := by
    intro asked given
    cases asked with
    | none => simp
    | some value => simp [eq_comm (a := given)]
  have hfacets : (∀ facet : Facet, ∀ value ∈ facet.asked f, facet.of e = some value) ↔
      (∀ value ∈ f.location, e.location = some value) ∧ ∀ value ∈ f.kind, e.kind = some value := by
    constructor
    · exact fun h => ⟨h .location, h .kind⟩
    · rintro ⟨hlocation, hkind⟩ (_ | _)
      · exact hlocation
      · exact hkind
  rw [accepts, Bool.and_eq_true, Bool.and_eq_true, hasked, hasked, hfacets, and_assoc]

/-- After a choice a filter lets through what it did before, of which it has the chosen value. The choice must not be in
place of another value. -/
theorem accepts_choosing {facet : Facet} {value : String} (hne : value ≠ "") (hasked : ∀ v ∈ facet.asked f, v = value)
    {e : Equipment} :
    (f.merge (facet.choosing value)).accepts e = true ↔ f.accepts e = true ∧ facet.of e = some value := by
  have hsearch : (f.merge (facet.choosing value)).searchAccepts e = f.searchAccepts e := by
    rw [searchAccepts, searchAccepts, facet.search_merge_choosing]
  simp only [accepts_iff, hsearch, facet.asked_merge_choosing hne]
  constructor
  · rintro ⟨hfound, hnew⟩
    have hchosen : facet.of e = some value := hnew facet value (if_pos rfl)
    refine ⟨⟨hfound, fun other v hv => ?_⟩, hchosen⟩
    by_cases hother : other = facet
    · subst hother
      rw [hasked v hv]
      exact hchosen
    · exact hnew other v (by rwa [if_neg hother])
  · rintro ⟨⟨hfound, hold⟩, hchosen⟩
    refine ⟨hfound, fun other v hv => ?_⟩
    split at hv
    · rename_i hother
      cases hv
      rw [hother]
      exact hchosen
    · exact hold other v hv

/-- **A choice narrows the list down to the equipment that has the chosen value**, in the same order. -/
theorem select_choosing {facet : Facet} {value : String} (hne : value ≠ "") (hasked : ∀ v ∈ facet.asked f, v = value)
    (es : List Equipment) : (f.merge (facet.choosing value)).select es =
      (f.select es).filter fun e => facet.of e = some value := by
  rw [select, select, List.filter_filter]
  apply List.filter_congr
  intro e _
  rw [Bool.eq_iff_iff, accepts_choosing hne hasked, Bool.and_eq_true, decide_eq_true_iff, and_comm]

end FilterOptions

namespace State

variable {s : State} {facet : Facet} {value : String}

/-- In a tidy state no empty value is offered. -/
theorem Tidy.ne_empty_of_offered (h : s.Tidy) (hvalue : value ∈ facet.offered s) : value ≠ "" := by
  obtain ⟨e, he, hof⟩ := Facet.mem_offered_iff.mp hvalue
  have htidy : e.Tidy := h.equipments e (List.mem_filter.mp he).1
  cases facet with
  | location => exact (htidy.location value hof).ne_empty
  | kind => exact (htidy.kind value hof).ne_empty

theorem eq_of_asked_of_offered (hvalue : value ∈ facet.offered s) {v : String} (hv : v ∈ facet.asked s.filter) :
    v = value := by
  obtain ⟨e, he, hof⟩ := Facet.mem_offered_iff.mp hvalue
  have hasked : facet.of e = some v := (FilterOptions.accepts_iff.mp (List.mem_filter.mp he).2).2 facet v hv
  rw [hof] at hasked
  exact (Option.some.inj hasked).symm

/-- In a tidy state the choice of an offered value narrows down what is shown, but not to nothing. -/
theorem Tidy.filtered_choosing (h : s.Tidy) (hvalue : value ∈ facet.offered s) :
    (s.filter.merge (facet.choosing value)).select s.equipments =
        s.filtered.filter (fun e => facet.of e = some value) ∧
      (s.filter.merge (facet.choosing value)).select s.equipments ≠ [] := by
  have hselect := FilterOptions.select_choosing (h.ne_empty_of_offered hvalue)
    (fun _ hv => eq_of_asked_of_offered hvalue hv) s.equipments
  refine ⟨hselect, ?_⟩
  obtain ⟨e, he, hof⟩ := Facet.mem_offered_iff.mp hvalue
  rw [hselect]
  exact List.ne_nil_of_mem (List.mem_filter.mpr ⟨he, decide_eq_true hof⟩)

end State

/-! ### Runs -/

namespace Store

variable {β : Type} [Backend β]

theorem state_setFilter {s : Store β} {m : Moment} {change : FilterUpdate} {reply : Reply}
    (h : (s.perform m (.setFilter change)).result = .ok reply) :
    (s.perform m (.setFilter change)).store.state = { s.state with filter := s.state.filter.merge change } := by
  have hunfailed : (s.perform m (.setFilter change)).Unfailed := by
    intro fault hfault
    rw [h] at hfault
    cases hfault
  exact (perform_of_unfailed hunfailed).2

/-- **What is offered is what there is to choose.** If a store starts on an empty storage, then after any operations and
under any filter the locations offered ascend in the order of bytes and are those of the equipment that is shown, and
so are the types. To choose one of them, if that succeeds, narrows the list that is shown down to the equipment that has
it, in the same order, and never leaves nothing. -/
theorem offers_run {config : StoreConfig} {b : β} (hempty : Backend.get b config.storageKey = .ok none) {s : Store β}
    {events : List Event} (hopen : openWith config b = .ok (s, events)) (ops : List (Moment × Operation))
    (facet : Facet) :
    (facet.offered (s.run ops).state).Pairwise (fun v w => Text.bytes v < Text.bytes w) ∧
      (∀ value, value ∈ facet.offered (s.run ops).state ↔
        ∃ e ∈ (s.run ops).state.filtered, facet.of e = some value) ∧
      ∀ value ∈ facet.offered (s.run ops).state, ∀ m reply,
        ((s.run ops).perform m (.setFilter (facet.choosing value))).result = .ok reply →
        ((s.run ops).perform m (.setFilter (facet.choosing value))).store.state.filtered =
            (s.run ops).state.filtered.filter (fun e => facet.of e = some value) ∧
          ((s.run ops).perform m (.setFilter (facet.choosing value))).store.state.filtered ≠ [] := by
  have htidy : (s.run ops).state.Tidy := by
    apply state_tidy_run
    rw [state_of_empty hempty hopen]
    exact State.tidy_ofLanguage _
  refine ⟨facet.offered_ascending _, fun value => Facet.mem_offered_iff, fun value hvalue m reply hresult => ?_⟩
  rw [state_setFilter hresult]
  exact htidy.filtered_choosing hvalue

/-- Four devices of two types, two of them in one room, and a search that leaves out one of them. -/
def roomsAndTypes : List (Moment × Operation) :=
  let grid : Layout := ⟨1, 1, one_pos, one_pos⟩
  [(.numbered 0, .add { name := "a-1", layout := grid, location := some "서울", kind := some "switch" }),
    (.numbered 2, .add { name := "a-2", layout := grid, location := some "Lab", kind := some "panel" }),
    (.numbered 4, .add { name := "a-3", layout := grid, location := some "서울", kind := some " " }),
    (.numbered 6, .add { name := "b", layout := grid, location := some "Hall", kind := some "panel" }),
    (.numbered 8, .setFilter { search := some "A-" })]

/-- Two rooms are offered, and one of them is chosen. -/
theorem offers_run_roomsAndTypes :
    Facet.location.offered ((fresh ({} : MemoryStorage)).run roomsAndTypes).state = ["Lab", "서울"] ∧
      (((fresh ({} : MemoryStorage)).run roomsAndTypes).perform (.numbered 9)
          (.setFilter (Facet.location.choosing "서울"))).store.state.filtered =
        ((fresh ({} : MemoryStorage)).run roomsAndTypes).state.filtered.filter (fun e => e.location = some "서울") := by
  have hopen : openWith {} ({} : MemoryStorage) = .ok (fresh {}, [.startedEmpty "port-status-storage"]) := rfl
  obtain ⟨-, -, hchoose⟩ := offers_run rfl hopen roomsAndTypes .location
  have hoffered : Facet.location.offered ((fresh ({} : MemoryStorage)).run roomsAndTypes).state =
      ["Lab", "서울"] := by
    decide +kernel
  have hok : (((fresh ({} : MemoryStorage)).run roomsAndTypes).perform (.numbered 9)
      (.setFilter (Facet.location.choosing "서울"))).result = .ok .done := rfl
  exact ⟨hoffered, (hchoose "서울" (hoffered ▸ by decide) (.numbered 9) .done hok).1⟩

end Store
end PortGrid
