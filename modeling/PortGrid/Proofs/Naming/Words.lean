import PortGrid.Proofs.Naming.Increment

/-!
# Counting in words

Rows and columns are counted in numbers without a limit. Counted in words of 64 bits, with every sum and every product
refused that takes more of them, they are the same, and none is refused. A range goes on only from a row that does not
lie behind its last one, and in a row only as far as its last column or that of its start; so the numbers of its two
coordinates and the next ones are all that it needs, however many ports there are. An increment begins at most one row
with every port, and it goes no further in a row than the ceiling or the column of its start. The rows and columns of
positions and layouts have 32 bits themselves.

Key definitions: `walkPlaces`, `rangePlaces`, `incrementPlaces`, `Word.add?`, `Word.mul?`, `WordCursor`, `wordWalk?`,
`NamePattern.assignInWords?`, `Layout.portCountInWords?`.
Key theorems: `walk_eq_namesAt`, `Cursor.WithinRange.step`, `Cursor.WithinIncrement.step`, `bounded_of_mem_rangePlaces`,
`bounded_of_mem_incrementPlaces`, `wordWalk?_eq_some`, `counts_fitWords`.
-/

namespace PortGrid

/-! ### The places of a walk -/

/-- The places that the cursor of a walk takes: one for each port that is named, and the one at which the walk stops. -/
def walkPlaces (next : Cursor → Cursor) (ended : Cursor → Bool) : Cursor → List Port → List Cursor
  | c, [] => [c]
  | c, _ :: ports => if ended c then [c] else c :: walkPlaces next ended (next c) ports

/-- The names of places, given to the ports in turn. At the last place the walk has stopped. -/
def namesAt (stem : String) (ports : List Port) (places : List Cursor) : List (PortId × String) :=
  List.zipWith (fun port c => (port.id, c.name stem)) ports places.dropLast

/-- The places that the cursor takes while a range names the ports. -/
def rangePlaces (start stop : Coordinate) (ports : List Port) : List Cursor :=
  walkPlaces (·.nextInRange (.ofCoordinate start) (.ofCoordinate stop)) (·.isPast (.ofCoordinate stop))
    (.ofCoordinate start) (Equipment.sortPorts ports)

def incrementPlaces (start : Coordinate) (ports : List Port) : List Cursor :=
  walkPlaces Cursor.nextInIncrement (fun _ => false) (.ofCoordinate start) (Equipment.sortPorts ports)

section Walk

variable {next : Cursor → Cursor} {ended : Cursor → Bool}

theorem walkPlaces_ne_nil (c : Cursor) (ports : List Port) : walkPlaces next ended c ports ≠ [] := by
  cases ports with
  | nil => simp [walkPlaces]
  | cons port ports =>
    rw [walkPlaces]
    split <;> simp

theorem walk_eq_namesAt (stem : String) : ∀ (c : Cursor) (ports : List Port),
    walk next ended stem c ports = namesAt stem ports (walkPlaces next ended c ports)
  | c, [] => by simp [walk, namesAt]
  | c, port :: ports => by
    rw [walk, walkPlaces]
    split
    · rfl
    · have ih := walk_eq_namesAt stem (next c) ports
      rw [ih, namesAt, namesAt, List.dropLast_cons_of_ne_nil (walkPlaces_ne_nil _ _), List.zipWith_cons_cons]

/-- What holds where a walk begins, and is kept by each step that is taken before it ends, holds of all its places. -/
theorem walkPlaces_induction (Within : ℕ → Cursor → Prop)
    (hstep : ∀ k c, ended c = false → Within k c → Within (k + 1) (next c)) {ports : List Port} (k : ℕ) {c : Cursor}
    (hc : Within k c) : ∀ d ∈ walkPlaces next ended c ports, ∃ j ≤ ports.length, Within (k + j) d := by
  intro d hd
  induction ports generalizing k c with
  | nil =>
    obtain rfl : d = c := List.mem_singleton.mp hd
    exact ⟨0, Nat.le_refl 0, hc⟩
  | cons port ports ih =>
    have hfirst : ∃ j ≤ (port :: ports).length, Within (k + j) c := ⟨0, Nat.zero_le _, hc⟩
    rw [walkPlaces] at hd
    by_cases hended : ended c = true
    · rw [if_pos hended, List.mem_singleton] at hd
      exact hd ▸ hfirst
    · rw [if_neg hended] at hd
      rcases List.mem_cons.mp hd with rfl | hd
      · exact hfirst
      · obtain ⟨j, hj, hwithin⟩ := ih (k + 1) (hstep k c (Bool.eq_false_iff.mpr hended) hc) hd
        rw [Nat.add_assoc, Nat.add_comm 1 j] at hwithin
        exact ⟨j + 1, Nat.succ_le_succ hj, hwithin⟩

end Walk

/-! ### How far a walk goes -/

namespace Cursor

/-- In a row up to the one behind the last, or in that of the start, and in a column up to the last one or that of the
start. -/
def WithinRange (start stop c : Cursor) : Prop :=
  c.row ≤ max start.row (stop.row + 1) ∧ c.col ≤ max start.col stop.col

theorem withinRange_start (start stop : Cursor) : start.WithinRange stop start :=
  ⟨Nat.le_max_left _ _, Nat.le_max_left _ _⟩

/-- **One step of a range.** Only a row that does not lie behind the last one is left for the next. -/
theorem WithinRange.step {start stop c : Cursor} (h : start.WithinRange stop c) (hlive : c.isPast stop = false) :
    start.WithinRange stop (c.nextInRange start stop) := by
  have hrow : c.row ≤ stop.row := by
    simp only [isPast, Bool.or_eq_false_iff, decide_eq_false_iff_not] at hlive
    omega
  unfold nextInRange
  split
  · have hnext : c.row + 1 ≤ max start.row (stop.row + 1) := by omega
    exact ⟨hnext, Nat.le_max_left _ _⟩
  · have hnext : c.col + 1 ≤ max start.col stop.col := by omega
    exact ⟨h.1, hnext⟩

end Cursor

/-- **Any number of steps of a range.** No row lies behind 2³², and no column so that the next one would. -/
theorem bounded_of_mem_rangePlaces {start stop : Coordinate} {ports : List Port} {c : Cursor}
    (h : c ∈ rangePlaces start stop ports) : c.row ≤ 2 ^ 32 ∧ c.col + 1 ≤ 2 ^ 32 := by
  obtain ⟨-, -, hrow, hcol⟩ := walkPlaces_induction (fun _ => Cursor.WithinRange _ _)
    (fun _ _ hlive hwithin => hwithin.step hlive) 0 (Cursor.withinRange_start _ _) c h
  have hstartRow := start.row.toNat_lt
  have hstartCol := start.col.toNat_lt
  have hstopRow := stop.row.toNat_lt
  have hstopCol := stop.col.toNat_lt
  simp only [Cursor.ofCoordinate] at hrow hcol
  omega

/-- **Any number of steps of an increment.** There are no more rows behind that of the start than ports. -/
theorem bounded_of_mem_incrementPlaces {start : Coordinate} {ports : List Port} {c : Cursor}
    (h : c ∈ incrementPlaces start ports) :
    c.row ≤ start.row.toNat + ports.length ∧ c.col + 1 ≤ max start.col.toNat 999 + 1 := by
  obtain ⟨j, hj, hrow, hcol⟩ := walkPlaces_induction (Cursor.WithinIncrement _)
    (fun _ _ _ hwithin => hwithin.step) 0 (Cursor.withinIncrement_start _) c h
  have hlength := (Equipment.sortPorts_perm ports).length_eq
  simp only [Cursor.ofCoordinate] at hrow hcol
  omega

/-! ### Words -/

namespace Word

/-- The sum of two words, unless it takes more than 64 bits. -/
def add? (a b : UInt64) : Option UInt64 :=
  if a.toNat + b.toNat < 2 ^ 64 then some (a + b) else none

/-- The product of two words, unless it takes more than 64 bits. -/
def mul? (a b : UInt64) : Option UInt64 :=
  if a.toNat * b.toNat < 2 ^ 64 then some (a * b) else none

variable {a b : UInt64}

theorem add?_eq_some (h : a.toNat + b.toNat < 2 ^ 64) : ∃ c, add? a b = some c ∧ c.toNat = a.toNat + b.toNat :=
  ⟨a + b, if_pos h, by rw [UInt64.toNat_add, Nat.mod_eq_of_lt h]⟩

theorem mul?_eq_some (h : a.toNat * b.toNat < 2 ^ 64) : ∃ c, mul? a b = some c ∧ c.toNat = a.toNat * b.toNat :=
  ⟨a * b, if_pos h, by rw [UInt64.toNat_mul, Nat.mod_eq_of_lt h]⟩

end Word

/-- Whether a row can be added and a column. -/
def Cursor.FitsWords (c : Cursor) : Prop := c.row + 1 < 2 ^ 64 ∧ c.col + 1 < 2 ^ 64

/-- A place whose row and column are words. -/
structure WordCursor where
  row : UInt64
  col : UInt64

namespace WordCursor

def ofCoordinate (c : Coordinate) : WordCursor := ⟨c.row.toUInt64, c.col.toUInt64⟩

/-- The place with the numbers that the words stand for. -/
def cursor (w : WordCursor) : Cursor := ⟨w.row.toNat, w.col.toNat⟩

/-- Whether the place lies behind the other, row by row. -/
def isPast (w stop : WordCursor) : Bool :=
  w.row > stop.row || (w.row == stop.row && w.col > stop.col)

/-- The next place, if it can be reached: behind the last column a row starts anew at the first. -/
def next? (first last : UInt64) (w : WordCursor) : Option WordCursor := do
  let col ← Word.add? w.col 1
  if col > last then
    let row ← Word.add? w.row 1
    return ⟨row, first⟩
  else return ⟨w.row, col⟩

theorem cursor_ofCoordinate (c : Coordinate) : (ofCoordinate c).cursor = Cursor.ofCoordinate c := by
  simp [cursor, ofCoordinate, Cursor.ofCoordinate]

theorem isPast_eq (w stop : WordCursor) : w.isPast stop = w.cursor.isPast stop.cursor := by
  have hrow : (w.row == stop.row) = (w.row.toNat == stop.row.toNat) := by
    rw [Bool.eq_iff_iff, beq_iff_eq, beq_iff_eq, UInt64.toNat_inj]
  simp only [isPast, Cursor.isPast, cursor, gt_iff_lt, UInt64.lt_iff_toNat_lt, hrow]

theorem next?_eq_some {w : WordCursor} (hw : w.cursor.FitsWords) (start stop : WordCursor) :
    ∃ w', w.next? start.col stop.col = some w' ∧ w'.cursor = w.cursor.nextInRange start.cursor stop.cursor := by
  obtain ⟨row, hrow, hrow'⟩ := Word.add?_eq_some (a := w.row) (b := 1) hw.1
  obtain ⟨col, hcol, hcol'⟩ := Word.add?_eq_some (a := w.col) (b := 1) hw.2
  have hends : col > stop.col ↔ w.cursor.col + 1 > stop.cursor.col := by
    rw [gt_iff_lt, UInt64.lt_iff_toNat_lt, hcol']
    rfl
  unfold next? Cursor.nextInRange
  rw [hcol]
  by_cases h : col > stop.col
  · refine ⟨⟨row, start.col⟩, by simp [h, hrow], ?_⟩
    rw [if_pos (hends.mp h), cursor, hrow']
    rfl
  · refine ⟨⟨w.row, col⟩, by simp [h], ?_⟩
    rw [if_neg (mt hends.mpr h), cursor, hcol']
    rfl

end WordCursor

/-- Names the ports in turn, from place to place, until the walk has ended, if every place can be reached. -/
def wordWalk? (next? : WordCursor → Option WordCursor) (ended : WordCursor → Bool) (stem : String) :
    WordCursor → List Port → Option (List (PortId × String))
  | _, [] => some []
  | w, port :: ports =>
    if ended w then some []
    else do
      let w' ← next? w
      let names ← wordWalk? next? ended stem w' ports
      return (port.id, w.cursor.name stem) :: names

/-- **A walk in words is a walk.** If a row and a column can be added at all its places, it gives the same names. -/
theorem wordWalk?_eq_some {next : Cursor → Cursor} {ended : Cursor → Bool} {next? : WordCursor → Option WordCursor}
    (hnext : ∀ w : WordCursor, w.cursor.FitsWords → ∃ w', next? w = some w' ∧ w'.cursor = next w.cursor)
    (stem : String) : ∀ {w : WordCursor} {ports : List Port},
      (∀ c ∈ walkPlaces next ended w.cursor ports, c.FitsWords) →
        wordWalk? next? (fun w => ended w.cursor) stem w ports = some (walk next ended stem w.cursor ports)
  | _, [], _ => rfl
  | w, port :: ports, hfits => by
    rw [walkPlaces] at hfits
    rw [wordWalk?, walk]
    by_cases hended : ended w.cursor = true
    · rw [if_pos hended, if_pos hended]
    · rw [if_neg hended] at hfits ⊢
      rw [if_neg hended]
      obtain ⟨w', hw', hcursor⟩ := hnext w (hfits _ List.mem_cons_self)
      have hrest : ∀ c ∈ walkPlaces next ended w'.cursor ports, c.FitsWords := fun c hc =>
        hfits c (List.mem_cons_of_mem _ (hcursor ▸ hc))
      rw [hw', Option.bind_eq_bind, Option.bind_some, wordWalk?_eq_some hnext stem hrest, hcursor]
      rfl

/-- The template with the row and the column of a position, counted from one, in place of its markers, if one can be
added to both. -/
def renderInWords? (template : String) (p : Position) : Option String := do
  let row ← Word.add? p.row.toUInt64 1
  let col ← Word.add? p.col.toUInt64 1
  return String.ofList (Text.replaceAll colMarker (Nat.toDigits 10 col.toNat)
    (Text.replaceAll rowMarker (Nat.toDigits 10 row.toNat) template.toList))

theorem toNat_add_one_le (n : UInt32) : n.toNat + 1 ≤ 2 ^ 32 := n.toNat_lt

theorem renderInWords?_eq_some (template : String) (p : Position) :
    renderInWords? template p = some (renderTemplate template p) := by
  have hfits : ∀ n : UInt32, n.toUInt64.toNat + (1 : UInt64).toNat < 2 ^ 64 := by
    intro n
    have h := toNat_add_one_le n
    rw [UInt32.toNat_toUInt64, UInt64.toNat_one]
    omega
  obtain ⟨row, hrow, hrow'⟩ := Word.add?_eq_some (hfits p.row)
  obtain ⟨col, hcol, hcol'⟩ := Word.add?_eq_some (hfits p.col)
  rw [UInt32.toNat_toUInt64, UInt64.toNat_one] at hrow' hcol'
  simp [renderInWords?, renderTemplate, hrow, hcol, hrow', hcol']

/-! ### Names and layouts -/

namespace NamePattern

/-- The names that the pattern gives to the ports, if no number on the way takes more than 64 bits. -/
def assignInWords? (pattern : NamePattern) (ports : List Port) : Option Names :=
  match pattern with
  | .template text => (ports.mapM fun port => (renderInWords? text port.position).map (port.id, ·)).map .mk
  | .range stem start stop =>
    let start := WordCursor.ofCoordinate start
    let stop := WordCursor.ofCoordinate stop
    (wordWalk? (·.next? start.col stop.col) (·.isPast stop) stem start (Equipment.sortPorts ports)).map .mk
  | .increment stem start =>
    (wordWalk? (·.next? 1 999) (fun _ => false) stem (.ofCoordinate start) (Equipment.sortPorts ports)).map .mk

theorem assignInWords?_template (text : String) (ports : List Port) :
    (template text).assignInWords? ports = some ((template text).assign ports) := by
  have hrender : (fun port : Port => (renderInWords? text port.position).map (port.id, ·)) =
      fun port => pure (port.id, renderTemplate text port.position) := by
    funext port
    rw [renderInWords?_eq_some]
    rfl
  rw [assignInWords?, hrender, List.mapM_pure]
  rfl

theorem assignInWords?_range (stem : String) (start stop : Coordinate) (ports : List Port) :
    (range stem start stop).assignInWords? ports = some ((range stem start stop).assign ports) := by
  have hfits : ∀ c ∈ rangePlaces start stop ports, c.FitsWords := by
    intro c hc
    obtain ⟨hrow, hcol⟩ := bounded_of_mem_rangePlaces hc
    exact ⟨by omega, by omega⟩
  have hnext : ∀ w : WordCursor, w.cursor.FitsWords →
      ∃ w', w.next? (WordCursor.ofCoordinate start).col (WordCursor.ofCoordinate stop).col = some w' ∧
        w'.cursor = w.cursor.nextInRange (.ofCoordinate start) (.ofCoordinate stop) := by
    intro w hw
    rw [← WordCursor.cursor_ofCoordinate, ← WordCursor.cursor_ofCoordinate]
    exact WordCursor.next?_eq_some hw _ _
  have hended : ∀ w : WordCursor, w.isPast (.ofCoordinate stop) = w.cursor.isPast (.ofCoordinate stop) := by
    intro w
    rw [WordCursor.isPast_eq, WordCursor.cursor_ofCoordinate]
  rw [rangePlaces, ← WordCursor.cursor_ofCoordinate start] at hfits
  have hwalk := wordWalk?_eq_some hnext stem hfits
  simp only [assignInWords?, assign, rangeNames_eq_walk, hended, hwalk]
  rw [WordCursor.cursor_ofCoordinate]
  rfl

theorem assignInWords?_increment (stem : String) (start : Coordinate) {ports : List Port}
    (hports : ports.length < 2 ^ 63) :
    (increment stem start).assignInWords? ports = some ((increment stem start).assign ports) := by
  have hfits : ∀ c ∈ incrementPlaces start ports, c.FitsWords := by
    intro c hc
    have hstartRow := start.row.toNat_lt
    have hstartCol := start.col.toNat_lt
    obtain ⟨hrow, hcol⟩ := bounded_of_mem_incrementPlaces hc
    exact ⟨by omega, by omega⟩
  rw [incrementPlaces, ← WordCursor.cursor_ofCoordinate start] at hfits
  -- The first column and the ceiling are those of a range.
  have hwalk := wordWalk?_eq_some (fun w hw => WordCursor.next?_eq_some hw ⟨0, 1⟩ ⟨0, 999⟩) stem hfits
  simp only [assignInWords?, assign, incrementNames_eq_walk, hwalk]
  rw [WordCursor.cursor_ofCoordinate]
  rfl

end NamePattern

/-- How many cells the layout has, unless this takes more than 64 bits. -/
def Layout.portCountInWords? (layout : Layout) : Option UInt64 :=
  Word.mul? layout.rows.toUInt64 layout.cols.toUInt64

theorem Layout.portCount_lt (layout : Layout) : layout.portCount < 2 ^ 64 :=
  calc layout.rows.toNat * layout.cols.toNat
      < 2 ^ 32 * 2 ^ 32 := Nat.mul_lt_mul'' layout.rows.toNat_lt layout.cols.toNat_lt
    _ = 2 ^ 64 := rfl

theorem Layout.portCountInWords?_eq_some (layout : Layout) :
    ∃ n, layout.portCountInWords? = some n ∧ n.toNat = layout.portCount := by
  have hcount := layout.portCount_lt
  unfold portCount at hcount ⊢
  rw [← UInt32.toNat_toUInt64, ← UInt32.toNat_toUInt64] at hcount ⊢
  exact Word.mul?_eq_some hcount

/-- **Counting stays within words.** A range gives the names of its places, and in each of them the row is at most 2³²,
and so is the column that follows, however many ports there are. An increment gives the names of its places too; in each
of them the row lies at most as many rows behind that of the start as there are ports, and the column that follows is at
most one behind the ceiling or behind the column of the start. The row and the column of a position, counted from one,
are at most 2³², and a layout has fewer than 2⁶⁴ cells. So nothing is refused in words of 64 bits: the cells of a layout
and, for fewer than 2⁶³ ports, the names of a pattern come out as they do in numbers without a limit. -/
theorem counts_fitWords :
    (∀ stem start stop ports,
      (NamePattern.range stem start stop).assign ports =
          ⟨namesAt stem (Equipment.sortPorts ports) (rangePlaces start stop ports)⟩ ∧
        ∀ c ∈ rangePlaces start stop ports, c.row ≤ 2 ^ 32 ∧ c.col + 1 ≤ 2 ^ 32) ∧
      (∀ stem start ports,
        (NamePattern.increment stem start).assign ports =
            ⟨namesAt stem (Equipment.sortPorts ports) (incrementPlaces start ports)⟩ ∧
          ∀ c ∈ incrementPlaces start ports,
            c.row ≤ start.row.toNat + ports.length ∧ c.col + 1 ≤ max start.col.toNat 999 + 1) ∧
      (∀ p : Position, p.row.toNat + 1 ≤ 2 ^ 32 ∧ p.col.toNat + 1 ≤ 2 ^ 32) ∧
      (∀ layout : Layout, layout.portCount < 2 ^ 64 ∧
        ∃ n, layout.portCountInWords? = some n ∧ n.toNat = layout.portCount) ∧
      ∀ (pattern : NamePattern) (ports : List Port), ports.length < 2 ^ 63 →
        pattern.assignInWords? ports = some (pattern.assign ports) := by
  refine ⟨fun stem start stop ports => ⟨?_, fun c => bounded_of_mem_rangePlaces⟩,
    fun stem start ports => ⟨?_, fun c => bounded_of_mem_incrementPlaces⟩,
    fun p => ⟨toNat_add_one_le p.row, toNat_add_one_le p.col⟩,
    fun layout => ⟨layout.portCount_lt, layout.portCountInWords?_eq_some⟩, fun pattern ports hports => ?_⟩
  · rw [NamePattern.assign, rangeNames_eq_walk, walk_eq_namesAt]
    rfl
  · rw [NamePattern.assign, incrementNames_eq_walk, walk_eq_namesAt]
    rfl
  · cases pattern with
    | template text => exact NamePattern.assignInWords?_template text ports
    | range stem start stop => exact NamePattern.assignInWords?_range stem start stop ports
    | increment stem start => exact NamePattern.assignInWords?_increment stem start hports

/-- The last coordinate of all. -/
def lastCoordinate : Coordinate := ⟨4294967295, 4294967295⟩

/-- From there a range goes on into row 2³², as far as a range can come, and an increment gives names in this row. -/
theorem counts_fitWords_lastCoordinate :
    (⟨2 ^ 32, 2 ^ 32 - 1⟩ : Cursor) ∈ rangePlaces lastCoordinate lastCoordinate NamePattern.corner ∧
      (2 ^ 32 ≤ 2 ^ 32 ∧ 2 ^ 32 - 1 + 1 ≤ 2 ^ 32) ∧
      (⟨2 ^ 32, 3⟩ : Cursor) ∈ incrementPlaces lastCoordinate NamePattern.corner ∧
      (2 ^ 32 ≤ 4294967295 + 3 ∧ 3 + 1 ≤ max 4294967295 999 + 1) ∧
      NamePattern.corner.length < 2 ^ 63 ∧
      (NamePattern.increment "E" lastCoordinate).assignInWords? NamePattern.corner =
        some ⟨[(⟨"a"⟩, "E4294967295/4294967295"), (⟨"b"⟩, "E4294967296/1"), (⟨"c"⟩, "E4294967296/2")]⟩ := by
  obtain ⟨hrange, hincrement, -, -, hwords⟩ := counts_fitWords
  have hpast : (⟨2 ^ 32, 2 ^ 32 - 1⟩ : Cursor) ∈ rangePlaces lastCoordinate lastCoordinate NamePattern.corner := by
    rw [rangePlaces, NamePattern.sortPorts_corner]
    decide
  have hlast : (⟨2 ^ 32, 3⟩ : Cursor) ∈ incrementPlaces lastCoordinate NamePattern.corner := by
    rw [incrementPlaces, NamePattern.sortPorts_corner]
    decide
  have hports : NamePattern.corner.length < 2 ^ 63 := by decide
  have hnames := hwords (.increment "E" lastCoordinate) NamePattern.corner hports
  rw [NamePattern.assign, NamePattern.sortPorts_corner] at hnames
  exact ⟨hpast, (hrange "E" _ _ _).2 _ hpast, hlast, (hincrement "E" _ _).2 _ hlast, hports,
    hnames.trans (by decide +kernel)⟩

end PortGrid
