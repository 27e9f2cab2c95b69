import PortGrid.Naming.Pattern
import PortGrid.Proofs.Text.Classes

/-!
# The grammar of name patterns

A numbered pattern is written as letters, a coordinate, and perhaps a dash between blanks and another coordinate, where
a coordinate is two runs of digits with a slash between them. The reader takes the longest run of each class in turn
and then the numbers from the digits. It accepts exactly what the grammar writes, since every run is stopped by what
comes behind it, and so a text is written in one way at most. A text with a marker is a template, whatever else it
holds, and any other text is refused as it was given.

Key definitions: `CoordinateText`, `NumberedText`, `NumberedText.Denotes`, `HoldsMarker`, `patternText`.
Key theorems: `readCoordinate_eq_some_iff`, `NumberedText.text_injective`, `NamePattern.ofNumbered?_eq_some_iff`,
`NamePattern.parse_grammar`.
-/

namespace PortGrid

/-! ### Markers -/

/-- One of the markers stands somewhere in the text. -/
def HoldsMarker (cs : List Char) : Prop := rowMarker <:+: cs ∨ colMarker <:+: cs

theorem hasMarker_iff {cs : List Char} : NamePattern.hasMarker cs = true ↔ HoldsMarker cs := by
  rw [NamePattern.hasMarker, Bool.or_eq_true, Text.occursIn_iff, Text.occursIn_iff, HoldsMarker]

theorem not_holdsMarker_nil : ¬ HoldsMarker [] := by
  unfold HoldsMarker rowMarker colMarker
  simp

/-! ### Coordinates -/

/-- A coordinate as it is written: the digits of its row and those of its column. -/
structure CoordinateText where
  row : List Char
  col : List Char

namespace CoordinateText

def text (w : CoordinateText) : List Char := w.row ++ '/' :: w.col

/-- The digits write the row and the column. -/
structure Denotes (w : CoordinateText) (c : Coordinate) : Prop where
  row : Text.Writes w.row c.row
  col : Text.Writes w.col c.col

theorem text_append (w : CoordinateText) (rest : List Char) :
    w.text ++ rest = w.row ++ '/' :: (w.col ++ rest) := by
  simp [text]

/-- A coordinate begins with an ASCII digit, so that no class without them goes on into it. -/
theorem Denotes.stops {w : CoordinateText} {c : Coordinate} (h : w.Denotes c) {p : Char → Bool}
    (hp : ∀ d : Char, d.isDigit = true → p d = false) (rest : List Char) : Stops p (w.text ++ rest) := by
  rw [text_append]
  exact stops_append h.row.ne_nil (fun d hd => hp d (h.row.digits d hd)) _

end CoordinateText

theorem stops_slash (rest : List Char) : Stops Text.isDigit ('/' :: rest) := stops_cons (by decide) rest

theorem Text.Writes.isDigit {ds : List Char} {n : UInt32} (h : Text.Writes ds n) : ∀ c ∈ ds, Text.isDigit c = true :=
  fun c hc => Text.isDigit_of_decimal (h.digits c hc)

/-- Coordinates that are written alike, up to where no digit follows, are written with the same digits. -/
theorem CoordinateText.append_unique {v w : CoordinateText} {c d : Coordinate} (hv : v.Denotes c) (hw : w.Denotes d)
    {rest rest' : List Char} (hrest : Stops Text.isDigit rest) (hrest' : Stops Text.isDigit rest')
    (h : v.text ++ rest = w.text ++ rest') : v = w ∧ rest = rest' := by
  rw [text_append, text_append] at h
  obtain ⟨hrow, h⟩ := run_unique hv.row.isDigit (stops_slash _) hw.row.isDigit (stops_slash _) h
  obtain ⟨hcol, h⟩ := run_unique hv.col.isDigit hrest hw.col.isDigit hrest' (List.cons.inj h).2
  exact ⟨by rw [CoordinateText.mk.injEq]; exact ⟨hrow, hcol⟩, h⟩

theorem readCoordinate_eq_some_iff {cs rest : List Char} {c : Coordinate} :
    readCoordinate cs = some (c, rest) ↔
      ∃ w : CoordinateText, w.Denotes c ∧ w.text ++ rest = cs ∧ Stops Text.isDigit rest := by
  constructor
  · intro h
    unfold readCoordinate at h
    split at h
    · rename_i more hmore
      split at h
      · rename_i row col hrow hcol
        obtain ⟨rfl, rfl⟩ := Prod.mk.inj (Option.some.inj h)
        refine ⟨⟨cs.takeWhile Text.isDigit, more.takeWhile Text.isDigit⟩,
          ⟨Text.readNumber?_eq_some_iff.mp hrow, Text.readNumber?_eq_some_iff.mp hcol⟩, ?_, stops_dropWhile _ _⟩
        rw [CoordinateText.text_append, List.takeWhile_append_dropWhile, ← hmore, List.takeWhile_append_dropWhile]
      · cases h
    · cases h
  · rintro ⟨w, hw, rfl, hrest⟩
    rw [CoordinateText.text_append]
    unfold readCoordinate
    rw [dropWhile_run hw.row.isDigit (stops_slash _), takeWhile_run hw.row.isDigit (stops_slash _)]
    simp only [dropWhile_run hw.col.isDigit hrest, takeWhile_run hw.col.isDigit hrest,
      Text.readNumber?_eq_some_iff.mpr hw.row, Text.readNumber?_eq_some_iff.mpr hw.col]

/-! ### Numbered patterns -/

/-- A numbered pattern as it is written. -/
inductive NumberedText where
  | increment (stem : List Char) (start : CoordinateText)
  /-- The blanks `before` and `after` stand around the dash. -/
  | range (stem : List Char) (start : CoordinateText) (before after : List Char) (stop : CoordinateText)

namespace NumberedText

def stem : NumberedText → List Char
  | increment stem _ => stem
  | range stem _ _ _ _ => stem

def body : NumberedText → List Char
  | increment _ start => start.text
  | range _ start before after stop => start.text ++ (before ++ '-' :: (after ++ stop.text))

def text (w : NumberedText) : List Char := w.stem ++ w.body

/-- Letters, at least one. -/
structure Stem (stem : List Char) : Prop where
  ne_nil : stem ≠ []
  letters : ∀ c ∈ stem, Text.isLetter c = true

/-- Nothing but blanks. -/
def Blanks (cs : List Char) : Prop := ∀ c ∈ cs, Text.isBlank c = true

/-- What is written is the pattern. -/
inductive Denotes : NumberedText → NamePattern → Prop where
  | increment {stem : List Char} {w : CoordinateText} {start : Coordinate} (hstem : Stem stem) (hw : w.Denotes start) :
    Denotes (.increment stem w) (.increment (String.ofList stem) start)
  | range {stem before after : List Char} {v w : CoordinateText} {start stop : Coordinate} (hstem : Stem stem)
    (hv : v.Denotes start) (hbefore : Blanks before) (hafter : Blanks after) (hw : w.Denotes stop) :
    Denotes (.range stem v before after w) (.range (String.ofList stem) start stop)

theorem stops_dash (rest : List Char) : Stops Text.isBlank ('-' :: rest) := stops_cons (by decide) rest

theorem Blanks.stops {before : List Char} (h : Blanks before) (rest : List Char) :
    Stops Text.isDigit (before ++ '-' :: rest) := by
  cases before with
  | nil => exact stops_cons (by decide) rest
  | cons c cs => exact stops_cons (Text.not_digit_of_isBlank (h c List.mem_cons_self)) _

theorem Denotes.stem {w : NumberedText} {pattern : NamePattern} (h : w.Denotes pattern) : Stem w.stem := by
  cases h <;> assumption

theorem Denotes.text_ne_nil {w : NumberedText} {pattern : NamePattern} (h : w.Denotes pattern) :
    w.text ≠ [] :=
  List.append_ne_nil_of_left_ne_nil h.stem.ne_nil _

theorem Denotes.body_stops {w : NumberedText} {pattern : NamePattern} (h : w.Denotes pattern) :
    Stops Text.isLetter w.body := by
  cases h with
  | increment _ hw =>
    have hstops := hw.stops (fun _ => Text.not_letter_of_decimal) []
    rwa [List.append_nil] at hstops
  | range _ hv _ _ _ => exact hv.stops (fun _ => Text.not_letter_of_decimal) _

/-- **A text is written in one way at most.** -/
theorem text_injective {v w : NumberedText} {p q : NamePattern} (hv : v.Denotes p) (hw : w.Denotes q)
    (h : v.text = w.text) : v = w := by
  obtain ⟨hstem, hbody⟩ := run_unique hv.stem.letters hv.body_stops hw.stem.letters hw.body_stops h
  cases hv with
  | @increment stem v start _ hv =>
    cases hw with
    | @increment stem' w start' _ hw =>
      have hbody' : v.text ++ [] = w.text ++ [] := by simpa [body] using hbody
      obtain ⟨rfl, -⟩ := CoordinateText.append_unique hv hw (stops_nil _) (stops_nil _) hbody'
      exact congrArg (increment · v) hstem
    | @range stem' before after w w' start' stop _ hw hbefore _ _ =>
      -- The text of an increment ends behind its coordinate.
      have hbody' : v.text ++ [] = w.text ++ (before ++ '-' :: (after ++ w'.text)) := by simpa [body] using hbody
      obtain ⟨-, hrest⟩ := CoordinateText.append_unique hv hw (stops_nil _) (hbefore.stops _) hbody'
      simp at hrest
  | @range stem before after v v' start stop _ hv hbefore hafter hv' =>
    cases hw with
    | @increment stem' w start' _ hw =>
      have hbody' : v.text ++ (before ++ '-' :: (after ++ v'.text)) = w.text ++ [] := by simpa [body] using hbody
      obtain ⟨-, hrest⟩ := CoordinateText.append_unique hv hw (hbefore.stops _) (stops_nil _) hbody'
      simp at hrest
    | @range stem' before' after' w w' start' stop' _ hw hbefore' hafter' hw' =>
      obtain ⟨rfl, hdash⟩ := CoordinateText.append_unique hv hw (hbefore.stops _) (hbefore'.stops _) hbody
      obtain ⟨rfl, hafters⟩ := run_unique hbefore (stops_dash _) hbefore' (stops_dash _) hdash
      have hafters' : after ++ (v'.text ++ []) = after' ++ (w'.text ++ []) := by simpa using hafters
      have hstops := hv'.stops (fun _ => Text.not_blank_of_decimal) []
      have hstops' := hw'.stops (fun _ => Text.not_blank_of_decimal) []
      obtain ⟨rfl, hlast⟩ := run_unique hafter hstops hafter' hstops' hafters'
      obtain ⟨rfl, -⟩ := CoordinateText.append_unique hv' hw' (stops_nil _) (stops_nil _) hlast
      exact congrArg (range · v before after v') hstem

end NumberedText

namespace NamePattern

/-! ### The reader -/

/-- What is read as a numbered pattern is written as one. -/
theorem written_of_ofNumbered? {cs : List Char} {pattern : NamePattern} (h : ofNumbered? cs = some pattern) :
    ∃ w : NumberedText, w.text = cs ∧ w.Denotes pattern := by
  have hcs := List.takeWhile_append_dropWhile (p := Text.isLetter) (l := cs)
  unfold ofNumbered? at h
  simp only at h
  split at h
  · cases h
  · rename_i hne
    have hstem : NumberedText.Stem (cs.takeWhile Text.isLetter) :=
      ⟨by simpa [List.isEmpty_iff] using hne, fun c hc => mem_takeWhile hc⟩
    split at h
    · cases h
    · rename_i start hstart
      cases h
      obtain ⟨v, hv, hbody, -⟩ := readCoordinate_eq_some_iff.mp hstart
      refine ⟨.increment _ v, ?_, .increment hstem hv⟩
      rw [List.append_nil] at hbody
      rw [NumberedText.text, NumberedText.body, NumberedText.stem, hbody, hcs]
    · rename_i start rest _ hstart
      obtain ⟨v, hv, hbody, -⟩ := readCoordinate_eq_some_iff.mp hstart
      split at h
      · rename_i more hmore
        split at h
        · rename_i stop hstop
          cases h
          obtain ⟨w, hw, hend, -⟩ := readCoordinate_eq_some_iff.mp hstop
          refine ⟨.range _ v (rest.takeWhile Text.isBlank) (more.takeWhile Text.isBlank) w, ?_,
            .range hstem hv (fun c hc => mem_takeWhile hc) (fun c hc => mem_takeWhile hc) hw⟩
          rw [List.append_nil] at hend
          rw [NumberedText.text, NumberedText.body, NumberedText.stem, hend, List.takeWhile_append_dropWhile,
            ← hmore, List.takeWhile_append_dropWhile, hbody, hcs]
        · cases h
      · cases h

theorem ofNumbered?_of_written {w : NumberedText} {pattern : NamePattern} (h : w.Denotes pattern) :
    ofNumbered? w.text = some pattern := by
  have hne : (w.stem.isEmpty) = false := by simpa [List.isEmpty_iff] using h.stem.ne_nil
  unfold ofNumbered? NumberedText.text
  simp only [takeWhile_run h.stem.letters h.body_stops, dropWhile_run h.stem.letters h.body_stops, hne,
    Bool.false_eq_true, if_false]
  cases h with
  | @increment stem v start _ hv =>
    have hstart : readCoordinate v.text = some (start, []) :=
      readCoordinate_eq_some_iff.mpr ⟨v, hv, List.append_nil _, stops_nil _⟩
    simp only [NumberedText.body, NumberedText.stem, hstart]
  | @range stem before after v w start stop _ hv hbefore hafter hw =>
    have hstart : readCoordinate (v.text ++ (before ++ '-' :: (after ++ w.text))) =
        some (start, before ++ '-' :: (after ++ w.text)) :=
      readCoordinate_eq_some_iff.mpr ⟨v, hv, rfl, hbefore.stops _⟩
    have hstop : readCoordinate w.text = some (stop, []) :=
      readCoordinate_eq_some_iff.mpr ⟨w, hw, List.append_nil _, stops_nil _⟩
    have hdash := dropWhile_run hbefore (NumberedText.stops_dash (after ++ w.text))
    have hstops := hw.stops (fun _ => Text.not_blank_of_decimal) []
    rw [List.append_nil] at hstops
    have hblank := dropWhile_run hafter hstops
    simp only [NumberedText.body, NumberedText.stem, hstart]
    have hrest : before ++ '-' :: (after ++ w.text) ≠ [] := by simp
    generalize before ++ '-' :: (after ++ w.text) = rest at hdash hrest
    cases rest with
    | nil => exact absurd rfl hrest
    | cons c cs => simp only [hdash, hblank, hstop]

theorem ofNumbered?_eq_some_iff {cs : List Char} {pattern : NamePattern} :
    ofNumbered? cs = some pattern ↔ ∃ w : NumberedText, w.text = cs ∧ w.Denotes pattern := by
  constructor
  · exact written_of_ofNumbered?
  · rintro ⟨w, rfl, hw⟩
    exact ofNumbered?_of_written hw

/-! ### Patterns -/

/-- The pattern that is written in a text, without the outer blanks. -/
def patternText (input : String) : List Char := Text.trimChars input.toList

/-- The order in which the forms of a pattern are tried. -/
theorem parse_cases (input : String) :
    (patternText input = [] ∧ parse input = .error .empty) ∨
      (HoldsMarker (patternText input) ∧
        parse input = .ok (.template (String.ofList (patternText input)))) ∨
      (patternText input ≠ [] ∧ ¬ HoldsMarker (patternText input) ∧
        parse input = match ofNumbered? (patternText input) with
          | some numbered => .ok numbered
          | none => .error (.notRecognized input)) := by
  by_cases hempty : patternText input = []
  · exact .inl ⟨hempty, if_pos (List.isEmpty_iff.mpr hempty)⟩
  · have hne : ¬ (patternText input).isEmpty = true := mt List.isEmpty_iff.mp hempty
    by_cases hmarker : HoldsMarker (patternText input)
    · exact .inr (.inl ⟨hmarker, (if_neg hne).trans (if_pos (hasMarker_iff.mpr hmarker))⟩)
    · exact .inr (.inr ⟨hempty, hmarker, (if_neg hne).trans (if_neg (mt hasMarker_iff.mp hmarker))⟩)

theorem parse_eq_empty_iff {input : String} :
    parse input = .error .empty ↔ patternText input = [] := by
  rcases parse_cases input with ⟨hp, h⟩ | ⟨hmarker, h⟩ | ⟨hne, -, h⟩
  · exact iff_of_true h hp
  · rw [h]
    refine iff_of_false (fun h => by cases h) fun hp => ?_
    exact not_holdsMarker_nil (hp ▸ hmarker)
  · rw [h]
    refine iff_of_false (fun h => ?_) hne
    split at h <;> cases h

theorem parse_eq_template_iff {input text : String} : parse input = .ok (.template text) ↔
    HoldsMarker (patternText input) ∧ text = String.ofList (patternText input) := by
  rcases parse_cases input with ⟨hp, h⟩ | ⟨hmarker, h⟩ | ⟨-, hno, h⟩
  · rw [h, hp]
    exact iff_of_false (fun h => by cases h) fun h => not_holdsMarker_nil h.1
  · rw [h]
    constructor
    · intro h
      cases h
      exact ⟨hmarker, rfl⟩
    · rintro ⟨-, rfl⟩
      rfl
  · rw [h]
    refine iff_of_false (fun h => ?_) fun h => hno h.1
    split at h
    · rename_i numbered hnumbered
      cases h
      obtain ⟨w, -, hw⟩ := ofNumbered?_eq_some_iff.mp hnumbered
      cases hw
    · cases h

theorem parse_eq_numbered_iff {input : String} {pattern : NamePattern} (hpattern : ∀ text, pattern ≠ .template text) :
    parse input = .ok pattern ↔ ¬ HoldsMarker (patternText input) ∧
      ∃ w : NumberedText, w.text = patternText input ∧ w.Denotes pattern := by
  rcases parse_cases input with ⟨hp, h⟩ | ⟨hmarker, h⟩ | ⟨-, hno, h⟩
  · rw [h, hp]
    refine iff_of_false (fun h => by cases h) ?_
    rintro ⟨-, w, htext, hw⟩
    exact hw.text_ne_nil htext
  · rw [h]
    refine iff_of_false (fun h => ?_) fun h => h.1 hmarker
    cases h
    exact hpattern _ rfl
  · rw [h, ← ofNumbered?_eq_some_iff]
    cases ofNumbered? (patternText input) with
    | none => exact iff_of_false (fun h => by cases h) fun h => by cases h.2
    | some numbered => simp [hno]

/-- A text is refused exactly if it is written in no form. -/
theorem parse_eq_notRecognized_iff {input shown : String} : parse input = .error (.notRecognized shown) ↔
    shown = input ∧ patternText input ≠ [] ∧ ¬ HoldsMarker (patternText input) ∧
      ∀ (w : NumberedText) (pattern : NamePattern), w.text = patternText input → ¬ w.Denotes pattern := by
  rcases parse_cases input with ⟨hp, h⟩ | ⟨hmarker, h⟩ | ⟨hne, hno, h⟩
  · rw [h]
    exact iff_of_false (fun h => by cases h) fun h => h.2.1 hp
  · rw [h]
    exact iff_of_false (fun h => by cases h) fun h => h.2.2.1 hmarker
  · rw [h]
    cases hread : ofNumbered? (patternText input) with
    | none =>
      have hunwritten : ∀ (w : NumberedText) (pattern : NamePattern), w.text = patternText input →
          ¬ w.Denotes pattern := by
        intro w pattern htext hw
        rw [ofNumbered?_eq_some_iff.mpr ⟨w, htext, hw⟩] at hread
        cases hread
      simp only [Except.error.injEq, PatternError.notRecognized.injEq]
      exact ⟨fun h => ⟨h.symm, hne, hno, hunwritten⟩, fun h => h.1.symm⟩
    | some numbered =>
      obtain ⟨w, htext, hw⟩ := ofNumbered?_eq_some_iff.mp hread
      exact iff_of_false (fun h => by cases h) fun h => h.2.2.2 w numbered htext hw

/-- **The grammar of patterns.** Of a text without its outer blanks: nothing is the empty pattern; a text that holds a
marker is a template; of the others, those that are written as letters and two coordinates are ranges, those that are
written as letters and one coordinate are increments, and all the rest are refused as they were given. A text is written
in one of these ways at most. -/
theorem parse_grammar (input : String) :
    Text.Trims input.toList (patternText input) ∧
      (parse input = .error .empty ↔ patternText input = []) ∧
      (∀ text, parse input = .ok (.template text) ↔
        HoldsMarker (patternText input) ∧ text = String.ofList (patternText input)) ∧
      (∀ stem start stop, parse input = .ok (.range stem start stop) ↔ ¬ HoldsMarker (patternText input) ∧
        ∃ w : NumberedText, w.text = patternText input ∧ w.Denotes (.range stem start stop)) ∧
      (∀ stem start, parse input = .ok (.increment stem start) ↔ ¬ HoldsMarker (patternText input) ∧
        ∃ w : NumberedText, w.text = patternText input ∧ w.Denotes (.increment stem start)) ∧
      (∀ shown, parse input = .error (.notRecognized shown) ↔
        shown = input ∧ patternText input ≠ [] ∧ ¬ HoldsMarker (patternText input) ∧
          ∀ (w : NumberedText) (q : NamePattern), w.text = patternText input → ¬ w.Denotes q) ∧
      ∀ (v w : NumberedText) (q r : NamePattern), v.Denotes q → w.Denotes r →
        v.text = patternText input → w.text = patternText input → v = w := by
  have hrange : ∀ stem start stop text, NamePattern.range stem start stop ≠ .template text := by
    intro _ _ _ _ h
    cases h
  have hincrement : ∀ stem start text, NamePattern.increment stem start ≠ .template text := by
    intro _ _ _ h
    cases h
  refine ⟨Text.trims_trimChars _, parse_eq_empty_iff, fun text => parse_eq_template_iff, fun stem start stop => ?_,
    fun stem start => ?_, fun shown => parse_eq_notRecognized_iff, fun v w q r hv hw htext htext' => ?_⟩
  · exact parse_eq_numbered_iff (hrange stem start stop)
  · exact parse_eq_numbered_iff (hincrement stem start)
  · exact NumberedText.text_injective hv hw (htext.trans htext'.symm)

/-- Zeros in front are read, and a number of 33 bits is not. -/
example : (parse " Gi0001/4294967295").toOption = some (.increment "Gi" ⟨1, 4294967295⟩) ∧
    (parse "Gi1/4294967296").toOption = none := by
  decide +kernel

end NamePattern
end PortGrid
