import Mathlib.Data.List.Infix
import Mathlib.Logic.Function.Basic
import PortGrid.Naming.Assignment
import PortGrid.Proofs.Text.Reading

/-!
# Templates piece by piece

A template is a list of pieces: markers, and characters outside the markers. Putting texts in for the markers is
filling the pieces. A template is rendered by replacing one marker in it and the other in the result. This fills the
pieces, because no replacement makes or breaks a marker: what is put in begins with a digit, where a marker goes on with
a letter or ends with a brace.

In a template in which every marker is at the end, or followed by a character that is neither a digit nor the beginning
of a marker, the digits put in for a marker are a run of their own, and so the filled text gives them back.

Key definitions: `Marker`, `Piece`, `pieces`, `fill`, `Separated`.
Key theorems: `template_induction`, `fill_pieces`, `replaceAll_fill`, `replaceAll_replaceAll`, `renderTemplate_eq_fill`,
`fill_unique`.
-/

namespace PortGrid

/-! ### Replacing one occurrence after another -/

namespace Text

variable {needle : List Char}

theorem replaceFrom_append (needle r : List Char) : ∀ run rest : List Char,
    replaceFrom needle r run.length (run ++ rest) = replaceAll needle r rest
  | [], _ => rfl
  | _ :: run, rest => replaceFrom_append needle r run rest

theorem replaceAll_needle (hne : needle ≠ []) (r rest : List Char) :
    replaceAll needle r (needle ++ rest) = r ++ replaceAll needle r rest := by
  cases needle with
  | nil => exact absurd rfl hne
  | cons c cs =>
    have hprefix : (c :: cs).isPrefixOf (c :: (cs ++ rest)) = true :=
      List.isPrefixOf_iff_prefix.mpr (List.prefix_append (c :: cs) rest)
    rw [replaceAll, List.cons_append, replaceFrom, if_pos hprefix]
    exact congrArg (r ++ ·) (replaceFrom_append (c :: cs) r cs rest)

theorem replaceAll_cons {c : Char} {cs : List Char} (h : ¬ needle <+: c :: cs) (r : List Char) :
    replaceAll needle r (c :: cs) = c :: replaceAll needle r cs := by
  rw [replaceAll, replaceFrom, if_neg (mt List.isPrefixOf_iff_prefix.mp h)]
  rfl

/-- A text in which no occurrence begins, whatever follows. -/
def Inert (needle run : List Char) : Prop :=
  ∀ r rest, replaceAll needle r (run ++ rest) = run ++ replaceAll needle r rest

theorem inert_of_not_mem {c : Char} {run : List Char} (h : c ∉ run) (cs : List Char) : Inert (c :: cs) run := by
  intro r rest
  induction run with
  | nil => rfl
  | cons d run ih =>
    obtain ⟨hd, hrun⟩ := not_or.mp (mt List.mem_cons.mpr h)
    rw [List.cons_append, replaceAll_cons (fun hp => hd (List.cons_prefix_cons.mp hp).1), ih hrun]
    rfl

end Text

/-! ### Pieces -/

/-- What a marker stands for. -/
inductive Marker where
  | row
  | col
deriving DecidableEq

/-- The marker as it is written. -/
def Marker.text : Marker → List Char
  | .row => rowMarker
  | .col => colMarker

/-- What is written behind the brace of the marker. -/
def Marker.letters (m : Marker) : List Char := m.text.tail

theorem Marker.text_eq (m : Marker) : m.text = '{' :: m.letters := by
  cases m <;> rfl

instance {p : Marker → Prop} [DecidablePred p] : Decidable (∀ m, p m) :=
  decidable_of_iff (p .row ∧ p .col)
    ⟨fun h m => by cases m; exacts [h.1, h.2], fun h => ⟨h .row, h .col⟩⟩

inductive Piece where
  | char (c : Char)
  | marker (m : Marker)

/-- The pieces of a template, from left to right. -/
def pieces : List Char → List Piece
  | '{' :: 'r' :: 'o' :: 'w' :: '}' :: cs => .marker .row :: pieces cs
  | '{' :: 'c' :: 'o' :: 'l' :: '}' :: cs => .marker .col :: pieces cs
  | c :: cs => .char c :: pieces cs
  | [] => []

/-- What stands for a piece when texts are put in for the markers. -/
def Piece.text (f : Marker → List Char) : Piece → List Char
  | .char c => [c]
  | .marker m => f m

/-- The pieces with texts put in for the markers. -/
def fill (f : Marker → List Char) (ps : List Piece) : List Char := ps.flatMap (Piece.text f)

theorem fill_char (f : Marker → List Char) (c : Char) (ps : List Piece) :
    fill f (.char c :: ps) = c :: fill f ps := rfl

theorem fill_marker (f : Marker → List Char) (m : Marker) (ps : List Piece) :
    fill f (.marker m :: ps) = f m ++ fill f ps := rfl

theorem pieces_marker (m : Marker) (cs : List Char) : pieces (m.text ++ cs) = .marker m :: pieces cs := by
  cases m <;> rfl

theorem pieces_char {c : Char} {cs : List Char} (h : ∀ m : Marker, ¬ m.text <+: c :: cs) :
    pieces (c :: cs) = .char c :: pieces cs := by
  apply pieces.eq_3
  · rintro rest rfl rfl
    exact h .row ⟨rest, rfl⟩
  · rintro rest rfl rfl
    exact h .col ⟨rest, rfl⟩

/-- A template begins with a marker, or with a character at which no marker stands, or is empty. -/
@[elab_as_elim]
theorem template_induction {motive : List Char → Prop}
    (marker : ∀ (m : Marker) cs, motive cs → motive (m.text ++ cs))
    (char : ∀ c cs, (∀ m : Marker, ¬ m.text <+: c :: cs) → motive cs → motive (c :: cs))
    (nil : motive []) (cs : List Char) : motive cs := by
  induction cs using pieces.induct with
  | case1 cs ih => exact marker .row cs ih
  | case2 cs ih => exact marker .col cs ih
  | case3 c cs hrow hcol ih =>
    refine char c cs ?_ ih
    rintro m ⟨rest, h⟩
    cases m with
    | row =>
      obtain ⟨rfl, rfl⟩ := List.cons.inj h
      exact hrow rest rfl rfl
    | col =>
      obtain ⟨rfl, rfl⟩ := List.cons.inj h
      exact hcol rest rfl rfl
  | case4 => exact nil

/-- With the markers themselves put in, the pieces are the template. -/
theorem fill_pieces (cs : List Char) : fill Marker.text (pieces cs) = cs := by
  induction cs using template_induction with
  | marker m cs ih => rw [pieces_marker, fill_marker, ih]
  | char c cs h ih => rw [pieces_char h, fill_char, ih]
  | nil => rfl

/-- At every character among the pieces, the template does not go on with a marker. -/
def Plain : List Piece → Prop
  | [] => True
  | .char c :: ps => (∀ m : Marker, ¬ m.text <+: c :: fill Marker.text ps) ∧ Plain ps
  | .marker _ :: ps => Plain ps

theorem plain_pieces (cs : List Char) : Plain (pieces cs) := by
  induction cs using template_induction with
  | marker m cs ih =>
    rw [pieces_marker]
    exact ih
  | char c cs h ih =>
    rw [pieces_char h, Plain, fill_pieces]
    exact ⟨h, ih⟩
  | nil => trivial

/-- A marker that stands in a template is one of its pieces. -/
theorem mem_pieces {m : Marker} {cs : List Char} (h : m.text <:+: cs) : Piece.marker m ∈ pieces cs := by
  induction cs using template_induction with
  | marker n cs ih =>
    rw [pieces_marker]
    by_cases hm : m = n
    · rw [hm]
      exact List.mem_cons_self
    · -- Another marker stands behind the first one, whose brace is the only one in it.
      refine List.mem_cons_of_mem _ (ih ?_)
      cases m <;> cases n <;> simp_all [Marker.text, rowMarker, colMarker, List.infix_cons_iff]
  | char c cs hc ih =>
    rw [pieces_char hc]
    exact List.mem_cons_of_mem _ (ih ((List.infix_cons_iff.mp h).resolve_left (hc m)))
  | nil =>
    rw [m.text_eq] at h
    exact absurd (List.infix_nil.mp h) (List.cons_ne_nil _ _)

/-! ### Filling by replacement -/

/-- What markers are written with behind their braces. -/
def markerLetters : List Char := Marker.row.letters ++ Marker.col.letters

theorem Marker.letters_subset (m : Marker) : m.letters ⊆ markerLetters := by
  cases m with
  | row => exact List.subset_append_left _ _
  | col => exact List.subset_append_right _ _

/-- A text beginning with a character that no marker goes on with. -/
def Foreign (cs : List Char) : Prop := ∃ c ∈ cs.head?, c ∉ markerLetters

theorem foreign_text (m : Marker) : Foreign m.text := by
  rw [m.text_eq]
  exact ⟨'{', rfl, by decide⟩

theorem not_isDigit_of_mem_markerLetters {c : Char} (h : c ∈ markerLetters) : c.isDigit = false := by
  have hall : markerLetters.all (!·.isDigit) = true := rfl
  simpa using List.all_eq_true.mp hall c h

theorem Digits.foreign {ds : List Char} (h : Digits ds) (hne : ds ≠ []) : Foreign ds := by
  cases ds with
  | nil => exact absurd rfl hne
  | cons d ds =>
    refine ⟨d, rfl, fun hm => ?_⟩
    exact absurd h.cons.1 (by rw [not_isDigit_of_mem_markerLetters hm]; decide)

/-- The rest of a marker does not reach into what is put in. -/
theorem not_cons_prefix_of_foreign {c : Char} {cs run rest : List Char} (h : Foreign run) (hc : c ∈ markerLetters) :
    ¬ c :: cs <+: run ++ rest := by
  obtain ⟨d, hd, hmem⟩ := h
  cases run with
  | nil => cases hd
  | cons e run =>
    cases hd
    intro hp
    obtain ⟨rfl, -⟩ := List.cons_prefix_cons.mp hp
    exact hmem hc

/-- The rest of a marker that stands in a filled text stands in it whatever is put in. -/
theorem prefix_fill {f : Marker → List Char} {cs : List Char} {ps : List Piece} (hf : ∀ m, Foreign (f m))
    (hcs : cs ⊆ markerLetters) (h : cs <+: fill f ps) (g : Marker → List Char) : cs <+: fill g ps := by
  induction ps generalizing cs with
  | nil => exact h
  | cons p ps ih =>
    cases cs with
    | nil => exact List.nil_prefix
    | cons c cs =>
      obtain ⟨hc, hcs⟩ := List.cons_subset.mp hcs
      cases p with
      | char d =>
        obtain ⟨rfl, hrest⟩ := List.cons_prefix_cons.mp h
        exact List.cons_prefix_cons.mpr ⟨rfl, ih hcs hrest⟩
      | marker m => exact absurd h (not_cons_prefix_of_foreign (hf m) hc)

/-- A marker that a filled text goes on with at a character would stand in the template. -/
theorem marker_prefix_fill {f : Marker → List Char} {m : Marker} {c : Char} {ps : List Piece}
    (hf : ∀ n, Foreign (f n)) (h : m.text <+: c :: fill f ps) : m.text <+: c :: fill Marker.text ps := by
  rw [m.text_eq] at h ⊢
  obtain ⟨rfl, hrest⟩ := List.cons_prefix_cons.mp h
  exact List.cons_prefix_cons.mpr ⟨rfl, prefix_fill hf m.letters_subset hrest _⟩

theorem inert_text {m n : Marker} (h : m ≠ n) : Text.Inert m.text n.text := by
  intro r rest
  have hbrace : ¬ m.text <+: '{' :: (n.letters ++ rest) := by
    cases m <;> cases n <;> simp_all [Marker.letters, Marker.text, rowMarker, colMarker]
  have hletters : Text.Inert m.text n.letters := by
    rw [m.text_eq]
    exact Text.inert_of_not_mem (by cases n <;> decide) _
  rw [n.text_eq, List.cons_append, Text.replaceAll_cons hbrace, hletters]
  rfl

theorem Digits.inert {ds : List Char} (h : Digits ds) (m : Marker) : Text.Inert m.text ds := by
  rw [m.text_eq]
  exact Text.inert_of_not_mem (fun hm => absurd (h _ hm) (by decide)) _

/-- Replacing a marker puts a text in for it, and leaves what stands for the other. -/
theorem replaceAll_fill {m : Marker} {f : Marker → List Char} {ps : List Piece} (hps : Plain ps) (hm : f m = m.text)
    (hforeign : ∀ n, Foreign (f n)) (hinert : ∀ n, m ≠ n → Text.Inert m.text (f n)) (r : List Char) :
    Text.replaceAll m.text r (fill f ps) = fill (Function.update f m r) ps := by
  induction ps with
  | nil => rfl
  | cons p ps ih =>
    cases p with
    | char c =>
      have hc : ¬ m.text <+: c :: fill f ps := mt (marker_prefix_fill hforeign) (hps.1 m)
      rw [fill_char, fill_char, Text.replaceAll_cons hc, ih hps.2]
    | marker n =>
      by_cases hn : m = n
      · subst hn
        have hne : m.text ≠ [] := by
          rw [m.text_eq]
          exact List.cons_ne_nil _ _
        rw [fill_marker, fill_marker, hm, Text.replaceAll_needle hne, ih hps, Function.update_self]
      · rw [fill_marker, fill_marker, hinert n hn, ih hps, Function.update_of_ne (Ne.symm hn)]

/-- The digits that are put in at a position: its row and its column, counted from one. -/
def Position.digits (p : Position) : Marker → List Char
  | .row => Nat.toDigits 10 (p.row.toNat + 1)
  | .col => Nat.toDigits 10 (p.col.toNat + 1)

theorem Position.digits_digits (p : Position) (m : Marker) : Digits (p.digits m) := by
  cases m <;> exact Digits.toDigits _

/-- Replacing one marker and then the other puts both texts in, if these are digits, whichever marker comes first. -/
theorem replaceAll_replaceAll {m n : Marker} (hmn : m ≠ n) {f : Marker → List Char} (hf : ∀ k, Digits (f k))
    (hne : ∀ k, f k ≠ []) (cs : List Char) :
    Text.replaceAll n.text (f n) (Text.replaceAll m.text (f m) cs) = fill f (pieces cs) := by
  have hplain := plain_pieces cs
  have hfirst : Text.replaceAll m.text (f m) cs = fill (Function.update Marker.text m (f m)) (pieces cs) := by
    have h := replaceAll_fill (m := m) hplain rfl foreign_text (fun _ => inert_text) (f m)
    rwa [fill_pieces] at h
  -- Now digits stand for the first marker, and the second as it is written.
  have hforeign : ∀ k, Foreign (Function.update Marker.text m (f m) k) := by
    intro k
    by_cases hk : k = m
    · rw [hk, Function.update_self]
      exact (hf m).foreign (hne m)
    · rw [Function.update_of_ne hk]
      exact foreign_text k
  have hinert : ∀ k, n ≠ k → Text.Inert n.text (Function.update Marker.text m (f m) k) := by
    intro k hk
    have hkm : k = m := by cases m <;> cases n <;> cases k <;> simp_all
    rw [hkm, Function.update_self]
    exact (hf m).inert n
  have hboth : Function.update (Function.update Marker.text m (f m)) n (f n) = f := by
    funext k
    cases m <;> cases n <;> cases k <;> simp_all
  rw [hfirst, replaceAll_fill hplain (Function.update_of_ne hmn.symm _ _) hforeign hinert, hboth]

theorem Position.digits_ne_nil (p : Position) (m : Marker) : p.digits m ≠ [] := by
  cases m <;> exact Nat.toDigits_ne_nil

/-- A rendered template is the template with the digits of the position put in. -/
theorem renderTemplate_eq_fill (text : String) (p : Position) :
    renderTemplate text p = String.ofList (fill p.digits (pieces text.toList)) := by
  have hmn : Marker.row ≠ Marker.col := by decide
  exact congrArg String.ofList (replaceAll_replaceAll hmn p.digits_digits p.digits_ne_nil text.toList)

/-! ### Markers apart from each other -/

/-- What stands behind a marker is neither a digit nor a marker. -/
structure Separate (rest : List Char) : Prop where
  stops : Stops Char.isDigit rest
  unmarked : ∀ m : Marker, ¬ m.text <+: rest

/-- Every marker of the template is at the end, or followed by a character that is neither a digit nor the beginning
of a marker. -/
def Separated (cs : List Char) : Prop := ∀ (m : Marker) (rest : List Char), m.text ++ rest <:+ cs → Separate rest

instance (rest : List Char) : Decidable (Separate rest) :=
  decidable_of_iff (Stops Char.isDigit rest ∧ ∀ m : Marker, ¬ m.text <+: rest)
    ⟨fun h => ⟨h.1, h.2⟩, fun h => ⟨h.stops, h.unmarked⟩⟩

instance (cs : List Char) : Decidable (Separated cs) :=
  decidable_of_iff (∀ m : Marker, ∀ rest ∈ cs.tails, m.text ++ rest <:+ cs → Separate rest)
    ⟨fun h m rest hrest => h m rest ((List.mem_tails _ _).mpr ((List.suffix_append _ _).trans hrest)) hrest,
      fun h m rest _ => h m rest⟩

theorem Separated.of_suffix {cs cs' : List Char} (h : Separated cs) (hsuffix : cs' <:+ cs) : Separated cs' :=
  fun m rest hrest => h m rest (hrest.trans hsuffix)

/-- What stands behind a marker among the pieces: nothing, or a character that is no digit. -/
def Closed (ps : List Piece) : Prop := ∀ p ∈ ps.head?, ∃ c : Char, p = .char c ∧ c.isDigit = false

theorem Separate.closed {cs : List Char} (h : Separate cs) : Closed (pieces cs) := by
  induction cs using template_induction with
  | marker m cs => exact absurd (List.prefix_append _ _) (h.unmarked m)
  | char c cs hc =>
    rw [pieces_char hc]
    rintro p ⟨⟩
    exact ⟨c, rfl, h.stops c rfl⟩
  | nil =>
    rintro p ⟨⟩

/-- Nothing that is put in goes on with digits. -/
theorem Closed.stops {ps : List Piece} (h : Closed ps) (f : Marker → List Char) : Stops Char.isDigit (fill f ps) := by
  cases ps with
  | nil => exact stops_nil _
  | cons p ps =>
    obtain ⟨c, rfl, hc⟩ := h p rfl
    exact stops_cons hc _

/-- Every marker among the pieces is closed. -/
def Apart : List Piece → Prop
  | [] => True
  | .char _ :: ps => Apart ps
  | .marker _ :: ps => Closed ps ∧ Apart ps

theorem Separated.apart {cs : List Char} (h : Separated cs) : Apart (pieces cs) := by
  induction cs using template_induction with
  | marker m cs ih =>
    rw [pieces_marker]
    exact ⟨(h m cs List.suffix_rfl).closed, ih (h.of_suffix (List.suffix_append _ _))⟩
  | char c cs hc ih =>
    rw [pieces_char hc]
    exact ih (h.of_suffix (List.suffix_cons c cs))
  | nil => trivial

/-- Where every marker is closed, the filled text gives back the digits that were put in. -/
theorem fill_unique {f g : Marker → List Char} {ps : List Piece} (hps : Apart ps) (hf : ∀ m, Digits (f m))
    (hg : ∀ m, Digits (g m)) (h : fill f ps = fill g ps) {m : Marker} (hm : .marker m ∈ ps) : f m = g m := by
  induction ps with
  | nil => cases hm
  | cons p ps ih =>
    cases p with
    | char c =>
      have hmem : .marker m ∈ ps := by simpa using hm
      exact ih hps (List.cons.inj h).2 hmem
    | marker n =>
      obtain ⟨hclosed, hps⟩ := hps
      obtain ⟨hn, hrest⟩ := run_unique (hf n) (hclosed.stops f) (hg n) (hclosed.stops g) h
      rcases List.mem_cons.mp hm with hmn | hmem
      · cases hmn
        exact hn
      · exact ih hps hrest hmem

end PortGrid
