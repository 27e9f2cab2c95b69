import PortGrid.Language
import PortGrid.Proofs.Naming.Distinctness
import PortGrid.Proofs.Naming.Grammar

/-!
# Names are tidy

No name that the library makes up is empty or has a blank at one of its ends. The name of a fresh port is a label with a
number behind it. A name on a walk consists of letters, digits and a slash, none of which is a blank. And a template
begins and ends as the pattern does, which was trimmed, unless a marker stands there, for which digits are put in.

Key theorems: `tidy_defaultPortName`, `Neat.fill`, `NamePattern.tidy_assign`, `tidy_assignNames`.
-/

namespace PortGrid

open Text

/-! ### Names of fresh ports -/

theorem toList_defaultPortName (label : String) (number : Nat) :
    (defaultPortName label number).toList = label.toList ++ ([' '] ++ Nat.toDigits 10 number) := by
  simp [defaultPortName, toString, Nat.repr]

theorem tidy_defaultPortName {label : String} (h : Tidy label) (number : Nat) :
    Tidy (defaultPortName label number) := by
  rw [tidy_iff, toList_defaultPortName]
  exact (tidy_iff.mp h).surround (neat_toDigits number) [' ']

theorem Language.tidy_portLabel (language : Language) : Tidy language.messages.portLabel := by
  cases language <;> decide +kernel

/-! ### Names on a walk -/

theorem Cursor.tidy_name {stem : String} (hstem : ∀ c ∈ stem.toList, isLetter c = true) (c : Cursor) :
    Tidy (c.name stem) := by
  rw [tidy_iff, toList_name]
  apply neat_of_forall
  · simp
  · intro d hd
    rcases List.mem_append.mp hd with hd | hd
    · exact not_blank_of_letter (hstem d hd)
    · rcases List.mem_append.mp hd with hd | hd
      · exact not_blank_of_decimal (Digits.toDigits c.row d hd)
      · rcases List.mem_cons.mp hd with rfl | hd
        · decide
        · exact not_blank_of_decimal (Digits.toDigits c.col d hd)

/-! ### Rendered templates -/

theorem fill_append (f : Marker → List Char) (ps qs : List Piece) : fill f (ps ++ qs) = fill f ps ++ fill f qs :=
  List.flatMap_append

theorem Piece.text_ne_nil {f : Marker → List Char} (hf : ∀ m, Neat (f m)) (p : Piece) : p.text f ≠ [] := by
  cases p with
  | char c => exact List.cons_ne_nil c []
  | marker m => exact (hf m).ne_nil

/-- Neat texts in place of the markers leave a template neat. -/
theorem Neat.fill {f : Marker → List Char} (hf : ∀ m, Neat (f m)) {ps : List Piece}
    (h : Neat (PortGrid.fill Marker.text ps)) : Neat (PortGrid.fill f ps) where
  ne_nil := by
    cases ps with
    | nil => exact absurd rfl h.ne_nil
    | cons p ps => exact List.append_ne_nil_of_left_ne_nil (p.text_ne_nil hf) _
  head := by
    cases ps with
    | nil => exact absurd rfl h.ne_nil
    | cons p ps =>
      cases p with
      | char c => exact h.head
      | marker m =>
        rw [fill_marker, List.head?_append_of_ne_nil _ (hf m).ne_nil]
        exact (hf m).head
  last := by
    -- The last character is that of the last piece.
    rcases List.eq_nil_or_concat ps with rfl | ⟨ps, p, rfl⟩
    · exact absurd rfl h.ne_nil
    · have hlast := h.last
      rw [List.concat_eq_append, fill_append] at hlast ⊢
      cases p with
      | char c =>
        have hchar : ∀ g : Marker → List Char, PortGrid.fill g [.char c] = [c] := fun _ => rfl
        rw [hchar, List.getLast?_append_of_ne_nil _ (List.cons_ne_nil c [])] at hlast ⊢
        exact hlast
      | marker m =>
        have hmarker : PortGrid.fill f [.marker m] = f m := List.append_nil _
        rw [hmarker, List.getLast?_append_of_ne_nil _ (hf m).ne_nil]
        exact (hf m).last

/-- A rendered template is tidy if the template is. -/
theorem tidy_renderTemplate {text : String} (h : Tidy text) (p : Position) : Tidy (renderTemplate text p) := by
  have hdigits : ∀ m, Neat (p.digits m) := by
    intro m
    cases m <;> exact neat_toDigits _
  rw [renderTemplate_eq_fill, tidy_ofList_iff]
  apply Neat.fill hdigits
  rw [fill_pieces]
  exact tidy_iff.mp h

/-! ### Patterns -/

namespace NamePattern

/-- The texts of which a pattern is made: a tidy template, or letters in front of the numbers. -/
def Sound : NamePattern → Prop
  | template text => Tidy text
  | range stem .. => ∀ c ∈ stem.toList, isLetter c = true
  | increment stem _ => ∀ c ∈ stem.toList, isLetter c = true

/-- What is read as a pattern is made of such texts. -/
theorem sound_of_parse {input : String} {pattern : NamePattern} (h : parse input = .ok pattern) : pattern.Sound := by
  rcases parse_cases input with ⟨-, hp⟩ | ⟨hmarker, hp⟩ | ⟨-, -, hp⟩
  · rw [hp] at h
    cases h
  · rw [hp] at h
    cases h
    have htrims := trims_trimChars input.toList
    have hne : patternText input ≠ [] := fun hnil => not_holdsMarker_nil (hnil ▸ hmarker)
    exact tidy_ofList_iff.mpr ⟨hne, htrims.head, htrims.last⟩
  · rw [hp] at h
    split at h
    · rename_i numbered hnumbered
      cases h
      obtain ⟨w, -, hw⟩ := ofNumbered?_eq_some_iff.mp hnumbered
      cases hw with
      | increment hstem _ => simpa [Sound] using hstem.letters
      | range hstem _ _ _ _ => simpa [Sound] using hstem.letters
    · cases h

/-- **The names that a pattern gives are tidy.** -/
theorem tidy_assign {pattern : NamePattern} (h : pattern.Sound) {ports : List Port} {pair : PortId × String}
    (hpair : pair ∈ (pattern.assign ports).pairs) : Tidy pair.2 := by
  cases pattern with
  | template text =>
    obtain ⟨port, -, rfl⟩ := List.mem_map.mp hpair
    exact tidy_renderTemplate h port.position
  | range stem start stop =>
    rw [assign, rangeNames_eq_walk] at hpair
    obtain ⟨_, _, _, _, rfl⟩ := mem_walk_iff.mp hpair
    exact Cursor.tidy_name h _
  | increment stem start =>
    rw [assign, incrementNames_eq_walk] at hpair
    obtain ⟨_, _, _, _, rfl⟩ := mem_walk_iff.mp hpair
    exact Cursor.tidy_name h _

end NamePattern

theorem tidy_assignNames {pattern : String} {ports : List Port} {names : Names}
    (h : assignNames pattern ports = .ok names) {id : PortId} {name : String} (hname : names.get? id = some name) :
    Tidy name := by
  unfold assignNames at h
  cases hparse : NamePattern.parse pattern with
  | error e =>
    rw [hparse] at h
    cases h
  | ok parsed =>
    rw [hparse] at h
    cases h
    exact NamePattern.tidy_assign (NamePattern.sound_of_parse hparse) (Names.mem_pairs_of_get? hname)

end PortGrid
