import PortGrid.Filter
import PortGrid.Proofs.Equipment.Resizing
import PortGrid.Proofs.Text.Lowercase
import PortGrid.Proofs.Text.Reading

/-!
# Searching the list of equipment

A search goes through the name, the location and the type of a device, and lets the device through if the lower case of
the searched text is a piece of the lower case of one of them. A text that stands there literally is found where it
stands, provided that its sigmas end words there as they do in the searched text: a word that goes on behind the last
sigma of the searched text may hide it. In which case ASCII letters are written does not matter on either side.

Key definitions: `FilterOptions.searching`, `Equipment.texts`.
Key theorems: `FilterOptions.accepts_searching_iff`, `FilterOptions.accepts_literal`, `FilterOptions.accepts_recased`.
-/

namespace PortGrid

open Text

theorem foundIn_iff {search : String} {field : Option String} :
    foundIn search field = true ↔ ∃ value ∈ field, lowerChars search.toList <:+: lowerChars value.toList := by
  cases field with
  | none => simp [foundIn]
  | some value => simp [foundIn, occursIn_iff]

/-- The texts of a device in which a search looks. -/
def Equipment.texts (e : Equipment) : List String := e.name :: (e.location.toList ++ e.kind.toList)

namespace FilterOptions

/-- The filter that asks for a text and for nothing else. -/
def searching (text : String) : FilterOptions := { search := text }

theorem accepts_searching (text : String) (e : Equipment) :
    (searching text).accepts e = (searching text).searchAccepts e := by
  simp [accepts, searching]

theorem accepts_searching_iff {text : String} {e : Equipment} : (searching text).accepts e = true ↔
    text = "" ∨ ∃ value ∈ e.texts, lowerChars text.toList <:+: lowerChars value.toList := by
  have htexts : (∃ value ∈ e.texts, lowerChars text.toList <:+: lowerChars value.toList) ↔
      foundIn text (some e.name) = true ∨ foundIn text e.location = true ∨ foundIn text e.kind = true := by
    simp only [foundIn_iff, Equipment.texts, List.mem_cons, List.mem_append, Option.mem_toList, or_and_right,
      exists_or, Option.mem_def, Option.some.injEq, exists_eq_left', exists_eq_left]
  rw [accepts_searching, searchAccepts, htexts]
  simp only [searching, Bool.or_eq_true, String.isEmpty_iff, or_assoc]

/-! ### Literal occurrences -/

/-- **What stands in a text literally is found there**, if its sigmas end words there as they do in the searched text.
So the device is selected from every list. -/
theorem accepts_literal {text value : String} {e : Equipment} (hvalue : value ∈ e.texts) {before after : List Char}
    (hsplit : value.toList = before ++ text.toList ++ after) (hends : EndsAlike before text.toList after) :
    (searching text).accepts e = true ∧ ∀ es, e ∈ es → e ∈ (searching text).select es := by
  have haccepts : (searching text).accepts e = true := by
    rw [accepts_searching_iff]
    refine .inr ⟨value, hvalue, ?_⟩
    rw [hsplit]
    exact hends.infix_lowerChars
  exact ⟨haccepts, fun es he => List.mem_filter.mpr ⟨he, haccepts⟩⟩

end FilterOptions

/-- A row of two ports under the given name, which is all that there is to be found of it. -/
def nameOnly (name : String) : Equipment := { Equipment.rowOfTwo with name := name }

namespace FilterOptions

/-- The end of a word is found where a number follows it. -/
theorem accepts_literal_wordEnd : (searching "ΔΟΣ").accepts (nameOnly "ΟΔΟΣ-1") = true ∧
    nameOnly "ΟΔΟΣ-1" ∈ (searching "ΔΟΣ").select [nameOnly "ΟΔΟΣ-1"] := by
  have hvalue : "ΟΔΟΣ-1" ∈ (nameOnly "ΟΔΟΣ-1").texts := List.mem_cons_self
  have hsplit : "ΟΔΟΣ-1".toList = ['Ο'] ++ "ΔΟΣ".toList ++ ['-', '1'] := by decide +kernel
  have hends : EndsAlike ['Ο'] "ΔΟΣ".toList ['-', '1'] := by decide +kernel
  obtain ⟨haccepts, hselect⟩ := accepts_literal hvalue hsplit hends
  exact ⟨haccepts, hselect _ List.mem_cons_self⟩

/-- The beginning of a word is not found if its last letter is a sigma: it ends the searched text, but not the word. -/
theorem not_accepts_wordBeginning : "ΑΣ".toList <:+: "ΑΣΑ".toList ∧
    (searching "ΑΣ").accepts (nameOnly "ΑΣΑ") = false := by
  decide +kernel

/-! ### ASCII letters of either case -/

theorem foundIn_recased {search search' : String} (hsearch : Recased search search') {field field' : Option String}
    (hfield : Option.Rel Recased field field') : foundIn search' field' = foundIn search field := by
  cases hfield with
  | none => rfl
  | some hvalue => rw [foundIn, foundIn, hsearch.lowerChars_eq, hvalue.lowerChars_eq]

/-- **A search does not look at the case of ASCII letters**, whatever else stands in the searched text and in the texts
of the device: switching some of them here and some of them there changes nothing. -/
theorem accepts_recased {text text' : String} (htext : Recased text text') {e e' : Equipment}
    (hname : Recased e.name e'.name) (hlocation : Option.Rel Recased e.location e'.location)
    (hkind : Option.Rel Recased e.kind e'.kind) :
    (searching text').accepts e' = (searching text).accepts e := by
  rw [accepts_searching, accepts_searching, searchAccepts, searchAccepts]
  simp only [searching, htext.isEmpty_eq, foundIn_recased htext (.some hname), foundIn_recased htext hlocation,
    foundIn_recased htext hkind]

/-- In a word of Greek and Latin letters, of which the last sigma is followed by a Latin one, the case of the Latin
letters does not matter. -/
theorem accepts_recased_mixedScripts : Recased "bΣa" "BΣA" ∧ Recased "AbΣAς" "ABΣaς" ∧
    (searching "BΣA").accepts (nameOnly "ABΣaς") = (searching "bΣa").accepts (nameOnly "AbΣAς") := by
  have htext : Recased "bΣa" "BΣA" := by decide +kernel
  have hname : Recased (nameOnly "AbΣAς").name (nameOnly "ABΣaς").name := by decide +kernel
  exact ⟨htext, hname, accepts_recased htext hname .none .none⟩

end FilterOptions
end PortGrid
