import PortGrid.Proofs.Snapshot

/-!
# Other texts that load as a state

A stored text need not be the one that was written. The members of its objects may stand in any order and among members
of unknown names, there may be white space between its tokens, and members of the state and of its filter may be
missing. Such a text loads as the state with defaults for what is missing.

Key definition: `Document.LooseText`.
Key theorem: `State.ofSnapshot_looseText`.
-/

namespace PortGrid

open Json Json.Document

/-- The text is a loose one of the document, with white space around. -/
def Json.Document.LooseText (d : Document) (text : String) : Prop :=
  ∃ before cs after, Spaces before ∧ Loosely d cs ∧ Spaces after ∧ text = String.ofList (before ++ cs ++ after)

namespace State

/-- **Loading is tolerant.** The snapshot of a state is the compact text of its document; and whatever members the state
and its filter lack, each loose text of what is left of the document loads as the state with defaults in their
places. -/
theorem ofSnapshot_looseText (s : State) :
    String.ofList (s.document [] []).compact = s.snapshot ∧
      ∀ (dropped filterDropped : List String) (text : String), (s.document dropped filterDropped).LooseText text →
        ofSnapshot text = .ok (s.without dropped filterDropped) := by
  refine ⟨congrArg String.ofList s.compact_document, fun dropped filterDropped text htext => ?_⟩
  obtain ⟨before, cs, after, hbefore, hcs, hafter, rfl⟩ := htext
  exact (s.reads dropped filterDropped cs hcs).all hbefore hafter String.toList_ofList

end State

/-- A state with a filter, a dark display and another language than the default. -/
def darkLab : State := { filter := ⟨"lab", some "A", none⟩, isDark := true, language := .english }

/-- What is left of it without its devices, its selection, its language and the location of its filter, in another
order, with white space and with two members of other names, one of which is spelled by an escape. -/
def scrambledLab : String :=
  "\x7b \"isDarkMode\" : true,\"\\u0078\":[1e3,null],\n\"filterOptions\":\x7b\"no\":\x7b\x7d,\"search\":\"lab\"\x7d\x7d "

theorem looseText_scrambledLab :
    (darkLab.document ["equipments", "selectedEquipmentId", "language"] ["location"]).LooseText scrambledLab := by
  have hspace : Spaces [' '] := by simp [Spaces, isSpace]
  have hline : Spaces ['\n'] := by simp [Spaces, isSpace]
  have hx : SpellsChars "x".toList ['\\', 'u', '0', '0', '7', '8'] := by
    have hdigits : FourDigits ['0', '0', '7', '8'] 'x'.toNat :=
      .intro (hexDigit_digitChar (v := 0) (by decide)) (hexDigit_digitChar (v := 0) (by decide))
        (hexDigit_digitChar (v := 7) (by decide)) (hexDigit_digitChar (v := 8) (by decide))
    exact .cons (.unit hdigits) .nil
  have hno : SpellsChars "no".toList _ := spellsChars_written _
  have hthousand : Numeral ['1', 'e', '3'] := by
    have hone : Run ['1'] := ⟨by decide, by simp [Digits]⟩
    have hthree : Run ['3'] := ⟨by decide, by simp [Digits]⟩
    exact .intro List.mem_cons_self (.inr ⟨hone, by decide⟩) .none (.digits (.inl rfl) List.mem_cons_self hthree)
  have hlist := Value.list
    (.next separator_nil (.number hthousand) (.next separator_comma .null (.close spaces_nil)))
  have hobject := Value.object (.close spaces_nil)
  have hfilter : Loosely (darkLab.filter.document.without ["location"]) _ :=
    .object (List.Perm.refl _)
      (.unknown separator_nil (by decide) hno spaces_nil spaces_nil hobject
        (.next separator_comma spaces_nil spaces_nil (.token _) (.close spaces_nil)))
  exact ⟨[], _, [' '], spaces_nil,
    .object (List.reverse_perm _)
      (.next (.first hspace) hspace hspace (.token _)
        (.unknown separator_comma (by decide) hx spaces_nil spaces_nil hlist
          (.next (.comma spaces_nil hline) spaces_nil spaces_nil hfilter (.close spaces_nil)))),
    hspace, rfl⟩

/-- It loads with the text alone for its filter, and in Korean. -/
theorem ofSnapshot_scrambledLab :
    (darkLab.document ["equipments", "selectedEquipmentId", "language"] ["location"]).LooseText scrambledLab ∧
      State.ofSnapshot scrambledLab = .ok { filter := ⟨"lab", none, none⟩, isDark := true } :=
  ⟨looseText_scrambledLab, darkLab.ofSnapshot_looseText.2 _ _ _ looseText_scrambledLab⟩

end PortGrid
