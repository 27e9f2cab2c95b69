import PortGrid.Proofs.Naming.Template

/-!
# Templates in one pass

A template is rendered in two passes, one for each marker. They come to the same as one pass from left to right, which
copies the template and puts digits in where it meets a marker. The passes may also be done the other way round, and
nothing that looks like a marker is left behind: what is put in consists of digits, so that no marker begins in it, and
none that begins in front of it goes on into it.

Key definition: `substitute`.
Key theorems: `substitute_eq_fill`, `not_infix_fill`, `renderTemplate_eq_substitute`.
-/

namespace PortGrid

/-- The text with each marker, where it is met from left to right, replaced by what stands for it. -/
def substitute (f : Marker → List Char) : List Char → List Char
  | '{' :: 'r' :: 'o' :: 'w' :: '}' :: cs => f .row ++ substitute f cs
  | '{' :: 'c' :: 'o' :: 'l' :: '}' :: cs => f .col ++ substitute f cs
  | c :: cs => c :: substitute f cs
  | [] => []

theorem substitute_eq_fill (f : Marker → List Char) (cs : List Char) : substitute f cs = fill f (pieces cs) := by
  fun_induction substitute f cs with
  | case1 cs ih => rw [ih, pieces, fill_marker]
  | case2 cs ih => rw [ih, pieces, fill_marker]
  | case3 c cs hrow hcol ih => rw [ih, pieces.eq_3 c cs hrow hcol, fill_char]
  | case4 => rfl

/-- A text does not begin in a run without its first character, and so it stands behind the run. -/
theorem infix_of_infix_append {c : Char} {cs run rest : List Char} (h : c ∉ run) (hin : c :: cs <:+: run ++ rest) :
    c :: cs <:+: rest := by
  induction run with
  | nil => exact hin
  | cons d run ih =>
    obtain ⟨hd, hrun⟩ := not_or.mp (mt List.mem_cons.mpr h)
    rcases List.infix_cons_iff.mp hin with hfront | hbehind
    · exact absurd (List.cons_prefix_cons.mp hfront).1 hd
    · exact ih hrun hbehind

/-- With digits put in, no marker is left. -/
theorem not_infix_fill {f : Marker → List Char} (hf : ∀ k, Digits (f k)) (hne : ∀ k, f k ≠ []) {ps : List Piece}
    (hps : Plain ps) (m : Marker) : ¬ m.text <:+: fill f ps := by
  have hforeign : ∀ k, Foreign (f k) := fun k => (hf k).foreign (hne k)
  induction ps with
  | nil =>
    rw [m.text_eq]
    exact fun h => List.cons_ne_nil _ _ (List.infix_nil.mp h)
  | cons p ps ih =>
    intro h
    cases p with
    | char c =>
      rcases List.infix_cons_iff.mp h with hfront | hbehind
      · exact hps.1 m (marker_prefix_fill hforeign hfront)
      · exact ih hps.2 hbehind
    | marker n =>
      have hbrace : '{' ∉ f n := fun hmem => absurd (hf n _ hmem) (by decide)
      rw [m.text_eq] at h ih
      exact ih hps (infix_of_infix_append hbrace h)

/-- **A template is rendered in one pass.** The rendered text is the template with every marker replaced, from left to
right, by the row or the column counted from one. Replacing the columns before the rows gives the same, and neither
marker stands in the result. -/
theorem renderTemplate_eq_substitute (text : String) (p : Position) :
    renderTemplate text p = String.ofList (substitute p.digits text.toList) ∧
      String.ofList (Text.replaceAll rowMarker (p.digits .row)
        (Text.replaceAll colMarker (p.digits .col) text.toList)) = renderTemplate text p ∧
      ∀ m : Marker, ¬ m.text <:+: (renderTemplate text p).toList := by
  have hmn : Marker.col ≠ Marker.row := by decide
  rw [renderTemplate_eq_fill, String.toList_ofList]
  refine ⟨?_, ?_, ?_⟩
  · rw [substitute_eq_fill]
  · exact congrArg String.ofList (replaceAll_replaceAll hmn p.digits_digits p.digits_ne_nil text.toList)
  · exact not_infix_fill p.digits_digits p.digits_ne_nil (plain_pieces _)

-- A marker in pieces around another one is not completed by what is put in.
example : renderTemplate "{c{row}ol}{{col}ow}" ⟨0, 4⟩ = "{c1ol}{5ow}" := by decide +kernel

end PortGrid
