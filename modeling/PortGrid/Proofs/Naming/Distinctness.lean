import PortGrid.Proofs.Grid
import PortGrid.Proofs.Naming.Names
import PortGrid.Proofs.Naming.Template
import PortGrid.Proofs.Naming.Walk

/-!
# Ports named at once are named differently

A batch rename gives no two ports the same name. On a walk this holds for ports in any order and in any places, since
no name comes back. A template that writes the row and the column apart from what follows gives different names to
ports in different places, since their names give the digits back.

Key definition: `NamePattern.Distinguishes`.
Key theorems: `renderTemplate_injective`, `NamePattern.assign_ne`.
-/

namespace PortGrid

/-! ### Templates -/

/-- A template that holds both markers, each apart from what follows, is rendered differently at different places. -/
theorem renderTemplate_injective {text : String} (hholds : ∀ m : Marker, m.text <:+: text.toList)
    (hsep : Separated text.toList) : Function.Injective (renderTemplate text) := by
  intro p q h
  rw [renderTemplate_eq_fill, renderTemplate_eq_fill] at h
  have hdigits : ∀ m, p.digits m = q.digits m := fun m =>
    fill_unique hsep.apart p.digits_digits q.digits_digits (String.ofList_injective h) (mem_pieces (hholds m))
  have hrow := toDigits_injective (hdigits .row)
  have hcol := toDigits_injective (hdigits .col)
  exact Position.ext_toNat (by omega) (by omega)

-- Without the separation the digits of the row run into those of the column.
example : renderTemplate "{row}{col}" ⟨0, 10⟩ = renderTemplate "{row}{col}" ⟨10, 0⟩ := by decide +kernel

/-! ### Patterns -/

namespace NamePattern

/-- Every range and every increment tells ports apart; a template does if it holds both markers, each apart from what
follows. -/
def Distinguishes : NamePattern → Prop
  | template text => (∀ m : Marker, m.text <:+: text.toList) ∧ Separated text.toList
  | range .. => True
  | increment .. => True

/-- **No two ports get the same name.** Of ports with different identifiers in different places, any two that a pattern
which tells ports apart gives names to get different names. -/
theorem assign_ne {pattern : NamePattern} (hpattern : pattern.Distinguishes) {ports : List Port}
    (hids : (ports.map (·.id)).Nodup) (hplaces : (ports.map (·.position)).Nodup) {p q : Port} (hp : p ∈ ports)
    (hq : q ∈ ports) (hne : p ≠ q) {m n : String} (hm : (pattern.assign ports).get? p.id = some m)
    (hn : (pattern.assign ports).get? q.id = some n) : m ≠ n := by
  rintro rfl
  refine hne (List.inj_on_of_nodup_map hids hp hq ?_)
  -- A template gives its position back, and a walk does not come back to a name.
  cases pattern with
  | template text =>
    obtain ⟨hholds, hsep⟩ := hpattern
    have hrender : ∀ r ∈ ports, (assign (.template text) ports).get? r.id = some m →
        renderTemplate text r.position = m := by
      intro r hr h
      obtain ⟨r', hr', hpair⟩ := List.mem_map.mp (Names.mem_pairs_of_get? h)
      obtain ⟨hid, rfl⟩ := Prod.mk.inj hpair
      rw [List.inj_on_of_nodup_map hids hr' hr hid]
    have hplace := renderTemplate_injective hholds hsep ((hrender p hp hm).trans (hrender q hq hn).symm)
    rw [List.inj_on_of_nodup_map hplaces hp hq hplace]
  | range stem start stop =>
    refine Names.id_unique ?_ hm hn
    rw [assign, rangeNames_eq_walk]
    exact walk_names_nodup (Cursor.before_nextInRange _ _) _
  | increment stem start =>
    refine Names.id_unique ?_ hm hn
    rw [assign, incrementNames_eq_walk]
    exact walk_names_nodup Cursor.before_nextInIncrement _

/-- Ports in places that swap their row and their column. -/
def swapped : List Port := [.fresh ⟨"a"⟩ "" ⟨0, 10⟩, .fresh ⟨"b"⟩ "" ⟨10, 0⟩]

/-- With a slash between the markers they get different names. -/
theorem assign_ne_swapped :
    ((template "{row}/{col}").assign swapped).get? ⟨"a"⟩ = some "1/11" ∧
      ((template "{row}/{col}").assign swapped).get? ⟨"b"⟩ = some "11/1" ∧ "1/11" ≠ "11/1" := by
  have hpattern : (template "{row}/{col}").Distinguishes := ⟨by decide +kernel, by decide +kernel⟩
  have ha : ((template "{row}/{col}").assign swapped).get? ⟨"a"⟩ = some "1/11" := by decide +kernel
  have hb : ((template "{row}/{col}").assign swapped).get? ⟨"b"⟩ = some "11/1" := by decide +kernel
  exact ⟨ha, hb, assign_ne hpattern (by decide) (by decide) (p := .fresh ⟨"a"⟩ "" ⟨0, 10⟩)
    (q := .fresh ⟨"b"⟩ "" ⟨10, 0⟩) List.mem_cons_self (List.mem_cons_of_mem _ List.mem_cons_self) (by decide) ha hb⟩

end NamePattern
end PortGrid
