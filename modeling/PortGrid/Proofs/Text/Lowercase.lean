import Mathlib.Data.List.Forall2
import PortGrid.Proofs.Text.Classes
import PortGrid.Text.Lowercase

/-!
# Lower case in context

A character is lowered by itself, but for a capital sigma, which looks at what stands around it. So a piece of a longer
text has there the lower case that it has by itself exactly if each of its sigmas ends a word in both places or in
neither.

An ASCII letter has the same lower case in either case, it is cased and it is not passed over. Texts that differ in the
case of ASCII letters alone therefore look the same to every sigma in them, and have the same lower case.

Key definitions: `lowerAt`, `lowerWithin`, `EndsAlike`, `Alike`, `switchCase`, `Recased`.
Key theorems: `lowerWithin_append`, `lowerWithin_eq_iff`, `EndsAlike.infix_lowerChars`, `lowerChars_congr`,
`alike_switchCase`, `Recased.lowerChars_eq`.
-/

namespace PortGrid
namespace Text

/-! ### Pieces of a text -/

/-- The lower case of a character, given those before it, nearest first, and those after it. -/
def lowerAt (before after : List Char) (c : Char) : List Char :=
  if c = 'Σ' then (if endsWord before after then ['ς'] else ['σ']) else lowerChar c

/-- The lower case of a piece of text, given the characters before it, nearest first, and those after it. -/
def lowerWithin (before after : List Char) : List Char → List Char
  | [] => []
  | c :: cs => lowerAt before (cs ++ after) c ++ lowerWithin (c :: before) after cs

variable {before before' after after' : List Char}

theorem lowerAfter_eq_lowerWithin : ∀ (before cs : List Char), lowerAfter before cs = lowerWithin before [] cs
  | _, [] => rfl
  | before, c :: cs => by
    rw [lowerAfter, lowerWithin, lowerAfter_eq_lowerWithin, List.append_nil, lowerAt]

theorem lowerChars_eq_lowerWithin (cs : List Char) : lowerChars cs = lowerWithin [] [] cs :=
  lowerAfter_eq_lowerWithin [] cs

/-- A piece is lowered part by part, each part with the other one beside it. -/
theorem lowerWithin_append (after : List Char) : ∀ before cs ds : List Char, lowerWithin before after (cs ++ ds) =
    lowerWithin before (ds ++ after) cs ++ lowerWithin (cs.reverse ++ before) after ds
  | _, [], _ => rfl
  | before, c :: cs, ds => by
    rw [List.cons_append, lowerWithin, lowerWithin, lowerWithin_append after (c :: before) cs ds, List.append_assoc,
      List.append_assoc, List.reverse_cons, List.append_assoc, List.singleton_append]

/-- A character has the same lower case in two places unless it is a sigma that ends a word in one of them only. -/
theorem lowerAt_eq_iff {c : Char} : lowerAt before after c = lowerAt before' after' c ↔
    (c = 'Σ' → endsWord before after = endsWord before' after') := by
  unfold lowerAt
  by_cases hc : c = 'Σ'
  · simp only [hc, if_true, true_imp_iff]
    cases endsWord before after <;> cases endsWord before' after' <;> decide
  · simp [hc]

theorem length_lowerAt (before before' after after' : List Char) (c : Char) :
    (lowerAt before after c).length = (lowerAt before' after' c).length := by
  unfold lowerAt
  by_cases hc : c = 'Σ'
  · simp only [hc, if_true]
    cases endsWord before after <;> cases endsWord before' after' <;> rfl
  · simp [hc]

/-- **A piece has the same lower case in two places** exactly if each of its sigmas ends a word in both or in neither. -/
theorem lowerWithin_eq_iff : ∀ {before before' cs : List Char},
    lowerWithin before after cs = lowerWithin before' after' cs ↔ ∀ i, cs[i]? = some 'Σ' →
      endsWord ((cs.take i).reverse ++ before) (cs.drop (i + 1) ++ after) =
        endsWord ((cs.take i).reverse ++ before') (cs.drop (i + 1) ++ after')
  | before, before', [] => by simp [lowerWithin]
  | before, before', c :: cs => by
    have hsplit : lowerWithin before after (c :: cs) = lowerWithin before' after' (c :: cs) ↔
        lowerAt before (cs ++ after) c = lowerAt before' (cs ++ after') c ∧
          lowerWithin (c :: before) after cs = lowerWithin (c :: before') after' cs := by
      rw [lowerWithin, lowerWithin]
      constructor
      · intro h
        exact List.append_inj h (length_lowerAt _ _ _ _ c)
      · rintro ⟨hhead, htail⟩
        rw [hhead, htail]
    -- What stands before a later character is the first one behind what stands before the piece.
    have hlater : ∀ (i : Nat) (around : List Char),
        ((c :: cs).take (i + 1)).reverse ++ around = (cs.take i).reverse ++ c :: around := by
      intro i around
      rw [List.take_succ_cons, List.reverse_cons, List.append_assoc, List.singleton_append]
    rw [hsplit, lowerAt_eq_iff, lowerWithin_eq_iff]
    constructor
    · rintro ⟨hhead, htail⟩ i hi
      cases i with
      | zero => exact hhead (Option.some.inj hi)
      | succ i =>
        rw [hlater, hlater]
        exact htail i hi
    · intro h
      refine ⟨fun hc => h 0 (congrArg some hc), fun i hi => ?_⟩
      have hbehind := h (i + 1) hi
      rwa [hlater, hlater] at hbehind

/-- Each sigma of the piece ends a word in the longer text if it ends one in the piece by itself, and only then. -/
def EndsAlike (before cs after : List Char) : Prop :=
  ∀ i < cs.length, cs[i]? = some 'Σ' →
    endsWord ((cs.take i).reverse ++ before.reverse) (cs.drop (i + 1) ++ after) =
      endsWord (cs.take i).reverse (cs.drop (i + 1))

instance (before cs after : List Char) : Decidable (EndsAlike before cs after) :=
  inferInstanceAs (Decidable (∀ i < cs.length, cs[i]? = some 'Σ' → _ = _))

/-- A piece has in a longer text the lower case that it has by itself exactly if its sigmas end words alike. -/
theorem lowerWithin_eq_lowerChars_iff {before cs after : List Char} :
    lowerWithin before.reverse after cs = lowerChars cs ↔ EndsAlike before cs after := by
  rw [lowerChars_eq_lowerWithin, lowerWithin_eq_iff]
  simp only [List.append_nil]
  constructor
  · exact fun h i _ hi => h i hi
  · exact fun h i hi => h i (List.getElem?_eq_some_iff.mp hi).1 hi

theorem EndsAlike.infix_lowerChars {before cs after : List Char} (h : EndsAlike before cs after) :
    lowerChars cs <:+: lowerChars (before ++ cs ++ after) := by
  refine ⟨lowerWithin [] (cs ++ after) before, lowerWithin (cs.reverse ++ before.reverse) [] after, ?_⟩
  rw [lowerChars_eq_lowerWithin (before ++ cs ++ after), lowerWithin_append, lowerWithin_append,
    ← lowerWithin_eq_lowerChars_iff.mpr h, List.reverse_append, List.append_nil, List.append_nil, List.append_nil]

/-! ### Texts that look alike to a sigma -/

/-- The characters have the same lower case, and so has whatever stands beside the one or the other. -/
structure Alike (c d : Char) : Prop where
  lower : lowerChar d = lowerChar c
  cased : isCased d = isCased c
  ignorable : isCaseIgnorable d = isCaseIgnorable c
  sigma : d = 'Σ' ↔ c = 'Σ'

theorem Alike.refl (c : Char) : Alike c c := ⟨rfl, rfl, rfl, Iff.rfl⟩

theorem Alike.symm {c d : Char} (h : Alike c d) : Alike d c :=
  ⟨h.lower.symm, h.cased.symm, h.ignorable.symm, h.sigma.symm⟩

variable {cs ds : List Char}

theorem nearestIsCased_congr (h : List.Forall₂ Alike cs ds) : nearestIsCased ds = nearestIsCased cs := by
  unfold nearestIsCased
  induction h with
  | nil => rfl
  | @cons c d cs ds hcd _ ih =>
    rw [List.dropWhile_cons, List.dropWhile_cons, hcd.ignorable]
    by_cases hc : isCaseIgnorable c = true
    · rw [if_pos hc, if_pos hc]
      exact ih
    · rw [if_neg hc, if_neg hc]
      exact hcd.cased

theorem endsWord_congr (hbefore : List.Forall₂ Alike before before') (hafter : List.Forall₂ Alike after after') :
    endsWord before' after' = endsWord before after := by
  rw [endsWord, endsWord, nearestIsCased_congr hbefore, nearestIsCased_congr hafter]

theorem lowerAfter_congr (h : List.Forall₂ Alike cs ds) : ∀ {before before' : List Char},
    List.Forall₂ Alike before before' → lowerAfter before' ds = lowerAfter before cs := by
  induction h with
  | nil => exact fun _ => rfl
  | cons hcd hrest ih =>
    intro before before' hbefore
    rw [lowerAfter, lowerAfter, ih (.cons hcd hbefore), endsWord_congr hbefore hrest, hcd.lower]
    simp only [hcd.sigma]

/-- Texts whose characters are alike have the same lower case. -/
theorem lowerChars_congr (h : List.Forall₂ Alike cs ds) : lowerChars ds = lowerChars cs :=
  lowerAfter_congr h .nil

/-! ### The case of ASCII letters -/

/-- An ASCII letter in the other case; any other character as it is. -/
def switchCase (c : Char) : Char :=
  if c.isUpper then c.toLower else c.toUpper

/-- The second text is the first with the case of some of its ASCII letters switched. -/
def Recased (s t : String) : Prop :=
  List.Forall₂ (fun c d => d = c ∨ d = switchCase c) s.toList t.toList

instance (s t : String) : Decidable (Recased s t) :=
  inferInstanceAs (Decidable (List.Forall₂ (fun c d => d = c ∨ d = switchCase c) s.toList t.toList))

/-- The code points of the ASCII letters, first the capital ones. -/
def asciiLetterRanges : Ranges := [(0x0041, 0x005A), (0x0061, 0x007A)]

theorem of_asciiLetter {c : Char} (h : asciiLetterRanges.contains c = true) :
    isCased c = true ∧ isCaseIgnorable c = false ∧ c ≠ 'Σ' := by
  have hdisjoint : caseIgnorableRanges.disjoint asciiLetterRanges = true := by decide +kernel
  refine ⟨?_, Ranges.contains_of_disjoint hdisjoint h, ?_⟩
  · -- The cased characters begin with the ASCII letters.
    unfold Ranges.contains asciiLetterRanges at h
    unfold isCased Ranges.contains casedRanges
    rw [List.any_cons, List.any_cons, ← Bool.or_assoc]
    rw [List.any_cons, List.any_cons, ← Bool.or_assoc, List.any_nil, Bool.or_false] at h
    rw [h, Bool.true_or]
  · rintro rfl
    exact absurd h (by decide)

theorem lowerChar_of_lower {c : Char} (h : 97 ≤ c.toNat ∧ c.toNat ≤ 122) : lowerChar c = [c] := by
  have hruns : caseRuns.all (fun run => run.last < 97 || 122 < run.first) = true := by decide +kernel
  have hnone : caseRuns.find? (·.covers c.toNat) = none := by
    rw [List.find?_eq_none]
    intro run hrun hcovers
    have hoff := List.all_eq_true.mp hruns run hrun
    simp only [CaseRun.covers, Bool.and_eq_true, Bool.or_eq_true, decide_eq_true_eq] at hoff hcovers
    omega
  have hdot : c ≠ 'İ' := by
    rintro rfl
    exact absurd h (by decide)
  rw [lowerChar, if_neg hdot, hnone]

theorem lowerChar_of_upper {c : Char} (h : 65 ≤ c.toNat ∧ c.toNat ≤ 90) :
    lowerChar c = [Char.ofNat (c.toNat + 32)] := by
  have hfirst : caseRuns.find? (·.covers c.toNat) = some ⟨0x0041, 0x005A, 1, 32⟩ := by
    unfold caseRuns
    rw [List.find?_cons_of_pos]
    simp [CaseRun.covers, h, Nat.mod_one]
  have hdot : c ≠ 'İ' := by
    rintro rfl
    exact absurd h (by decide)
  rw [lowerChar, if_neg hdot, hfirst]
  rfl

theorem alike_upper {c d : Char} (h : 65 ≤ c.toNat ∧ c.toNat ≤ 90) (hd : d.toNat = c.toNat + 32) : Alike c d := by
  have hupper : asciiLetterRanges.contains c = true := by simp [Ranges.contains, asciiLetterRanges, h]
  have hlower : asciiLetterRanges.contains d = true := by
    simp only [Ranges.contains, asciiLetterRanges, List.any_cons, List.any_nil, Bool.or_eq_true, Bool.and_eq_true,
      decide_eq_true_eq]
    omega
  obtain ⟨hcased, hignorable, hsigma⟩ := of_asciiLetter hupper
  obtain ⟨hcased', hignorable', hsigma'⟩ := of_asciiLetter hlower
  refine ⟨?_, hcased'.trans hcased.symm, hignorable'.trans hignorable.symm, iff_of_false hsigma' hsigma⟩
  rw [lowerChar_of_upper h, lowerChar_of_lower (by omega), ← hd, Char.ofNat_toNat]

theorem toNat_toLower {c : Char} (h : c.isUpper = true) :
    (65 ≤ c.toNat ∧ c.toNat ≤ 90) ∧ c.toLower.toNat = c.toNat + 32 := by
  have hrange := isUpper_iff.mp h
  have hnat : 65 ≤ c.toNat ∧ c.toNat ≤ 90 :=
    ⟨UInt32.le_iff_toNat_le.mp hrange.1, UInt32.le_iff_toNat_le.mp hrange.2⟩
  refine ⟨hnat, ?_⟩
  unfold Char.toLower
  rw [dif_pos hrange]
  show (c.val + 32).toNat = c.val.toNat + 32
  rw [UInt32.toNat_add]
  exact Nat.mod_eq_of_lt (Nat.lt_of_le_of_lt (Nat.add_le_add_right hnat.2 32) (by decide))

theorem toNat_toUpper {c : Char} (h : c.isLower = true) :
    (65 ≤ c.toUpper.toNat ∧ c.toUpper.toNat ≤ 90) ∧ c.toNat = c.toUpper.toNat + 32 := by
  have hrange := isLower_iff.mp h
  have hnat : 97 ≤ c.toNat ∧ c.toNat ≤ 122 :=
    ⟨UInt32.le_iff_toNat_le.mp hrange.1, UInt32.le_iff_toNat_le.mp hrange.2⟩
  have hupper : c.toUpper.toNat = c.toNat - 32 := by
    unfold Char.toUpper
    rw [dif_pos hrange]
    -- Going back is going on around the end.
    show (c.val + 4294967264).toNat = c.val.toNat - 32
    have hval : 97 ≤ c.val.toNat ∧ c.val.toNat ≤ 122 := hnat
    rw [UInt32.toNat_add, show (4294967264 : UInt32).toNat = 4294967264 from rfl]
    omega
  omega

/-- **The two cases of an ASCII letter are alike.** -/
theorem alike_switchCase (c : Char) : Alike c (switchCase c) := by
  unfold switchCase
  by_cases hupper : c.isUpper = true
  · obtain ⟨hrange, hlower⟩ := toNat_toLower hupper
    rw [if_pos hupper]
    exact alike_upper hrange hlower
  · rw [if_neg hupper]
    by_cases hlower : c.isLower = true
    · obtain ⟨hrange, hupper⟩ := toNat_toUpper hlower
      exact (alike_upper hrange hupper).symm
    · have hsame : c.toUpper = c := dif_neg (mt isLower_iff.mpr hlower)
      rw [hsame]
      exact .refl c

theorem Recased.lowerChars_eq {s t : String} (h : Recased s t) : lowerChars t.toList = lowerChars s.toList := by
  apply lowerChars_congr
  apply h.imp
  rintro c d (rfl | rfl)
  · exact .refl d
  · exact alike_switchCase c

theorem Recased.isEmpty_eq {s t : String} (h : Recased s t) : t.isEmpty = s.isEmpty := by
  have hlength := h.length_eq
  rw [String.length_toList, String.length_toList] at hlength
  rw [Bool.eq_iff_iff, String.isEmpty_iff, String.isEmpty_iff, ← String.length_eq_zero_iff,
    ← String.length_eq_zero_iff, hlength]

end Text
end PortGrid
