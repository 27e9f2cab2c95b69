import Mathlib.Data.List.Basic
import PortGrid.Proofs.Text.Reading
import PortGrid.Text.Blank
import PortGrid.Text.Letter

/-!
# Letters, digits and blanks

No blank is a digit, and no ASCII digit is a letter or a blank, so that where one of them begins a run of another is
over. A number is read exactly from the ASCII digits that write it. Trimming leaves what stands between the blanks at
the two ends of a text, and neither begins nor ends with a blank. A text is tidy if trimming leaves it as it is and it
is not empty, that is, if it has a first and a last character and neither is a blank.

Key definitions: `Ranges.disjoint`, `Writes`, `Trims`, `Tidy`, `Neat`.
Key theorems: `not_letter_of_decimal`, `not_digit_of_isBlank`, `readNumber?_eq_some_iff`, `trims_iff`, `tidy_iff`,
`trimmed_trim`, `tidy_of_trimmed?`.
-/

namespace PortGrid

namespace Text

/-! ### Disjoint classes -/

/-- No range of the one list meets a range of the other. -/
def Ranges.disjoint (rs ss : Ranges) : Bool :=
  rs.all fun r => ss.all fun s => r.2 < s.1 || s.2 < r.1

theorem Ranges.contains_of_disjoint {rs ss : Ranges} (h : rs.disjoint ss = true) {c : Char}
    (hc : ss.contains c = true) : rs.contains c = false := by
  rw [Bool.eq_false_iff]
  intro hc'
  unfold contains at hc hc'
  obtain ⟨s, hs, hsc⟩ := List.any_eq_true.mp hc
  obtain ⟨r, hr, hrc⟩ := List.any_eq_true.mp hc'
  have hdisjoint := List.all_eq_true.mp (List.all_eq_true.mp h r hr) s hs
  simp only [Bool.and_eq_true, Bool.or_eq_true, decide_eq_true_eq] at hsc hrc hdisjoint
  omega

theorem not_digit_of_isBlank {c : Char} (h : isBlank c = true) : isDigit c = false := by
  have hdisjoint : digitRanges.disjoint blankRanges = true := by decide +kernel
  exact Ranges.contains_of_disjoint hdisjoint h

/-- The code points of the ASCII digits. -/
def decimalRange : Ranges := [(0x0030, 0x0039)]

theorem decimalRange_contains {c : Char} (h : c.isDigit = true) : decimalRange.contains c = true := by
  rw [isDigit_iff, Char.le_def, Char.le_def, UInt32.le_iff_toNat_le, UInt32.le_iff_toNat_le] at h
  have hrange : 0x30 ≤ c.toNat ∧ c.toNat ≤ 0x39 := h
  simp [Ranges.contains, decimalRange, hrange]

theorem isDigit_of_decimal {c : Char} (h : c.isDigit = true) : isDigit c = true := by
  have hc := decimalRange_contains h
  unfold Ranges.contains decimalRange at hc
  rw [List.any_cons, List.any_nil, Bool.or_false] at hc
  unfold isDigit Ranges.contains digitRanges
  rw [List.any_cons, hc, Bool.true_or]

theorem not_letter_of_decimal {c : Char} (h : c.isDigit = true) : isLetter c = false := by
  have hdisjoint : letterRanges.disjoint decimalRange = true := by decide +kernel
  exact Ranges.contains_of_disjoint hdisjoint (decimalRange_contains h)

theorem not_blank_of_decimal {c : Char} (h : c.isDigit = true) : isBlank c = false := by
  have hdisjoint : blankRanges.disjoint decimalRange = true := by decide +kernel
  exact Ranges.contains_of_disjoint hdisjoint (decimalRange_contains h)

theorem not_blank_of_letter {c : Char} (h : isLetter c = true) : isBlank c = false := by
  have hdisjoint : blankRanges.disjoint letterRanges = true := by decide +kernel
  exact Ranges.contains_of_disjoint hdisjoint h

/-! ### Numbers -/

/-- The digits write the number: they are ASCII digits, at least one, and in decimal notation the number is theirs. -/
structure Writes (ds : List Char) (n : UInt32) : Prop where
  ne_nil : ds ≠ []
  digits : Digits ds
  value : Nat.ofDigitChars 10 ds 0 = n.toNat

/-- Digits are read onto a number if they are ASCII digits all. -/
theorem readDigits?_eq_some_iff : ∀ {ds : List Char} {n m : Nat},
    readDigits? n ds = some m ↔ Digits ds ∧ Nat.ofDigitChars 10 ds n = m
  | [], n, m => by simp [readDigits?, Digits]
  | c :: cs, n, m => by
    unfold readDigits?
    cases hc : c.isDigit with
    | false =>
      rw [digitValue?_eq_none hc]
      constructor
      · intro h
        cases h
      · rintro ⟨hdigits, -⟩
        rw [hdigits.cons.1] at hc
        cases hc
    | true =>
      rw [digitValue?_of_isDigit hc, Nat.ofDigitChars_cons]
      have ih : readDigits? (10 * n + (c.toNat - '0'.toNat)) cs = some m ↔ _ := readDigits?_eq_some_iff
      constructor
      · intro h
        obtain ⟨hdigits, hvalue⟩ := ih.mp h
        exact ⟨List.forall_mem_cons.mpr ⟨hc, hdigits⟩, hvalue⟩
      · rintro ⟨hdigits, hvalue⟩
        exact ih.mpr ⟨hdigits.cons.2, hvalue⟩

/-- A number is read exactly from the digits that write it. -/
theorem readNumber?_eq_some_iff {ds : List Char} {n : UInt32} : readNumber? ds = some n ↔ Writes ds n := by
  cases ds with
  | nil =>
    constructor
    · intro h
      cases h
    · intro h
      exact absurd rfl h.ne_nil
  | cons c cs =>
    rw [readNumber?]
    constructor
    · intro h
      split at h
      · rename_i m hm
        obtain ⟨hdigits, hvalue⟩ := readDigits?_eq_some_iff.mp hm
        split at h
        · rename_i hsize
          cases h
          exact ⟨List.cons_ne_nil c cs, hdigits, hvalue.trans (UInt32.toNat_ofNat_of_lt hsize).symm⟩
        · cases h
      · cases h
    · intro h
      rw [readDigits?_eq_some_iff.mpr ⟨h.digits, h.value⟩]
      simp only [n.toNat_lt, if_true, UInt32.ofNat_toNat]

/-! ### Trimming -/

/-- The text `p` is what stands in `cs` between the blanks at the two ends. -/
structure Trims (cs p : List Char) : Prop where
  between : ∃ before after, cs = before ++ p ++ after ∧ (∀ c ∈ before, isBlank c = true) ∧
    ∀ c ∈ after, isBlank c = true
  head : ∀ c ∈ p.head?, isBlank c = false
  last : ∀ c ∈ p.getLast?, isBlank c = false

theorem Trims.trimChars_eq {cs p : List Char} (h : Trims cs p) : trimChars cs = p := by
  obtain ⟨before, after, rfl, hbefore, hafter⟩ := h.between
  have hlast : Stops isBlank p.reverse := by
    intro c hc
    rw [List.head?_reverse] at hc
    exact h.last c hc
  have hback : ((p ++ after).reverse.dropWhile isBlank).reverse = p := by
    rw [List.reverse_append, dropWhile_run (fun c hc => hafter c (List.mem_reverse.mp hc)) hlast, List.reverse_reverse]
  unfold trimChars
  rw [List.append_assoc]
  cases p with
  | nil =>
    have hall : ∀ c ∈ before ++ ([] ++ after), isBlank c = true := by
      intro c hc
      rcases List.mem_append.mp hc with hc | hc
      · exact hbefore c hc
      · exact hafter c hc
    rw [← List.append_nil (before ++ ([] ++ after)), dropWhile_run hall (stops_nil _)]
    rfl
  | cons c cs =>
    have hfirst : Stops isBlank (c :: cs ++ after) := stops_cons (h.head c rfl) _
    rw [dropWhile_run hbefore hfirst]
    exact hback

theorem trims_trimChars (cs : List Char) : Trims cs (trimChars cs) := by
  have hfront := List.takeWhile_append_dropWhile (p := isBlank) (l := cs)
  generalize hrest : cs.dropWhile isBlank = rest at hfront
  have hback := List.takeWhile_append_dropWhile (p := isBlank) (l := rest.reverse)
  have hrest' : rest = (rest.reverse.dropWhile isBlank).reverse ++ (rest.reverse.takeWhile isBlank).reverse :=
    calc rest = (rest.reverse.takeWhile isBlank ++ rest.reverse.dropWhile isBlank).reverse := by
          rw [hback, List.reverse_reverse]
      _ = _ := List.reverse_append
  have htrim : trimChars cs = (rest.reverse.dropWhile isBlank).reverse := by rw [trimChars, hrest]
  rw [htrim]
  refine ⟨⟨cs.takeWhile isBlank, (rest.reverse.takeWhile isBlank).reverse, ?_, fun c hc => mem_takeWhile hc,
    fun c hc => mem_takeWhile (List.mem_reverse.mp hc)⟩, ?_, ?_⟩
  · rw [List.append_assoc, ← hrest', hfront]
  · -- The text begins like `rest`, of which it is the front part.
    intro c hc
    have hstop := stops_dropWhile isBlank cs
    rw [hrest] at hstop
    apply hstop c
    rw [hrest', List.head?_append, Option.mem_def.mp hc]
    rfl
  · intro c hc
    rw [List.getLast?_reverse] at hc
    exact stops_dropWhile isBlank rest.reverse c hc

theorem trims_iff {cs p : List Char} : Trims cs p ↔ trimChars cs = p :=
  ⟨Trims.trimChars_eq, fun h => h ▸ trims_trimChars cs⟩

/-! ### Tidy texts -/

/-- A text that is its own trim. -/
def Trimmed (s : String) : Prop := trim s = s

/-- A text that is its own trim and not empty. -/
structure Tidy (s : String) : Prop where
  ne_empty : s ≠ ""
  trimmed : Trimmed s

instance (s : String) : Decidable (Trimmed s) := inferInstanceAs (Decidable (trim s = s))

instance (s : String) : Decidable (Tidy s) :=
  decidable_of_iff (s ≠ "" ∧ Trimmed s) ⟨fun h => ⟨h.1, h.2⟩, fun h => ⟨h.ne_empty, h.trimmed⟩⟩

/-- Characters, at least one, of which neither the first nor the last is a blank. -/
structure Neat (cs : List Char) : Prop where
  ne_nil : cs ≠ []
  head : ∀ c ∈ cs.head?, isBlank c = false
  last : ∀ c ∈ cs.getLast?, isBlank c = false

theorem trimmed_iff {s : String} : Trimmed s ↔ trimChars s.toList = s.toList := by
  unfold Trimmed trim
  constructor
  · intro h
    rw [← String.toList_ofList (l := trimChars s.toList), h]
  · intro h
    rw [h, String.ofList_toList]

/-- A text is tidy exactly if its characters are neat. -/
theorem tidy_iff {s : String} : Tidy s ↔ Neat s.toList := by
  have hempty : s ≠ "" ↔ s.toList ≠ [] := by
    rw [ne_eq, ne_eq, ← String.toList_inj]
    rfl
  constructor
  · intro h
    have htrims := trims_iff.mpr (trimmed_iff.mp h.trimmed)
    exact ⟨hempty.mp h.ne_empty, htrims.head, htrims.last⟩
  · intro h
    refine ⟨hempty.mpr h.ne_nil, trimmed_iff.mpr (Trims.trimChars_eq ⟨⟨[], [], by simp, ?_, ?_⟩, h.head, h.last⟩)⟩
    · simp
    · simp

theorem tidy_ofList_iff {cs : List Char} : Tidy (String.ofList cs) ↔ Neat cs := by
  rw [tidy_iff, String.toList_ofList]

/-- Trimming a second time changes nothing. -/
theorem trimmed_trim (s : String) : Trimmed (trim s) := by
  have htrims := trims_trimChars s.toList
  have hself : Trims (trimChars s.toList) (trimChars s.toList) :=
    ⟨⟨[], [], by simp, by simp, by simp⟩, htrims.head, htrims.last⟩
  rw [trimmed_iff, trim, String.toList_ofList]
  exact hself.trimChars_eq

theorem tidy_of_trimmed? {s t : String} (h : trimmed? s = some t) : Tidy t := by
  unfold trimmed? at h
  simp only at h
  split at h
  · cases h
  · rename_i hne
    cases h
    exact ⟨by simpa using hne, trimmed_trim s⟩

/-- Neat characters stay neat around anything. -/
theorem Neat.surround {cs ds : List Char} (hc : Neat cs) (hd : Neat ds) (mid : List Char) :
    Neat (cs ++ (mid ++ ds)) where
  ne_nil := by simp [hc.ne_nil]
  head := by
    cases cs with
    | nil => exact absurd rfl hc.ne_nil
    | cons c cs => exact hc.head
  last := by
    rw [← List.append_assoc, List.getLast?_append_of_ne_nil _ hd.ne_nil]
    exact hd.last

theorem neat_of_forall {cs : List Char} (hne : cs ≠ []) (h : ∀ c ∈ cs, isBlank c = false) : Neat cs where
  ne_nil := hne
  head c hc := h c (List.mem_of_mem_head? hc)
  last c hc := h c (List.mem_of_getLast? hc)

theorem neat_toDigits (n : Nat) : Neat (Nat.toDigits 10 n) :=
  neat_of_forall Nat.toDigits_ne_nil fun c hc => not_blank_of_decimal (Digits.toDigits n c hc)

end Text
end PortGrid
