import Mathlib.Algebra.Group.Nat.Defs
import PortGrid.Json.Reader
import PortGrid.Text.Digit
import PortGrid.Text.Search
import PortGrid.Timestamp.Writer

/-!
# Readers step by step, and the digits that they read

A reader takes a value from a state or stops; in a chain of readers each that succeeds hands its value and its rest on
to the next. A run of characters of a class that is followed by no such character is found again by taking and dropping
as long as the class lasts, and so a text splits into a run and what stops it in one way only. A text that is searched
for occurs where it is a piece of another. And what all readers and writers of numbers need to know of decimal notation:
the digits of a number are ASCII digits, the number of the digits is the number itself, zeros in front change nothing,
and only zero begins with a zero. The number of digits is `Nat.ofDigitChars 10`.

Key definitions: `Stops`, `Digits`.
Key theorems: `bind_ok`, `run_unique`, `ofDigitChars_padded`, `length_padded`, `eq_zero_of_toDigits_cons`.
-/

namespace PortGrid

/-! ### Steps of a reader -/

section Steps

variable {ε σ α β : Type} {r : StateT σ (Except ε) α} {s s' : σ} {x : α}

theorem bind_ok (h : r s = .ok (x, s')) (f : α → StateT σ (Except ε) β) : (r >>= f) s = f x s' := by
  show (r s >>= fun p => f p.1 p.2) = _
  rw [h]
  rfl

theorem map_ok (h : r s = .ok (x, s')) (f : α → β) : (f <$> r) s = .ok (f x, s') := by
  show (r s >>= fun p => Except.ok (f p.1, p.2)) = _
  rw [h]
  rfl

theorem get_ok (s : σ) : (get : StateT σ (Except ε) σ) s = .ok (s, s) := rfl

theorem set_ok (s s' : σ) : (set s' : StateT σ (Except ε) PUnit) s = .ok (⟨⟩, s') := rfl

theorem modify_ok (f : σ → σ) (s : σ) : (modify f : StateT σ (Except ε) PUnit) s = .ok (⟨⟩, f s) := rfl

end Steps

/-! ### Runs -/

/-- What stops a run of a class: nothing more, or a character outside it. -/
def Stops (p : Char → Bool) (rest : List Char) : Prop := ∀ c ∈ rest.head?, p c = false

section Runs

variable {p : Char → Bool} {run run' rest rest' : List Char}

theorem stops_nil (p : Char → Bool) : Stops p [] := fun _ h => by cases h

theorem stops_cons {c : Char} (h : p c = false) (cs : List Char) : Stops p (c :: cs) := by
  intro d hd
  cases hd
  exact h

instance (p : Char → Bool) : ∀ rest : List Char, Decidable (Stops p rest)
  | [] => .isTrue (stops_nil p)
  | c :: cs => decidable_of_iff (p c = false) ⟨fun h => stops_cons h cs, fun h => h c rfl⟩

/-- A run that is not empty stops a run of another class if its characters are outside that class. -/
theorem stops_append (hne : run ≠ []) (h : ∀ c ∈ run, p c = false) (rest : List Char) : Stops p (run ++ rest) := by
  cases run with
  | nil => exact absurd rfl hne
  | cons c run => exact stops_cons (h c List.mem_cons_self) _

theorem stops_dropWhile (p : Char → Bool) (cs : List Char) : Stops p (cs.dropWhile p) := by
  intro c hc
  have h := List.head?_dropWhile_not p cs
  rw [Option.mem_def.mp hc] at h
  exact h

theorem takeWhile_run (hrun : ∀ c ∈ run, p c = true) (hrest : Stops p rest) : (run ++ rest).takeWhile p = run := by
  rw [List.takeWhile_append_of_pos hrun]
  cases rest with
  | nil => simp
  | cons c cs => simp [hrest c rfl]

theorem dropWhile_run (hrun : ∀ c ∈ run, p c = true) (hrest : Stops p rest) : (run ++ rest).dropWhile p = rest := by
  rw [List.dropWhile_append_of_pos hrun]
  cases rest with
  | nil => rfl
  | cons c cs => simp [hrest c rfl]

/-- A text splits into a run and what stops it in one way only. -/
theorem run_unique (hrun : ∀ c ∈ run, p c = true) (hrest : Stops p rest) (hrun' : ∀ c ∈ run', p c = true)
    (hrest' : Stops p rest') (h : run ++ rest = run' ++ rest') : run = run' ∧ rest = rest' := by
  have htake := congrArg (List.takeWhile p) h
  have hdrop := congrArg (List.dropWhile p) h
  rw [takeWhile_run hrun hrest, takeWhile_run hrun' hrest'] at htake
  rw [dropWhile_run hrun hrest, dropWhile_run hrun' hrest'] at hdrop
  exact ⟨htake, hdrop⟩

theorem mem_takeWhile {c : Char} {cs : List Char} (h : c ∈ cs.takeWhile p) : p c = true :=
  List.all_eq_true.mp List.all_takeWhile c h

end Runs

/-! ### Occurrences -/

/-- A text occurs in another if it is a piece of it. -/
theorem Text.occursIn_iff {needle : List Char} : ∀ {cs : List Char}, Text.occursIn needle cs = true ↔ needle <:+: cs
  | [] => by simp [Text.occursIn]
  | c :: cs => by
    rw [Text.occursIn, Bool.or_eq_true, List.isPrefixOf_iff_prefix, List.infix_cons_iff, Text.occursIn_iff]

/-! ### Runs of digits -/

/-- Nothing but ASCII digits. -/
def Digits (ds : List Char) : Prop := ∀ c ∈ ds, c.isDigit = true

namespace Digits

theorem cons {c : Char} {ds : List Char} (h : Digits (c :: ds)) : c.isDigit = true ∧ Digits ds :=
  ⟨h c List.mem_cons_self, fun d hd => h d (List.mem_cons_of_mem _ hd)⟩

theorem append {cs ds : List Char} (hc : Digits cs) (hd : Digits ds) : Digits (cs ++ ds) := by
  intro c h
  rcases List.mem_append.mp h with h | h
  · exact hc c h
  · exact hd c h

theorem toDigits (n : Nat) : Digits (Nat.toDigits 10 n) :=
  fun _ h => Nat.isDigit_of_mem_toDigits (by decide) (by decide) h

theorem zeros (k : Nat) : Digits (List.replicate k '0') := by
  intro c h
  rw [List.eq_of_mem_replicate h]
  rfl

theorem padded (width n : Nat) : Digits (padded width n) :=
  (zeros _).append (toDigits n)

end Digits

/-! ### Single characters -/

theorem isUpper_iff {c : Char} : c.isUpper = true ↔ c.val ≥ 'A'.val ∧ c.val ≤ 'Z'.val := decide_eq_true_iff

theorem isLower_iff {c : Char} : c.isLower = true ↔ 'a'.val ≤ c.val ∧ c.val ≤ 'z'.val := by
  show (decide (c.val ≥ 'a'.val) && decide (c.val ≤ 'z'.val)) = true ↔ _
  rw [Bool.and_eq_true, decide_eq_true_iff, decide_eq_true_iff]

theorem isDigit_iff (c : Char) : c.isDigit = true ↔ '0' ≤ c ∧ c ≤ '9' := by
  simp [Char.isDigit, Char.le_def, UInt32.le_iff_toNat_le]

theorem isAsciiDigit_eq (c : Char) : Json.isAsciiDigit c = c.isDigit := by
  rw [Bool.eq_iff_iff, isDigit_iff]
  simp [Json.isAsciiDigit]

theorem Digits.ascii {ds : List Char} (h : Digits ds) : ∀ c ∈ ds, Json.isAsciiDigit c = true :=
  fun c hc => (isAsciiDigit_eq c).trans (h c hc)

theorem digitValue?_of_isDigit {c : Char} (h : c.isDigit = true) :
    Text.digitValue? c = some (c.toNat - '0'.toNat) := by
  rw [isDigit_iff] at h
  simp [Text.digitValue?, h]

theorem digitValue?_eq_none {c : Char} (h : c.isDigit = false) : Text.digitValue? c = none := by
  have h' : ¬ ('0' ≤ c ∧ c ≤ '9') := by
    rw [← isDigit_iff, h]
    decide
  rw [Text.digitValue?, if_neg h']

/-! ### The number of digits -/

theorem le_ofDigitChars (ds : List Char) (n : Nat) : n ≤ Nat.ofDigitChars 10 ds n := by
  rw [Nat.ofDigitChars_eq_ofDigitChars_zero]
  have : n ≤ 10 ^ ds.length * n := Nat.le_mul_of_pos_left _ (Nat.pow_pos (by decide))
  omega

/-- Only zero begins with a zero. -/
theorem eq_zero_of_toDigits_cons {n : Nat} {ds : List Char} (h : Nat.toDigits 10 n = '0' :: ds) : n = 0 := by
  induction n using Nat.strongRecOn generalizing ds with
  | ind n ih =>
    rw [Nat.toDigits_eq_if (by decide)] at h
    split at h
    · rename_i hn
      have : n.digitChar = '0' := (List.cons.inj h).1
      exact Nat.digitChar_eq_zero.mp this
    · rename_i hn
      cases hq : Nat.toDigits 10 (n / 10) with
      | nil => exact absurd hq Nat.toDigits_ne_nil
      | cons c cs =>
        rw [hq] at h
        have hc : c = '0' := (List.cons.inj h).1
        have := ih (n / 10) (by omega) (hc ▸ hq)
        omega

theorem toDigits_injective {m n : Nat} (h : Nat.toDigits 10 m = Nat.toDigits 10 n) : m = n := by
  rw [← Nat.ofDigitChars_ten_toDigits (n := m), h, Nat.ofDigitChars_ten_toDigits]

theorem ofDigitChars_padded (width n : Nat) : Nat.ofDigitChars 10 (padded width n) 0 = n := by
  rw [padded, Nat.ofDigitChars_append, Nat.ofDigitChars_replicate_zero, Nat.mul_zero,
    Nat.ofDigitChars_ten_toDigits]

theorem length_padded {width n : Nat} (hw : 0 < width) (hn : n < 10 ^ width) : (padded width n).length = width := by
  have : (Nat.toDigits 10 n).length ≤ width := (Nat.length_toDigits_le_iff (by decide) hw).mpr hn
  simp only [padded, List.length_append, List.length_replicate]
  omega

theorem padded_ne_nil (width n : Nat) : padded width n ≠ [] := by
  simp [padded]

end PortGrid
