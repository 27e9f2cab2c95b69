import PortGrid.Proofs.Text.Classes
import PortGrid.Timestamp.Reader

/-!
# A written timestamp is read back

The reader of timestamps is more tolerant than the writer is varied: it skips blanks, takes any year with a sign, cuts
fractions off and moves the time by an offset. On a text that was written none of this changes anything, in every year
of the calendar, with every fraction and also on a leap second.

Key theorems: `digits_ok`, `bounded_ok`, `year_ok`, `fraction_ok`, `parts_ok`, `parse_text`.
-/

namespace PortGrid

theorem daysInMonth_le (year : Int) (month : Nat) : daysInMonth year month ≤ 31 := by
  unfold daysInMonth
  split
  · split <;> omega
  · split <;> omega

namespace TimestampPart

/-! ### Blanks and single characters -/

theorem skipBlanks_ok {c : Char} (h : Text.isBlank c = false) (cs : List Char) :
    skipBlanks (c :: cs) = .ok ((), c :: cs) := by
  rw [skipBlanks, List.dropWhile_cons_of_neg (by simp [h])]

theorem skipBlanks_digits {ds : List Char} (hds : Digits ds) (hne : ds ≠ []) (rest : List Char) :
    skipBlanks (ds ++ rest) = .ok ((), ds ++ rest) := by
  obtain ⟨c, t, rfl⟩ := List.exists_cons_of_ne_nil hne
  exact skipBlanks_ok (Text.not_blank_of_decimal hds.cons.1) (t ++ rest)

theorem separator_ok {c : Char} (h : Text.isBlank c = false) (cs : List Char) :
    separator c (c :: cs) = .ok ((), cs) := by
  rw [separator, bind_ok (skipBlanks_ok h cs), literal, if_pos rfl]

/-! ### Numbers -/

/-- The text goes on with no digit. -/
def EndsDigits (rest : List Char) : Prop := ∀ c ∈ rest.head?, c.isDigit = false

/-- Digits are appended up to the limit, or up to a character that is none. -/
theorem appendDigits_ok {rest : List Char} : ∀ {ds : List Char} {limit n : Nat}, Digits ds → ds.length ≤ limit →
    ds.length = limit ∨ EndsDigits rest → Nat.ofDigitChars 10 ds n < numberLimit →
    appendDigits limit n (ds ++ rest) = .ok (Nat.ofDigitChars 10 ds n, rest)
  | [], limit, n, _, _, hend, _ => by
    rw [List.nil_append, Nat.ofDigitChars_nil]
    cases limit with
    | zero => rw [appendDigits]
    | succ limit =>
      have hrest : EndsDigits rest := hend.resolve_left (by simp)
      cases rest with
      | nil => rw [appendDigits]; simp
      | cons c cs => rw [appendDigits, digitValue?_eq_none (hrest c rfl)]
  | c :: ds, limit, n, hds, hlength, hend, hsmall => by
    rw [List.length_cons] at hlength hend
    rw [Nat.ofDigitChars_cons] at hsmall ⊢
    obtain ⟨limit, rfl⟩ : ∃ k, limit = k + 1 := ⟨limit - 1, by omega⟩
    have hnext : 10 * n + (c.toNat - '0'.toNat) < numberLimit := Nat.lt_of_le_of_lt (le_ofDigitChars ds _) hsmall
    rw [List.cons_append, appendDigits, digitValue?_of_isDigit hds.cons.1]
    simp only [hnext, if_true]
    exact appendDigits_ok hds.cons.2 (by omega) (hend.imp_left (by omega)) hsmall

theorem digits_ok {ds rest : List Char} {limit : Nat} (hds : Digits ds) (hne : ds ≠ []) (hlength : ds.length ≤ limit)
    (hend : ds.length = limit ∨ EndsDigits rest) (hsmall : Nat.ofDigitChars 10 ds 0 < numberLimit) :
    digits limit (ds ++ rest) = .ok (Nat.ofDigitChars 10 ds 0, rest) := by
  obtain ⟨c, t, rfl⟩ := List.exists_cons_of_ne_nil hne
  rw [Nat.ofDigitChars_cons, Nat.mul_zero, Nat.zero_add] at hsmall ⊢
  rw [List.length_cons] at hlength hend
  rw [List.cons_append, digits, digitValue?_of_isDigit hds.cons.1]
  exact appendDigits_ok hds.cons.2 (by omega) (hend.imp_left (by omega)) hsmall

/-- A padded number that fits its width is read by its width. -/
theorem digits_padded {width n : Nat} (hwidth : 0 < width) (hn : n < 10 ^ width) (hsmall : n < numberLimit)
    (rest : List Char) : digits width (padded width n ++ rest) = .ok (n, rest) := by
  have hlength := length_padded hwidth hn
  have hvalue := ofDigitChars_padded width n
  rw [digits_ok (Digits.padded width n) (padded_ne_nil width n) (Nat.le_of_eq hlength) (.inl hlength) (by rwa [hvalue]),
    hvalue]

theorem bounded_ok {low high n : Nat} (hlow : low ≤ n) (hhigh : n ≤ high) (hn : n < 100) (rest : List Char) :
    bounded low high (padded 2 n ++ rest) = .ok (n, rest) := by
  have hdigits : digits 2 (padded 2 n ++ rest) = .ok (n, rest) :=
    digits_padded (by decide) hn (Nat.lt_trans hn (by decide)) rest
  rw [bounded, bind_ok (skipBlanks_digits (Digits.padded 2 n) (padded_ne_nil 2 n) rest), bind_ok hdigits,
    if_pos ⟨hlow, hhigh⟩]
  rfl

/-! ### Years -/

theorem yearNumber_ok {y : Int} (hlow : -262143 ≤ y) (hhigh : y ≤ 262142) (rest : List Char) :
    yearNumber (yearChars y ++ '-' :: rest) = .ok (y, '-' :: rest) := by
  unfold yearChars
  split
  · rename_i hplain
    -- Written without a sign: the first character is a digit, which is not taken for one.
    have hdigits : digits 4 (padded 4 y.toNat ++ '-' :: rest) = .ok (y.toNat, '-' :: rest) :=
      digits_padded (by decide) (by omega) (Nat.lt_of_lt_of_le (by omega : y.toNat < 10000) (by decide)) _
    obtain ⟨c, t, hct⟩ := List.exists_cons_of_ne_nil (padded_ne_nil 4 y.toNat)
    have hc : c.isDigit = true := Digits.padded 4 y.toNat c (hct ▸ List.mem_cons_self)
    have hminus : c ≠ '-' := fun he => absurd hc (he ▸ by decide)
    have hplus : c ≠ '+' := fun he => absurd hc (he ▸ by decide)
    rw [hct] at hdigits ⊢
    simp only [yearNumber, List.cons_append, List.cons.injEq, hminus, hplus, false_and, imp_false,
      not_false_eq_true, implies_true]
    rw [← List.cons_append, map_ok hdigits, Int.toNat_of_nonneg hplain.1]
  · rename_i hsigned
    have hvalue := ofDigitChars_padded 4 y.natAbs
    have hlimit : y.natAbs < numberLimit := Nat.lt_of_lt_of_le (by omega : y.natAbs < 300000) (by decide)
    have hdigits : digits (padded 4 y.natAbs ++ '-' :: rest).length (padded 4 y.natAbs ++ '-' :: rest) =
        .ok (y.natAbs, '-' :: rest) := by
      rw [digits_ok (Digits.padded 4 _) (padded_ne_nil 4 _) (by simp) (.inr ?_) (by rwa [hvalue]), hvalue]
      intro c hc
      cases hc
      rfl
    split
    · rename_i hneg
      rw [List.cons_append, yearNumber, map_ok hdigits]
      have : -(y.natAbs : Int) = y := by omega
      rw [this]
    · rename_i hneg
      rw [List.cons_append, yearNumber, map_ok hdigits]
      have : (y.natAbs : Int) = y := by omega
      rw [this]

theorem skipBlanks_year (y : Int) (rest : List Char) :
    skipBlanks (yearChars y ++ rest) = .ok ((), yearChars y ++ rest) := by
  unfold yearChars
  split
  · exact skipBlanks_digits (Digits.padded 4 _) (padded_ne_nil 4 _) rest
  split
  · exact skipBlanks_ok (by decide) _
  · exact skipBlanks_ok (by decide) _

theorem year_ok {y : Int} (hlow : -262143 ≤ y) (hhigh : y ≤ 262142) (rest : List Char) :
    year (yearChars y ++ '-' :: rest) = .ok (y, '-' :: rest) := by
  rw [year, bind_ok (skipBlanks_year y _), bind_ok (yearNumber_ok hlow hhigh rest), if_pos (by omega)]
  rfl

/-! ### Fractions of a second -/

/-- A padded number behind the point, in front of a character that is no digit. -/
theorem fraction_padded {width n : Nat} (hwidth : 0 < width) (hnine : width ≤ 9) (hn : n < 10 ^ width)
    {rest : List Char} (hend : EndsDigits rest) :
    fraction ('.' :: (padded width n ++ rest)) = .ok (n * 10 ^ (9 - width), rest) := by
  have hlength := length_padded hwidth hn
  have hvalue := ofDigitChars_padded width n
  have hlimit : n < numberLimit :=
    calc n < 10 ^ width := hn
      _ ≤ 10 ^ 9 := Nat.pow_le_pow_right (by decide) hnine
      _ < numberLimit := by decide
  have hdigits : digits 9 (padded width n ++ rest) = .ok (n, rest) := by
    rw [digits_ok (Digits.padded _ _) (padded_ne_nil _ _) (by omega) (.inr hend) (by rwa [hvalue]), hvalue]
  have hused : (padded width n ++ rest).length - rest.length = width := by
    rw [List.length_append, hlength, Nat.add_sub_cancel]
  have hstop : rest.dropWhile (fun c => (Text.digitValue? c).isSome) = rest := by
    cases rest with
    | nil => rfl
    | cons c cs => rw [List.dropWhile_cons_of_neg (by simp [digitValue?_eq_none (hend c rfl)])]
  simp only [fraction, bind_ok (get_ok _), bind_ok (set_ok _ _)]
  rw [bind_ok hdigits, bind_ok (get_ok _), hused, bind_ok (modify_ok _ _), hstop]
  rfl

theorem fraction_ok {nano : Nat} (hnano : nano < 1000000000) (rest : List Char) :
    fraction (fractionChars nano ++ 'Z' :: rest) = .ok (nano, 'Z' :: rest) := by
  have hend : EndsDigits ('Z' :: rest) := by
    intro c hc
    cases hc
    rfl
  unfold fractionChars
  split
  · rename_i h
    rw [h]
    rfl
  split
  · rename_i h
    rw [List.cons_append, fraction_padded (by decide) (by decide) (by omega) hend]
    have : nano / 1000000 * 10 ^ (9 - 3) = nano := by omega
    rw [this]
  split
  · rename_i h
    rw [List.cons_append, fraction_padded (by decide) (by decide) (by omega) hend]
    have : nano / 1000 * 10 ^ (9 - 6) = nano := by omega
    rw [this]
  · rw [List.cons_append, fraction_padded (by decide) (by decide) (by omega) hend]
    have : nano * 10 ^ (9 - 9) = nano := by omega
    rw [this]

/-! ### The whole text -/

theorem offset_universal : offset ['Z'] = .ok (0, []) := by
  rfl

theorem parts_ok (t : Timestamp) : parts t.chars =
    .ok (⟨t.date.year, t.date.month, t.date.day, t.hour, t.minute, t.second, t.nano, 0⟩, []) := by
  obtain ⟨⟨y, month, day, hvalid⟩, hour, minute, second, nano⟩ := t
  simp only [isDate, Bool.and_eq_true, decide_eq_true_eq] at hvalid
  obtain ⟨⟨⟨⟨⟨hlow, hhigh⟩, hm1⟩, hm2⟩, hd1⟩, hd2⟩ := hvalid
  have hd3 : day ≤ 31 := Nat.le_trans hd2 (daysInMonth_le y month)
  simp only [Timestamp.chars, List.append_assoc, List.cons_append]
  rw [parts, bind_ok (year_ok hlow hhigh _), bind_ok (separator_ok (by decide) _),
    bind_ok (bounded_ok hm1 hm2 (by omega) _), bind_ok (separator_ok (by decide) _),
    bind_ok (bounded_ok hd1 hd3 (by omega) _), bind_ok (rfl : dateEnd _ = .ok ((), _)),
    bind_ok (bounded_ok (by omega) (by omega) (by omega) _), bind_ok (separator_ok (by decide) _),
    bind_ok (bounded_ok (by omega) (by omega) (by omega) _), bind_ok (separator_ok (by decide) _),
    bind_ok (bounded_ok (by omega) (by omega) (by omega) _), bind_ok (fraction_ok nano.isLt _),
    bind_ok (skipBlanks_ok (by decide) _), bind_ok offset_universal]
  rfl

end TimestampPart

namespace Timestamp

/-- The minute of the day gives the hour and the minute back. -/
theorem atMinute_eq (t : Timestamp) : atMinute t.date (60 * t.hour + t.minute) t.second t.nano = t := by
  obtain ⟨date, hour, minute, second, nano⟩ := t
  have hhour : Fin.ofNat 24 ((60 * hour.val + minute.val) / 60) = hour := by
    apply Fin.ext
    simp only [Fin.val_ofNat]
    omega
  have hminute : Fin.ofNat 60 (60 * hour.val + minute.val) = minute := by
    apply Fin.ext
    simp only [Fin.val_ofNat]
    omega
  rw [atMinute, hhour, hminute, Fin.ofNat_val_eq_self, Fin.ofNat_val_eq_self]

/-- In UTC nothing is moved. -/
theorem ofParts_ok (t : Timestamp) :
    ofParts ⟨t.date.year, t.date.month, t.date.day, t.hour, t.minute, t.second, t.nano, 0⟩ = .ok t := by
  have hdate : Date.make? t.date.year t.date.month t.date.day = some t.date := by rw [Date.make?, dif_pos t.date.valid]
  have hlow : ¬ (60 * ((t.hour.val : Nat) : Int) + (t.minute.val : Nat) - 0 < 0) := by omega
  have hhigh : ¬ (60 * ((t.hour.val : Nat) : Int) + (t.minute.val : Nat) - 0 ≥ 1440) := by omega
  have hminutes : ((60 * ((t.hour.val : Nat) : Int) + (t.minute.val : Nat) - 0) % 1440).toNat =
      60 * t.hour.val + t.minute.val := by omega
  unfold ofParts
  simp only [hdate, hlow, hhigh, if_false, hminutes]
  rw [if_neg (by decide), atMinute_eq]
  rfl

/-- **A written timestamp is read back**, to the nanosecond. -/
theorem parse_text (t : Timestamp) : parse t.text = .ok t := by
  rw [parse, text, String.toList_ofList]
  show (TimestampPart.parts t.chars >>= fun p => ofParts p.1) = _
  rw [TimestampPart.parts_ok]
  exact ofParts_ok t

end Timestamp

end PortGrid
