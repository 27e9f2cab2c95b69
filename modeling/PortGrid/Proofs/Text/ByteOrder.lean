import Mathlib.Algebra.Group.Nat.Defs

/-!
# The order of bytes

Texts are compared character by character. Comparing the bytes that write them in UTF-8 comes to the same. A character
is written as a leading byte and up to three more that hold six bits each. The smaller of two characters has the smaller
leading byte, or else as many bytes behind the same one, of which the first that differs is smaller. So a list of texts
that ascends by characters ascends by bytes.

Key definitions: `bytes`, `trail`, `Leads`.
Key theorems: `trail_append_lt`, `exists_leads`, `utf8EncodeChar_append_lt`, `bytes_lt`.
-/

namespace PortGrid
namespace Text

/-- The bytes that write a text in UTF-8. -/
def bytes (s : String) : List UInt8 := s.toUTF8.data.toList

theorem bytes_eq_flatMap (s : String) : bytes s = s.toList.flatMap String.utf8EncodeChar := by
  have hencode : s.toUTF8 = s.toList.utf8Encode := by
    rw [String.toUTF8_eq_toByteArray, ← String.toByteArray_ofList, String.ofList_toList]
  rw [bytes, hencode, List.utf8Encode, List.data_toByteArray]

/-! ### The bytes of one character -/

/-- The last bytes of a code point, which hold six bits each. -/
def trail : Nat → Nat → List UInt8
  | 0, _ => []
  | k + 1, n => UInt8.ofNat (n / 64 ^ k % 64 + 128) :: trail k n

/-- The leading byte of a code point, by the number of bytes behind it. -/
inductive Leads (n : Nat) : Nat → Nat → Prop where
  | one (h : n < 128) : Leads n 0 n
  | two (h : 128 ≤ n) (h' : n < 2048) : Leads n 1 (n / 64 + 192)
  | three (h : 2048 ≤ n) (h' : n < 65536) : Leads n 2 (n / 64 ^ 2 + 224)
  | four (h : 65536 ≤ n) (h' : n < 1114112) : Leads n 3 (n / 64 ^ 3 + 240)

theorem ofNat_cons_lt {a b : Nat} (ha : a < 256) (hb : b < 256) {rest rest' : List UInt8}
    (h : a < b ∨ (a = b ∧ rest < rest')) : UInt8.ofNat a :: rest < UInt8.ofNat b :: rest' := by
  rw [List.cons_lt_cons_iff]
  rcases h with hlt | ⟨rfl, hrest⟩
  · left
    rw [UInt8.lt_iff_toNat_lt, UInt8.toNat_ofNat', UInt8.toNat_ofNat', Nat.mod_eq_of_lt ha, Nat.mod_eq_of_lt hb]
    exact hlt
  · exact .inr ⟨rfl, hrest⟩

/-- Of two code points that agree but for their last bytes, the smaller one has the smaller last bytes. -/
theorem trail_append_lt {n m : Nat} (h : n < m) (rest rest' : List UInt8) :
    ∀ k, n / 64 ^ k = m / 64 ^ k → trail k n ++ rest < trail k m ++ rest'
  | 0, heq => by
    rw [Nat.pow_zero, Nat.div_one, Nat.div_one] at heq
    omega
  | k + 1, heq => by
    rw [Nat.pow_succ, ← Nat.div_div_eq_div_mul, ← Nat.div_div_eq_div_mul] at heq
    have hle : n / 64 ^ k ≤ m / 64 ^ k := Nat.div_le_div_right (Nat.le_of_lt h)
    apply ofNat_cons_lt (by omega) (by omega)
    rcases Nat.lt_or_eq_of_le hle with hlt | hsame
    · left
      omega
    · right
      exact ⟨by rw [hsame], trail_append_lt h rest rest' k hsame⟩

/-- A character is written as its leading byte and the bytes behind it. -/
theorem exists_leads (c : Char) : ∃ k first, Leads c.toNat k first ∧
    String.utf8EncodeChar c = UInt8.ofNat first :: trail k c.toNat := by
  have hvalid : c.toNat < 1114112 := by
    have h : c.toNat.isValidChar := c.valid
    unfold Nat.isValidChar at h
    omega
  generalize hn : c.toNat = n at hvalid ⊢
  have hval : c.val.toNat = n := hn
  unfold String.utf8EncodeChar
  simp only [hval]
  by_cases hone : n ≤ 127
  · exact ⟨0, n, .one (by omega), if_pos hone⟩
  by_cases htwo : n ≤ 2047
  · refine ⟨1, _, .two (by omega) (by omega), ?_⟩
    rw [if_neg hone, if_pos htwo, Nat.mod_eq_of_lt (by omega : n / 64 < 32)]
    simp only [trail, Nat.pow_zero, Nat.div_one]
  by_cases hthree : n ≤ 65535
  · refine ⟨2, _, .three (by omega) (by omega), ?_⟩
    rw [if_neg hone, if_neg htwo, if_pos hthree, Nat.mod_eq_of_lt (by omega : n / 4096 < 16)]
    simp only [trail, Nat.pow_zero, Nat.div_one, Nat.pow_one, Nat.reducePow]
  · refine ⟨3, _, .four (by omega) hvalid, ?_⟩
    rw [if_neg hone, if_neg htwo, if_neg hthree, Nat.mod_eq_of_lt (by omega : n / 262144 < 8)]
    simp only [trail, Nat.pow_zero, Nat.div_one, Nat.pow_one, Nat.reducePow]

theorem utf8EncodeChar_append_lt {c d : Char} (h : c < d) (rest rest' : List UInt8) :
    String.utf8EncodeChar c ++ rest < String.utf8EncodeChar d ++ rest' := by
  have hlt : c.toNat < d.toNat := UInt32.lt_iff_toNat_lt.mp h
  obtain ⟨k, first, hfirst, hc⟩ := exists_leads c
  obtain ⟨k', first', hfirst', hd⟩ := exists_leads d
  have hbyte : first < 256 ∧ first' < 256 := by
    cases hfirst <;> cases hfirst' <;> omega
  -- Either the leading bytes differ, or they say the same of the length and of the first bits.
  have hlead : first < first' ∨ (first = first' ∧ k = k' ∧ c.toNat / 64 ^ k = d.toNat / 64 ^ k) := by
    cases hfirst <;> cases hfirst' <;> omega
  rw [hc, hd]
  apply ofNat_cons_lt hbyte.1 hbyte.2
  rcases hlead with hless | ⟨hsame, rfl, hdiv⟩
  · exact .inl hless
  · exact .inr ⟨hsame, trail_append_lt hlt rest rest' k hdiv⟩

/-! ### The bytes of a text -/

theorem flatMap_utf8EncodeChar_lt {cs ds : List Char} (h : cs < ds) :
    cs.flatMap String.utf8EncodeChar < ds.flatMap String.utf8EncodeChar := by
  have hlex := List.lex_lt.mpr h
  clear h
  induction hlex with
  | @nil d ds =>
    rw [List.flatMap_nil, List.flatMap_cons]
    obtain ⟨k, first, -, hd⟩ := exists_leads d
    rw [hd]
    exact List.nil_lt_cons _ _
  | cons _ ih =>
    rw [List.flatMap_cons, List.flatMap_cons]
    exact List.append_left_lt ih
  | rel hcd =>
    rw [List.flatMap_cons, List.flatMap_cons]
    exact utf8EncodeChar_append_lt hcd _ _

/-- **Texts in ascending order of their characters are in ascending order of their bytes.** -/
theorem bytes_lt {s t : String} (h : s < t) : bytes s < bytes t := by
  rw [bytes_eq_flatMap, bytes_eq_flatMap]
  exact flatMap_utf8EncodeChar_lt (String.lt_iff.mp h)

end Text
end PortGrid
