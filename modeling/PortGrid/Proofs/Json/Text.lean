import PortGrid.Json.Reader
import PortGrid.Json.Writer

/-!
# Spellings of a text

A character may stand in a text as itself, by an escape of one letter, by four hexadecimal digits, or by the eight of a
surrogate pair. The reader of texts undoes them all, so it finds the characters of a text whatever way they are spelled;
and the writer of texts spells each character in one of these ways, so what it writes is read back.

Key definitions: `FourDigits`, `SpellsChar`, `SpellsChars`.
Key theorems: `SpellsChar.read`, `SpellsChars.read`, `spellsChars_written`.
-/

namespace PortGrid.Json

/-! ### The grammar -/

/-- The letters that stand behind a backslash for a character, each with its character. -/
def shortEscapes : List (Char × Char) :=
  [('"', '"'), ('\\', '\\'), ('/', '/'), ('b', '\x08'), ('f', '\x0c'), ('n', '\n'), ('r', '\r'), ('t', '\t')]

/-- A hexadecimal digit, small or capital, and its value. -/
def HexDigit (c : Char) (v : Nat) : Prop := v < 16 ∧ (c = v.digitChar ∨ c = v.digitChar.toUpper)

/-- Four hexadecimal digits and their number. -/
inductive FourDigits : List Char → Nat → Prop where
  | intro {a b c d : Char} {va vb vc vd : Nat} (ha : HexDigit a va) (hb : HexDigit b vb) (hc : HexDigit c vc)
    (hd : HexDigit d vd) : FourDigits [a, b, c, d] (16 * (16 * (16 * va + vb) + vc) + vd)

/-- What may stand for a character in a text. -/
inductive SpellsChar : Char → List Char → Prop where
  | plain {c : Char} (hquote : c ≠ '"') (hslash : c ≠ '\\') (hcontrol : ¬ c.toNat < 0x20) : SpellsChar c [c]
  | short {e c : Char} (h : (e, c) ∈ shortEscapes) : SpellsChar c ['\\', e]
  | unit {c : Char} {ds : List Char} (hds : FourDigits ds c.toNat) : SpellsChar c ('\\' :: 'u' :: ds)
  /-- The halves of a character beyond the first 2 ^ 16. -/
  | pair {c : Char} {hs ls : List Char} (hc : 0x10000 ≤ c.toNat)
    (hhs : FourDigits hs (0xD800 + (c.toNat - 0x10000) / 0x400))
    (hls : FourDigits ls (0xDC00 + (c.toNat - 0x10000) % 0x400)) :
    SpellsChar c ('\\' :: 'u' :: (hs ++ '\\' :: 'u' :: ls))

/-- What may stand for the characters of a text, one after the other. -/
inductive SpellsChars : List Char → List Char → Prop where
  | nil : SpellsChars [] []
  | cons {c : Char} {text cs rest : List Char} (hc : SpellsChar c cs) (htext : SpellsChars text rest) :
    SpellsChars (c :: text) (cs ++ rest)

/-! ### Reading -/

/-- A text that has been read, with a character in front. -/
abbrev consText (c : Char) (p : List Char × List Char) : List Char × List Char := (c :: p.1, p.2)

theorem escapeValue?_of_mem : ∀ p ∈ shortEscapes, p.1 ≠ 'u' ∧ escapeValue? p.1 = some p.2 := by
  decide

theorem hexValue?_digitChar : ∀ v < 16, hexValue? v.digitChar = some v ∧ hexValue? v.digitChar.toUpper = some v := by
  decide

theorem utf8Size_digitChar : ∀ v < 16, v.digitChar.utf8Size = 1 ∧ v.digitChar.toUpper.utf8Size = 1 := by
  decide

namespace HexDigit

variable {c : Char} {v : Nat}

theorem value (h : HexDigit c v) : hexValue? c = some v := by
  obtain ⟨hv, rfl | rfl⟩ := h
  · exact (hexValue?_digitChar v hv).1
  · exact (hexValue?_digitChar v hv).2

theorem utf8Size (h : HexDigit c v) : c.utf8Size = 1 := by
  obtain ⟨hv, rfl | rfl⟩ := h
  · exact (utf8Size_digitChar v hv).1
  · exact (utf8Size_digitChar v hv).2

/-- A digit that is not the last of the four adds to their number. -/
theorem read (h : HexDigit c v) (left value : Nat) (before : Option Nat) (rest : List Char) :
    readChars (.hex (left + 1) value before) (c :: rest) = readChars (.hex left (16 * value + v) before) rest := by
  rw [readChars, h.value]

end HexDigit

theorem hexDigit_digitChar {v : Nat} (hv : v < 16) : HexDigit v.digitChar v := ⟨hv, .inl rfl⟩

namespace FourDigits

variable {ds : List Char} {n : Nat}

theorem not_byteCount_lt (h : FourDigits ds n) (rest : List Char) : ¬ Text.byteCount ((ds ++ rest).take 4) < 4 := by
  cases h with
  | intro ha hb hc hd => simp [Text.byteCount, ha.utf8Size, hb.utf8Size, hc.utf8Size, hd.utf8Size]

/-- Four digits whose number stands for a character. -/
theorem read_char (h : FourDigits ds n) {before : Option Nat} {e : Char} (hunit : decodeUnit n before = .ok (.inl e))
    (rest : List Char) : readChars (.hex 3 0 before) (ds ++ rest) = (readChars .plain rest).map (consText e) := by
  cases h with
  | @intro a b c d _ _ _ _ ha hb hc hd =>
    show readChars (.hex 3 0 before) (a :: b :: c :: d :: rest) = _
    rw [ha.read, hb.read, hc.read, Nat.mul_zero, Nat.zero_add, readChars, hd.value]
    dsimp only
    rw [hunit]

theorem read_high (h : FourDigits ds n) {unit : Nat} (hunit : decodeUnit n none = .ok (.inr unit)) (rest : List Char) :
    readChars (.hex 3 0 none) (ds ++ rest) = readChars (.high unit) rest := by
  cases h with
  | @intro a b c d _ _ _ _ ha hb hc hd =>
    show readChars (.hex 3 0 none) (a :: b :: c :: d :: rest) = _
    rw [ha.read, hb.read, hc.read, Nat.mul_zero, Nat.zero_add, readChars, hd.value]
    dsimp only
    rw [hunit]

end FourDigits

/-- The code points that are characters. -/
theorem toNat_valid (c : Char) : c.toNat < 0xD800 ∨ 0xDFFF < c.toNat ∧ c.toNat < 0x110000 := c.valid

theorem decodeUnit_toNat (c : Char) : decodeUnit c.toNat none = .ok (.inl c) := by
  have hvalid := toNat_valid c
  rw [decodeUnit, if_neg (by omega), if_neg (by omega), Char.ofNat_toNat]

theorem SpellsChar.read {c : Char} {cs : List Char} (h : SpellsChar c cs) (rest : List Char) :
    readChars .plain (cs ++ rest) = (readChars .plain rest).map (consText c) := by
  cases h with
  | plain hquote hslash hcontrol =>
    rw [List.singleton_append, readChars, if_neg hquote, if_neg hslash, if_neg hcontrol]
  | @short e c h =>
    obtain ⟨hu, hvalue⟩ : e ≠ 'u' ∧ escapeValue? e = some c := escapeValue?_of_mem _ h
    show readChars .plain ('\\' :: e :: rest) = _
    rw [readChars, if_neg (by decide), if_pos rfl, readChars, if_neg hu, hvalue]
  | @unit c ds hds =>
    show readChars .plain ('\\' :: 'u' :: (ds ++ rest)) = _
    rw [readChars, if_neg (by decide), if_pos rfl, readChars, if_pos rfl, if_neg (hds.not_byteCount_lt rest),
      hds.read_char (decodeUnit_toNat c)]
  | @pair c hs ls hc hhs hls =>
    have hvalid := toNat_valid c
    have hhigh : decodeUnit (0xD800 + (c.toNat - 0x10000) / 0x400) none =
        .ok (.inr (0xD800 + (c.toNat - 0x10000) / 0x400)) := by
      rw [decodeUnit, if_neg (by omega), if_pos (by omega)]
    have hlow : decodeUnit (0xDC00 + (c.toNat - 0x10000) % 0x400) (some (0xD800 + (c.toNat - 0x10000) / 0x400)) =
        .ok (.inl c) := by
      -- Quotient and remainder give the code point back.
      have hvalue : (0xD800 + (c.toNat - 0x10000) / 0x400 - 0xD800) * 0x400 +
          (0xDC00 + (c.toNat - 0x10000) % 0x400 - 0xDC00) + 0x10000 = c.toNat := by omega
      rw [decodeUnit, if_pos (by omega), hvalue, Char.ofNat_toNat]
    have htext : '\\' :: 'u' :: (hs ++ '\\' :: 'u' :: ls) ++ rest =
        '\\' :: 'u' :: (hs ++ '\\' :: 'u' :: (ls ++ rest)) := by simp
    rw [htext, readChars, if_neg (by decide), if_pos rfl, readChars, if_pos rfl, if_neg (hhs.not_byteCount_lt _),
      hhs.read_high hhigh]
    show readChars (.high _) ('\\' :: 'u' :: (ls ++ rest)) = _
    rw [readChars, if_pos rfl, readChars, if_pos rfl, if_neg (hls.not_byteCount_lt rest), hls.read_char hlow]

/-- Whatever stands for the characters of a text, they are read up to the closing quote. -/
theorem SpellsChars.read {text cs : List Char} (h : SpellsChars text cs) (rest : List Char) :
    readChars .plain (cs ++ '"' :: rest) = .ok (text, rest) := by
  induction h with
  | nil => simp [readChars]
  | cons hc _ ih =>
    rw [List.append_assoc, hc.read, ih]
    rfl

/-! ### Writing -/

theorem spellsChar_writeChar (c : Char) : SpellsChar c (writeChar c) := by
  unfold writeChar
  -- the seven characters with an escape of one letter
  iterate 7
    split
    · subst_vars
      exact .short (by decide)
  split
  · have hdigits := FourDigits.intro (hexDigit_digitChar (v := 0) (by decide)) (hexDigit_digitChar (v := 0) (by decide))
      (hexDigit_digitChar (v := c.toNat / 16) (by omega)) (hexDigit_digitChar (v := c.toNat % 16) (by omega))
    have hvalue : 16 * (16 * (16 * 0 + 0) + c.toNat / 16) + c.toNat % 16 = c.toNat := by omega
    rw [hvalue] at hdigits
    exact .unit hdigits
  · rename_i hquote hslash _ _ _ _ _ hcontrol
    exact .plain hquote hslash hcontrol

theorem spellsChars_written : ∀ text : List Char, SpellsChars text (text.flatMap writeChar)
  | [] => .nil
  | c :: text => .cons (spellsChar_writeChar c) (spellsChars_written text)

end PortGrid.Json
