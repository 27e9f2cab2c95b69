import PortGrid.Proofs.Json.Text
import PortGrid.Proofs.Text.Reading

/-!
# Texts that spell a value

A text spells a value for a reader if the reader takes the value from it, behind any white space and before anything
that may follow a value, and leaves what follows. Here are the values of single tokens: texts, numbers, words, the
variants of an enumeration, and options.

Key definitions: `Spaces`, `Follows`, `Spells`.
Key theorems: `spells_text`, `spells_nat32`, `spells_boolean`, `spells_variant`, `Spells.some`, `spells_none`.
-/

namespace PortGrid.Json

/-- Nothing but white space. -/
def Spaces (ws : List Char) : Prop := ∀ c ∈ ws, isSpace c = true

/-- A character that may stand behind a value: white space, a comma or a closing bracket. -/
def isBehindValue (c : Char) : Bool := isSpace c || c = ',' || c = ']' || c = '}'

/-- What may follow a value: nothing, or a text that begins with such a character. -/
def Follows (rest : List Char) : Prop := ∀ c ∈ rest.head?, isBehindValue c = true

/-- The text spells the value for the reader. It begins with a character that is not white space and ends no list. -/
structure Spells {α : Type} (r : Reader α) (cs : List Char) (x : α) : Prop where
  begins : ∃ c t, cs = c :: t ∧ isSpace c = false ∧ c ≠ ']'
  reads : ∀ ws rest, Spaces ws → Follows rest → r (ws ++ cs ++ rest) = .ok (x, rest)

theorem spaces_nil : Spaces [] := fun _ h => by cases h

theorem follows_nil : Follows [] := fun _ h => by cases h

theorem follows_cons {c : Char} (h : isBehindValue c = true) (cs : List Char) : Follows (c :: cs) := by
  intro d hd
  cases hd
  exact h

/-- White space may follow a value if what is behind the white space may. -/
theorem Follows.spaces {ws rest : List Char} (hws : Spaces ws) (h : Follows rest) : Follows (ws ++ rest) := by
  cases ws with
  | nil => exact h
  | cons c ws => exact follows_cons (by simp [isBehindValue, hws c List.mem_cons_self]) _

/-! ### Steps of a reader -/

theorem dropWhile_spaces {ws : List Char} (hws : Spaces ws) {c : Char} (hc : isSpace c = false) (cs : List Char) :
    (ws ++ c :: cs).dropWhile isSpace = c :: cs :=
  dropWhile_run hws (stops_cons hc cs)

namespace Reader

theorem peek_ok {ws : List Char} (hws : Spaces ws) {c : Char} (hc : isSpace c = false) (cs : List Char) :
    peek (ws ++ c :: cs) = .ok (some c, c :: cs) := by
  rw [peek, dropWhile_spaces hws hc]
  rfl

theorem advance_ok (c : Char) (cs : List Char) : advance (c :: cs) = .ok ((), cs) := rfl

theorem word_ok : ∀ (w rest : List Char), word w (w ++ rest) = .ok ((), rest)
  | [], _ => rfl
  | c :: w, rest => by
    have ih := word_ok w rest
    simp only [word, List.cons_append, readWord, if_pos] at ih ⊢
    exact ih

/-- The characters of a text are read from behind its opening quote, whatever way they are spelled. -/
theorem chars_ok {s : String} {cs : List Char} (h : SpellsChars s.toList cs) (rest : List Char) :
    chars (cs ++ '"' :: rest) = .ok (s, rest) := by
  rw [chars, h.read]
  show Except.ok (String.ofList s.toList, rest) = _
  rw [String.ofList_toList]

theorem colon_ok {ws : List Char} (hws : Spaces ws) (cs : List Char) : colon (ws ++ ':' :: cs) = .ok ((), cs) := by
  rw [colon, bind_ok (peek_ok hws (by decide) cs)]
  rfl

end Reader

/-- A whole text holds the value that it spells between white space. -/
theorem Spells.all {α : Type} {r : Reader α} {x : α} {before cs after : List Char} (h : Spells r cs x)
    (hbefore : Spaces before) (hafter : Spaces after) {text : String} (htext : text.toList = before ++ cs ++ after) :
    r.all text = .ok x := by
  have hfollows : Follows after := List.append_nil after ▸ follows_nil.spaces hafter
  have hread : r text.toList = .ok (x, after) := htext ▸ h.reads before after hbefore hfollows
  have hend : after.dropWhile isSpace = [] := by
    simpa using dropWhile_run hafter (stops_nil isSpace)
  show (r text.toList >>= fun p => if (p.2.dropWhile isSpace).isEmpty then .ok p.1 else _) = _
  rw [hread]
  show (if (after.dropWhile isSpace).isEmpty then Except.ok x else _) = _
  rw [hend]
  rfl

/-! ### Values of one token -/

theorem spells_text (expected s : String) : Spells (Reader.text expected) (writeText s) s where
  begins := ⟨'"', _, rfl, by decide, by decide⟩
  reads ws rest hws _ := by
    have : ws ++ writeText s ++ rest = ws ++ '"' :: (s.toList.flatMap writeChar ++ '"' :: rest) := by
      simp [writeText]
    rw [this, Reader.text, bind_ok (Reader.peek_ok hws (by decide) _)]
    show (Reader.advance >>= fun _ => Reader.chars) _ = _
    rw [bind_ok (Reader.advance_ok _ _), Reader.chars_ok (spellsChars_written _)]

/-- The value of a reader that is mapped. -/
theorem Spells.map {α β : Type} {r : Reader α} {cs : List Char} {x : α} (h : Spells r cs x) (f : α → β) :
    Spells (f <$> r) cs (f x) where
  begins := h.begins
  reads ws rest hws hrest := map_ok (h.reads ws rest hws hrest) f

/-- The value of a reader that goes on to check it. -/
theorem Spells.bind {α β : Type} {r : Reader α} {cs : List Char} {x : α} (h : Spells r cs x) {f : α → Reader β}
    {y : β} (hf : ∀ rest, f x rest = .ok (y, rest)) : Spells (r >>= f) cs y where
  begins := h.begins
  reads ws rest hws hrest := by rw [bind_ok (h.reads ws rest hws hrest), hf]

theorem spells_boolean (b : Bool) : Spells Reader.boolean (writeBoolean b) b where
  begins := by
    cases b
    · exact ⟨'f', _, rfl, by decide, by decide⟩
    · exact ⟨'t', _, rfl, by decide, by decide⟩
  reads ws rest hws _ := by
    rw [Reader.boolean, List.append_assoc]
    cases b
    · rw [writeBoolean, if_neg (by decide), List.cons_append, bind_ok (Reader.peek_ok hws (by decide) _)]
      show (Reader.word ['f', 'a', 'l', 's', 'e'] >>= fun _ => pure false) (['f', 'a', 'l', 's', 'e'] ++ rest) = _
      rw [bind_ok (Reader.word_ok _ _)]
      rfl
    · rw [writeBoolean, if_pos rfl, List.cons_append, bind_ok (Reader.peek_ok hws (by decide) _)]
      show (Reader.word ['t', 'r', 'u', 'e'] >>= fun _ => pure true) (['t', 'r', 'u', 'e'] ++ rest) = _
      rw [bind_ok (Reader.word_ok _ _)]
      rfl

theorem spells_none {α : Type} (r : Reader α) : Spells (Reader.option r) writeNull none where
  begins := ⟨'n', _, rfl, by decide, by decide⟩
  reads ws rest hws _ := by
    rw [Reader.option, List.append_assoc, writeNull, List.cons_append, bind_ok (Reader.peek_ok hws (by decide) _)]
    show (Reader.word ['n', 'u', 'l', 'l'] >>= fun _ => pure none) (['n', 'u', 'l', 'l'] ++ rest) = _
    rw [bind_ok (Reader.word_ok _ _)]
    rfl

/-- A value that does not look like null may stand where null may. -/
theorem Spells.some {α : Type} {r : Reader α} {cs : List Char} {x : α} (h : Spells r cs x)
    (hn : cs.head? ≠ some 'n') : Spells (Reader.option r) cs (some x) where
  begins := h.begins
  reads ws rest hws hrest := by
    obtain ⟨c, t, rfl, hc, -⟩ := h.begins
    have hread : r (c :: (t ++ rest)) = .ok (x, rest) := h.reads [] rest spaces_nil hrest
    have hc' : c ≠ 'n' := fun he => hn (he ▸ rfl)
    rw [Reader.option, List.append_assoc, List.cons_append, bind_ok (Reader.peek_ok hws hc _)]
    simp only [Option.some.injEq, hc', imp_false, not_false_eq_true]
    rw [bind_ok hread]
    rfl

theorem spells_variant {α : Type} {variants : List (String × α)} {name : String} {x : α}
    (h : variants.find? (·.1 = name) = some (name, x)) : Spells (Reader.variant variants) (writeText name) x where
  begins := (spells_text "" name).begins
  reads ws rest hws hrest := by
    have hname : Reader.text "variant identifier" (writeText name ++ rest) = .ok (name, rest) :=
      (spells_text _ name).reads [] rest spaces_nil hrest
    rw [Reader.variant, writeText, List.append_assoc, List.cons_append, bind_ok (Reader.peek_ok hws (by decide) _)]
    show Reader.variantName variants (writeText name ++ rest) = _
    rw [Reader.variantName, bind_ok hname, h]
    rfl

/-! ### Numbers -/

/-- What may follow a value goes on with no number. -/
theorem not_numeral_of_behind {c : Char} (h : isBehindValue c = true) :
    isAsciiDigit c = false ∧ c ≠ '.' ∧ c ≠ 'e' ∧ c ≠ 'E' := by
  simp only [isBehindValue, isSpace, Bool.or_eq_true, decide_eq_true_eq] at h
  rcases h with (((((rfl | rfl) | rfl) | rfl) | rfl) | rfl) | rfl <;> decide

/-- Digits are appended as long as the number fits in 64 bits. -/
theorem appendDigits_eq : ∀ (ds : List Char) (n used : Nat), Nat.ofDigitChars 10 ds n < UInt64.size →
    appendDigits n used ds = (Nat.ofDigitChars 10 ds n, used + ds.length)
  | [], n, used, _ => by simp [appendDigits]
  | c :: ds, n, used, h => by
    rw [Nat.ofDigitChars_cons] at h
    have hnext : 10 * n + (c.toNat - '0'.toNat) < UInt64.size := Nat.lt_of_le_of_lt (le_ofDigitChars ds _) h
    rw [appendDigits, if_pos hnext, appendDigits_eq ds _ _ h, Nat.ofDigitChars_cons, List.length_cons]
    congr 1
    omega

theorem span_digits {ds rest : List Char} (hds : Digits ds) (hrest : Follows rest) :
    (ds ++ rest).takeWhile isAsciiDigit = ds ∧ (ds ++ rest).dropWhile isAsciiDigit = rest := by
  have hstop : Stops isAsciiDigit rest := fun c hc => (not_numeral_of_behind (hrest c hc)).1
  exact ⟨takeWhile_run hds.ascii hstop, dropWhile_run hds.ascii hstop⟩

theorem readNumber_toDigits {n : Nat} (hn : n < UInt64.size) {rest : List Char} (hrest : Follows rest) :
    readNumber false (Nat.toDigits 10 n ++ rest) = .ok (.natural n, rest) := by
  have happend : appendDigits 0 0 (Nat.toDigits 10 n) = (n, (Nat.toDigits 10 n).length) := by
    rw [appendDigits_eq _ _ _ (by rwa [Nat.ofDigitChars_ten_toDigits]), Nat.ofDigitChars_ten_toDigits, Nat.zero_add]
  have hspan := span_digits (Digits.toDigits n) hrest
  cases hds : Nat.toDigits 10 n with
  | nil => exact absurd hds Nat.toDigits_ne_nil
  | cons c t =>
    have hdigit : isAsciiDigit c = true :=
      (isAsciiDigit_eq c).trans (Digits.toDigits n c (hds ▸ List.mem_cons_self))
    -- a number that begins with a zero is zero
    have hzero : c = '0' → t = [] := by
      intro hc
      have h0 := eq_zero_of_toDigits_cons (hc ▸ hds)
      rw [h0, Nat.toDigits_zero] at hds
      exact (List.cons.inj hds).2.symm
    have htake : (if c = '0' then ['0'] else (c :: t ++ rest).takeWhile isAsciiDigit) = c :: t := by
      split
      · rename_i hc
        rw [hc, hzero hc]
      · rw [← hds, hspan.1]
    have hdrop : (if c = '0' then t ++ rest else (c :: t ++ rest).dropWhile isAsciiDigit) = rest := by
      split
      · rename_i hc
        rw [hzero hc, List.nil_append]
      · rw [← hds, hspan.2]
    rw [hds] at happend
    rw [List.cons_append] at htake hdrop ⊢
    simp only [readNumber, hdigit, Bool.not_true, Bool.false_eq_true, if_false, htake, hdrop, happend, Nat.sub_self]
    cases rest with
    | nil => rfl
    | cons d more =>
      obtain ⟨h1, h2, h3, h4⟩ := not_numeral_of_behind (hrest d rfl)
      simp [h1, h2, h3, h4, integer]

/-- A digit begins a number without a sign and is no white space. -/
theorem numeral_of_isDigit {c : Char} (h : c.isDigit = true) : isSpace c = false ∧ c ≠ ']' ∧ c ≠ '-' := by
  refine ⟨?_, ?_, ?_⟩
  · rw [Bool.eq_false_iff]
    intro hs
    simp only [isSpace, Bool.or_eq_true, decide_eq_true_eq] at hs
    rcases hs with ((rfl | rfl) | rfl) | rfl <;> exact absurd h (by decide)
  · rintro rfl
    exact absurd h (by decide)
  · rintro rfl
    exact absurd h (by decide)

theorem spells_nat32 (n : UInt32) : Spells Reader.nat32 (writeNat n.toNat) n := by
  have hsize : n.toNat < UInt32.size := n.toNat_lt_size
  cases hds : writeNat n.toNat with
  | nil => exact absurd hds Nat.toDigits_ne_nil
  | cons c t =>
    have hmem : c ∈ writeNat n.toNat := hds ▸ List.mem_cons_self
    have hdigit : c.isDigit = true := Digits.toDigits n.toNat c hmem
    obtain ⟨hspace, hlist, hminus⟩ := numeral_of_isDigit hdigit
    refine ⟨⟨c, t, rfl, hspace, hlist⟩, fun ws rest hws hrest => ?_⟩
    have hnumber : Reader.anyNumber (c :: (t ++ rest)) = .ok (.natural n.toNat, rest) := by
      have h : readNumber false (writeNat n.toNat ++ rest) = .ok (.natural n.toNat, rest) :=
        readNumber_toDigits (Nat.lt_trans hsize (by decide)) hrest
      rw [hds, List.cons_append] at h
      simp only [Reader.anyNumber, List.cons.injEq, hminus, false_and, imp_false, not_false_eq_true, implies_true, h]
    rw [Reader.nat32, List.append_assoc, List.cons_append, bind_ok (Reader.peek_ok hws hspace _)]
    simp only [isAsciiDigit_eq, hdigit, or_true, if_true]
    rw [bind_ok hnumber]
    simp only [hsize, if_true, UInt32.ofNat_toNat]
    rfl

end PortGrid.Json
