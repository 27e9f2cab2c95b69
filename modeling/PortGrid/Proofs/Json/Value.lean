import PortGrid.Proofs.Json.Record

/-!
# Any value is skipped

The grammar of JSON values: words, texts, numbers, lists and objects, nested to any depth, with white space between
their tokens. In the texts the halves of surrogate pairs need not match. Whatever the grammar derives is skipped by the
reader if it has as much fuel as the text has characters, and it always has more. So a member of an unknown name takes
every draft to itself.

Key definitions: `Characters`, `Numeral`, `Value`, `Elements`, `Members`.
Key theorems: `skipChars_ok`, `skipNumber_ok`, `skipValue_ok`, `takes_unknown`.
-/

namespace PortGrid.Json

/-! ### Texts -/

/-- The characters of a text, up to its closing quote. -/
inductive Characters : List Char → Prop where
  | nil : Characters []
  | plain {c : Char} {cs : List Char} (hquote : c ≠ '"') (hslash : c ≠ '\\') (hcontrol : ¬ c.toNat < 0x20)
    (hcs : Characters cs) : Characters (c :: cs)
  | short {e c : Char} {cs : List Char} (he : (e, c) ∈ shortEscapes) (hcs : Characters cs) :
    Characters ('\\' :: e :: cs)
  | unit {ds cs : List Char} {n : Nat} (hds : FourDigits ds n) (hcs : Characters cs) :
    Characters ('\\' :: 'u' :: (ds ++ cs))

theorem FourDigits.skip {ds : List Char} {n : Nat} (h : FourDigits ds n) (rest : List Char) :
    skipChars false 4 (ds ++ rest) = skipChars false 0 rest := by
  cases h with
  | intro ha hb hc hd => simp [skipChars, ha.value, hb.value, hc.value, hd.value]

theorem skipChars_ok {cs : List Char} (h : Characters cs) (rest : List Char) :
    skipChars false 0 (cs ++ '"' :: rest) = .ok rest := by
  induction h with
  | nil => simp [skipChars]
  | plain hquote hslash hcontrol _ ih =>
    simp only [List.cons_append, skipChars, ne_eq, not_true_eq_false, if_false, Bool.false_eq_true, hquote, hslash,
      hcontrol, ih]
  | @short e c cs he _ ih =>
    obtain ⟨hu, hvalue⟩ : e ≠ 'u' ∧ escapeValue? e = some c := escapeValue?_of_mem _ he
    simp [skipChars, hu, hvalue, ih]
  | @unit ds cs n hds _ ih =>
    have hbytes := hds.not_byteCount_lt (cs ++ '"' :: rest)
    simp [skipChars, hbytes, hds.skip, ih]

/-! ### Numbers -/

def Run (ds : List Char) : Prop := ds ≠ [] ∧ Digits ds

/-- The digits in front of the point: a zero, or digits that begin with another one. -/
def Whole (ds : List Char) : Prop := ds = ['0'] ∨ Run ds ∧ ds.head? ≠ some '0'

/-- The point and the digits behind it, or nothing. -/
inductive Places : List Char → Prop where
  | none : Places []
  | digits {ds : List Char} (hds : Run ds) : Places ('.' :: ds)

/-- The letter of an exponent with its digits, or nothing. -/
inductive Exponent : List Char → Prop where
  | none : Exponent []
  | digits {e : Char} {sign ds : List Char} (he : e = 'e' ∨ e = 'E') (hsign : sign ∈ [[], ['+'], ['-']])
    (hds : Run ds) : Exponent (e :: (sign ++ ds))

inductive Numeral : List Char → Prop where
  | intro {sign whole places exponent : List Char} (hsign : sign ∈ [[], ['-']]) (hwhole : Whole whole)
    (hplaces : Places places) (hexponent : Exponent exponent) : Numeral (sign ++ (whole ++ (places ++ exponent)))

section Numbers

variable {cs ds rest : List Char}

/-- Where digits end, a number may end or go on with a point or an exponent. -/
theorem Run.skip (h : Run ds) (hrest : Stops isAsciiDigit rest) : skipDigits (ds ++ rest) = .ok rest := by
  obtain ⟨hne, hdigits⟩ := h
  have hdrop := dropWhile_run hdigits.ascii hrest
  cases ds with
  | nil => exact absurd rfl hne
  | cons c ds =>
    have hc := hdigits.ascii c List.mem_cons_self
    rw [List.cons_append, List.dropWhile_cons, if_pos hc] at hdrop
    rw [List.cons_append, skipDigits, if_pos hc, hdrop]

theorem Follows.stops (h : Follows rest) : Stops isAsciiDigit rest :=
  fun c hc => (not_numeral_of_behind (h c hc)).1

theorem Exponent.stops (h : Exponent cs) (hrest : Follows rest) : Stops isAsciiDigit (cs ++ rest) := by
  cases h with
  | none => exact hrest.stops
  | digits he => rcases he with rfl | rfl <;> exact stops_cons (by decide) _

theorem Places.stops (h : Places cs) (hrest : Stops isAsciiDigit rest) : Stops isAsciiDigit (cs ++ rest) := by
  cases h with
  | none => exact hrest
  | digits => exact stops_cons (by decide) _

theorem not_sign_of_isDigit {c : Char} (h : c.isDigit = true) : c ≠ '+' ∧ c ≠ '-' :=
  ⟨by rintro rfl; exact absurd h (by decide), by rintro rfl; exact absurd h (by decide)⟩

theorem Exponent.skip (h : Exponent cs) (hrest : Follows rest) : skipExponent (cs ++ rest) = .ok rest := by
  cases h with
  | none =>
    cases rest with
    | nil => rfl
    | cons c rest =>
      obtain ⟨-, -, he, hE⟩ := not_numeral_of_behind (hrest c rfl)
      simp [skipExponent, he, hE]
  | @digits e sign ds he hsign hds =>
    have hskip := hds.skip hrest.stops
    simp only [List.mem_cons, List.not_mem_nil, or_false] at hsign
    rcases hsign with rfl | rfl | rfl
    · obtain ⟨hne, hdigits⟩ := hds
      cases ds with
      | nil => exact absurd rfl hne
      | cons c ds =>
        obtain ⟨hplus, hminus⟩ := not_sign_of_isDigit (hdigits c List.mem_cons_self)
        simpa [skipExponent, he, hplus, hminus] using hskip
    · simpa [skipExponent, he] using hskip
    · simpa [skipExponent, he] using hskip

theorem Places.skip {exponent : List Char} (h : Places cs) (hexponent : Exponent exponent) (hrest : Follows rest) :
    skipPlaces (cs ++ (exponent ++ rest)) = .ok rest := by
  have hskip := hexponent.skip hrest
  cases h with
  | digits hds =>
    rw [List.cons_append, skipPlaces, hds.skip (hexponent.stops hrest)]
    exact hskip
  | none =>
    -- neither an exponent nor what follows a number begins with a point
    have hpoint : ∀ c more, exponent ++ rest = c :: more → c ≠ '.' := by
      intro c more hcons
      cases hexponent with
      | none => exact (not_numeral_of_behind (hrest c (by rw [List.nil_append] at hcons; rw [hcons]; rfl))).2.1
      | digits he =>
        obtain ⟨rfl, -⟩ := List.cons.inj hcons
        rcases he with rfl | rfl <;> decide
    rw [List.nil_append]
    cases hcons : exponent ++ rest with
    | nil => rwa [hcons] at hskip
    | cons c more =>
      rw [hcons] at hskip
      have hc := hpoint c more hcons
      simpa [skipPlaces, hc] using hskip

theorem skipNumber_ok {whole places exponent : List Char} (hwhole : Whole whole) (hplaces : Places places)
    (hexponent : Exponent exponent) (hrest : Follows rest) :
    skipNumber (whole ++ (places ++ (exponent ++ rest))) = .ok rest := by
  have hskip := hplaces.skip hexponent hrest
  have hstops := hplaces.stops (hexponent.stops hrest)
  rcases hwhole with rfl | ⟨⟨hne, hdigits⟩, hzero⟩
  · show skipNumber ('0' :: (places ++ (exponent ++ rest))) = _
    cases hcons : places ++ (exponent ++ rest) with
    | nil =>
      simp only [List.append_eq_nil_iff] at hcons
      obtain ⟨-, -, rfl⟩ := hcons
      rfl
    | cons c more =>
      rw [hcons] at hskip hstops
      simp [skipNumber, hstops c rfl, hskip]
  · have hdrop := dropWhile_run hdigits.ascii hstops
    cases whole with
    | nil => exact absurd rfl hne
    | cons c whole =>
      have hc : c ≠ '0' := fun h => hzero (congrArg some h)
      have hcdigit := hdigits.ascii c List.mem_cons_self
      rw [List.cons_append, List.dropWhile_cons, if_pos hcdigit] at hdrop
      simp [skipNumber, hc, hcdigit, hdrop, hskip]

end Numbers

/-! ### Values -/

mutual

inductive Value : List Char → Prop where
  | null : Value writeNull
  | boolean (b : Bool) : Value (writeBoolean b)
  | number {cs : List Char} (hcs : Numeral cs) : Value cs
  | text {cs : List Char} (hcs : Characters cs) : Value ('"' :: (cs ++ ['"']))
  | list {cs : List Char} (hcs : Elements true cs) : Value ('[' :: cs)
  | object {cs : List Char} (hcs : Members true cs) : Value ('{' :: cs)

/-- The elements of a list, from where the next one may begin up to the closing bracket. -/
inductive Elements : Bool → List Char → Prop where
  | close {isFirst : Bool} {ws : List Char} (hws : Spaces ws) : Elements isFirst (ws ++ [']'])
  | next {isFirst : Bool} {sep v tail : List Char} (hsep : Separator isFirst sep) (hv : Value v)
    (htail : Elements false tail) : Elements isFirst (sep ++ (v ++ tail))

/-- The members of an object, from where the next one may begin up to the closing brace. -/
inductive Members : Bool → List Char → Prop where
  | close {isFirst : Bool} {ws : List Char} (hws : Spaces ws) : Members isFirst (ws ++ ['}'])
  | next {isFirst : Bool} {sep name ws ws' v tail : List Char} (hsep : Separator isFirst sep) (hname : Characters name)
    (hws : Spaces ws) (hws' : Spaces ws') (hv : Value v) (htail : Members false tail) :
    Members isFirst (sep ++ '"' :: (name ++ '"' :: (ws ++ ':' :: (ws' ++ (v ++ tail)))))

end

theorem Elements.follows {cs : List Char} (h : Elements false cs) (rest : List Char) : Follows (cs ++ rest) := by
  cases h with
  | close hws => exact follows_close hws rfl rest
  | next hsep _ _ =>
    rw [List.append_assoc]
    exact hsep.follows _

theorem Members.follows {cs : List Char} (h : Members false cs) (rest : List Char) : Follows (cs ++ rest) := by
  cases h with
  | close hws => exact follows_close hws rfl rest
  | next hsep _ _ _ _ _ =>
    rw [List.append_assoc]
    exact hsep.follows _

theorem Whole.begins {ds : List Char} (h : Whole ds) : ∃ c t, ds = c :: t ∧ c.isDigit = true := by
  rcases h with rfl | ⟨⟨hne, hdigits⟩, -⟩
  · exact ⟨'0', [], rfl, by decide⟩
  · cases ds with
    | nil => exact absurd rfl hne
    | cons c ds => exact ⟨c, ds, rfl, hdigits c List.mem_cons_self⟩

theorem Numeral.begins {cs : List Char} (h : Numeral cs) : ∃ c t, cs = c :: t ∧ isSpace c = false ∧ c ≠ ']' := by
  cases h with
  | @intro sign whole places exponent hsign hwhole _ _ =>
    simp only [List.mem_cons, List.not_mem_nil, or_false] at hsign
    rcases hsign with rfl | rfl
    · obtain ⟨c, t, rfl, hc⟩ := hwhole.begins
      obtain ⟨hspace, hlist, -⟩ := numeral_of_isDigit hc
      exact ⟨c, _, rfl, hspace, hlist⟩
    · exact ⟨'-', _, rfl, by decide, by decide⟩

/-- A value begins with a character that is not white space and ends no list. -/
theorem Value.begins {v : List Char} (h : Value v) : ∃ c t, v = c :: t ∧ isSpace c = false ∧ c ≠ ']' := by
  cases h with
  | null => exact ⟨'n', _, rfl, by decide, by decide⟩
  | boolean b =>
    cases b
    · exact ⟨'f', _, rfl, by decide, by decide⟩
    · exact ⟨'t', _, rfl, by decide, by decide⟩
  | number hcs => exact hcs.begins
  | text => exact ⟨'"', _, rfl, by decide, by decide⟩
  | list => exact ⟨'[', _, rfl, by decide, by decide⟩
  | object => exact ⟨'{', _, rfl, by decide, by decide⟩

theorem Elements.length_pos {isFirst : Bool} {cs : List Char} (h : Elements isFirst cs) : 0 < cs.length := by
  cases h with
  | close _ => simp
  | next _ hv _ =>
    obtain ⟨c, t, rfl, -⟩ := hv.begins
    simp only [List.length_append, List.length_cons]
    omega

theorem Members.length_pos {isFirst : Bool} {cs : List Char} (h : Members isFirst cs) : 0 < cs.length := by
  cases h with
  | close _ => simp
  | next =>
    simp only [List.length_append, List.length_cons]
    omega

/-! ### Skipping -/

namespace Reader

theorem skipping_ok {f : List Char → Except Fault (List Char)} {cs rest : List Char} (h : f cs = .ok rest) :
    skipping f cs = .ok ((), rest) := by
  rw [skipping, h]
  rfl

theorem skipName_ok {ws name ws' : List Char} (hws : Spaces ws) (hname : Characters name) (hws' : Spaces ws')
    (rest : List Char) : skipName (ws ++ '"' :: (name ++ '"' :: (ws' ++ ':' :: rest))) = .ok ((), rest) := by
  rw [skipName, bind_ok (peek_ok hws (by decide) _)]
  show (advance >>= fun _ => skipping (skipChars false 0) >>= fun _ => colon) _ = _
  rw [bind_ok (advance_ok _ _), bind_ok (skipping_ok (skipChars_ok hname _)), colon_ok hws']

/-- A number is skipped, with its sign or without. -/
theorem skipValue_numeral {cs ws rest : List Char} (h : Numeral cs) (hws : Spaces ws) (hrest : Follows rest)
    (fuel : Nat) : skipValue (fuel + 1) (ws ++ (cs ++ rest)) = .ok ((), rest) := by
  cases h with
  | @intro sign whole places exponent hsign hwhole hplaces hexponent =>
    have hskip := skipNumber_ok hwhole hplaces hexponent hrest
    simp only [List.mem_cons, List.not_mem_nil, or_false] at hsign
    rcases hsign with rfl | rfl
    · obtain ⟨c, t, rfl, hc⟩ := hwhole.begins
      have hother : ∀ d : Char, d.isDigit = false → c ≠ d := by
        rintro d hd rfl
        rw [hc] at hd
        cases hd
      have hn := hother 'n' (by decide)
      have ht := hother 't' (by decide)
      have hf := hother 'f' (by decide)
      have hquote := hother '"' (by decide)
      have hminus := hother '-' (by decide)
      simp only [List.nil_append, List.append_assoc, List.cons_append] at hskip ⊢
      rw [skipValue, bind_ok (peek_ok hws (numeral_of_isDigit hc).1 _)]
      simp only [hn, ht, hf, hquote, hminus, isAsciiDigit_eq, hc, if_false, if_true]
      exact skipping_ok hskip
    · simp only [List.cons_append, List.nil_append, List.append_assoc] at hskip ⊢
      rw [skipValue, bind_ok (peek_ok hws (by decide) _)]
      show (advance >>= fun _ => skipping skipNumber) _ = _
      rw [bind_ok (advance_ok _ _)]
      exact skipping_ok hskip

/-- Where a list goes on, the next value and what is behind it are skipped. -/
theorem skipElements_next {isFirst : Bool} {sep : List Char} (hsep : Separator isFirst sep) {c : Char}
    (hc : isSpace c = false) (hend : c ≠ ']') (fuel : Nat) (rest : List Char) :
    ∃ ws, Spaces ws ∧ skipElements (fuel + 1) isFirst (sep ++ c :: rest) =
      (skipValue fuel >>= fun _ => skipElements fuel false) (ws ++ c :: rest) := by
  cases hsep with
  | first hws =>
    refine ⟨[], spaces_nil, ?_⟩
    rw [skipElements, bind_ok (peek_ok hws hc _)]
    simp only [hend, if_false, if_true, List.nil_append]
  | @comma ws ws' hws hws' =>
    refine ⟨ws', hws', ?_⟩
    rw [skipElements, List.append_assoc, List.cons_append, bind_ok (peek_ok hws (by decide) _)]
    show (advance >>= fun _ => skipValue fuel >>= fun _ => skipElements fuel false) _ = _
    rw [bind_ok (advance_ok _ _)]

/-- Where an object goes on, the next name, its value and what is behind it are skipped. -/
theorem skipMembers_next {isFirst : Bool} {sep : List Char} (hsep : Separator isFirst sep) (fuel : Nat)
    (rest : List Char) :
    ∃ ws, Spaces ws ∧ skipMembers (fuel + 1) isFirst (sep ++ '"' :: rest) =
      (skipName >>= fun _ => skipValue fuel >>= fun _ => skipMembers fuel false) (ws ++ '"' :: rest) := by
  cases hsep with
  | first hws =>
    refine ⟨[], spaces_nil, ?_⟩
    rw [skipMembers, bind_ok (peek_ok hws (by decide) _)]
    rfl
  | @comma ws ws' hws hws' =>
    refine ⟨ws', hws', ?_⟩
    rw [skipMembers, List.append_assoc, List.cons_append, bind_ok (peek_ok hws (by decide) _)]
    show (advance >>= fun _ => skipName >>= fun _ => skipValue fuel >>= fun _ => skipMembers fuel false) _ = _
    rw [bind_ok (advance_ok _ _)]

-- Each step down or along costs one unit of fuel, and each value, element and end takes at least one character.
mutual

/-- A value is skipped with as much fuel as it has characters. -/
theorem skipValue_ok : ∀ (fuel : Nat) {v : List Char}, Value v → v.length ≤ fuel → ∀ {ws rest : List Char},
    Spaces ws → Follows rest → skipValue fuel (ws ++ (v ++ rest)) = .ok ((), rest)
  | 0, v, hv, hfuel, ws, rest, hws, hrest => by
    obtain ⟨c, t, rfl, -⟩ := hv.begins
    simp at hfuel
  | fuel + 1, v, hv, hfuel, ws, rest, hws, hrest => by
    cases hv with
    | null =>
      rw [writeNull, List.cons_append, skipValue, bind_ok (peek_ok hws (by decide) _)]
      exact word_ok ['n', 'u', 'l', 'l'] rest
    | boolean b =>
      cases b
      · rw [writeBoolean, if_neg (by decide), List.cons_append, skipValue, bind_ok (peek_ok hws (by decide) _)]
        exact word_ok ['f', 'a', 'l', 's', 'e'] rest
      · rw [writeBoolean, if_pos rfl, List.cons_append, skipValue, bind_ok (peek_ok hws (by decide) _)]
        exact word_ok ['t', 'r', 'u', 'e'] rest
    | number hcs => exact skipValue_numeral hcs hws hrest fuel
    | text hcs =>
      rw [List.cons_append, List.append_assoc, skipValue, bind_ok (peek_ok hws (by decide) _)]
      show (advance >>= fun _ => skipping (skipChars false 0)) _ = _
      rw [bind_ok (advance_ok _ _)]
      exact skipping_ok (skipChars_ok hcs rest)
    | @list cs hcs =>
      rw [List.cons_append, skipValue, bind_ok (peek_ok hws (by decide) _)]
      show (advance >>= fun _ => skipElements fuel true) _ = _
      rw [bind_ok (advance_ok _ _)]
      exact skipElements_ok fuel hcs (Nat.le_of_succ_le_succ hfuel) rest
    | @object cs hcs =>
      rw [List.cons_append, skipValue, bind_ok (peek_ok hws (by decide) _)]
      show (advance >>= fun _ => skipMembers fuel true) _ = _
      rw [bind_ok (advance_ok _ _)]
      exact skipMembers_ok fuel hcs (Nat.le_of_succ_le_succ hfuel) rest

theorem skipElements_ok : ∀ (fuel : Nat) {isFirst : Bool} {cs : List Char}, Elements isFirst cs → cs.length ≤ fuel →
    ∀ rest, skipElements fuel isFirst (cs ++ rest) = .ok ((), rest)
  | 0, isFirst, cs, hcs, hfuel, rest => by
    have := hcs.length_pos
    omega
  | fuel + 1, isFirst, cs, hcs, hfuel, rest => by
    cases hcs with
    | close hws =>
      rw [List.append_assoc, skipElements, List.singleton_append, bind_ok (peek_ok hws (by decide) _)]
      rfl
    | @next _ sep v tail hsep hv htail =>
      have hpos := htail.length_pos
      simp only [List.length_append] at hfuel
      obtain ⟨c, t, rfl, hc, hend⟩ := hv.begins
      obtain ⟨ws, hws, hnext⟩ := skipElements_next hsep hc hend fuel (t ++ (tail ++ rest))
      simp only [List.append_assoc, List.cons_append]
      rw [hnext, ← List.cons_append, bind_ok (skipValue_ok fuel hv (by omega) hws (htail.follows rest))]
      exact skipElements_ok fuel htail (by simp only [List.length_cons] at hfuel; omega) rest

theorem skipMembers_ok : ∀ (fuel : Nat) {isFirst : Bool} {cs : List Char}, Members isFirst cs → cs.length ≤ fuel →
    ∀ rest, skipMembers fuel isFirst (cs ++ rest) = .ok ((), rest)
  | 0, isFirst, cs, hcs, hfuel, rest => by
    have := hcs.length_pos
    omega
  | fuel + 1, isFirst, cs, hcs, hfuel, rest => by
    cases hcs with
    | close hws =>
      rw [List.append_assoc, skipMembers, List.singleton_append, bind_ok (peek_ok hws (by decide) _)]
      rfl
    | @next _ sep name ws ws' v tail hsep hname hws hws' hv htail =>
      simp only [List.length_append, List.length_cons] at hfuel
      obtain ⟨front, hfront, hnext⟩ :=
        skipMembers_next hsep fuel (name ++ '"' :: (ws ++ ':' :: (ws' ++ (v ++ (tail ++ rest)))))
      simp only [List.append_assoc, List.cons_append]
      rw [hnext, bind_ok (skipName_ok hfront hname hws _),
        bind_ok (skipValue_ok fuel hv (by omega) hws' (htail.follows rest))]
      exact skipMembers_ok fuel htail (by omega) rest

end

theorem skip_ok {ws v rest : List Char} (hws : Spaces ws) (hv : Value v) (hrest : Follows rest) :
    skip (ws ++ (v ++ rest)) = .ok ((), rest) := by
  have hfuel : v.length ≤ 2 * (ws ++ (v ++ rest)).length + 2 := by
    simp only [List.length_append]
    omega
  exact skipValue_ok _ hv hfuel hws hrest

end Reader

/-- A member of an unknown name takes every draft to itself. -/
theorem takes_unknown {δ : Type} {fields : List (Field δ)} {name : String} (hname : name ∉ fields.map (·.name))
    {ws ws' v : List Char} (hws : Spaces ws) (hws' : Spaces ws') (hv : Value v) (d : δ) :
    Takes fields name (ws ++ ':' :: (ws' ++ v)) d d := by
  intro rest hrest
  have hfind : fields.find? (·.name = name) = none := by
    refine List.find?_eq_none.mpr fun field hfield => ?_
    have hne : field.name ≠ name := fun h => hname (List.mem_map.mpr ⟨field, hfield, h⟩)
    simpa using hne
  rw [Shape.member, hfind]
  simp only [List.append_assoc, List.cons_append]
  rw [bind_ok (Reader.colon_ok hws _), bind_ok (Reader.skip_ok hws' hv hrest)]
  rfl

end PortGrid.Json
