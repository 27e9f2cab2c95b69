import PortGrid.Json.Shape
import PortGrid.Proofs.Json.Spelling

/-!
# Texts that spell lists and records

A list is spelled by the texts of its elements in their order, a record by the texts of its members in any order, with
white space anywhere between them. A member takes the draft of the record one step further; what the members make of
the draft in the end decides the record. `Gathers` says of a shape that its drafts are told apart by the names of the
fields found so far, so the order in which they were found does not matter.

Key definitions: `Separator`, `ElementsText`, `Takes`, `MembersText`, `Gathers`.
Key theorems: `spells_list`, `spells_record`, `Gathers.takes`.
-/

namespace PortGrid.Json

/-- What stands in front of an element or a member: white space, and around it a comma unless it is the first. -/
inductive Separator : Bool → List Char → Prop where
  | first {ws : List Char} (hws : Spaces ws) : Separator true ws
  | comma {ws ws' : List Char} (hws : Spaces ws) (hws' : Spaces ws') : Separator false (ws ++ ',' :: ws')

theorem separator_nil : Separator true [] := .first spaces_nil

theorem separator_comma : Separator false [','] := .comma spaces_nil spaces_nil

theorem Separator.follows {sep : List Char} (h : Separator false sep) (rest : List Char) : Follows (sep ++ rest) := by
  cases h with
  | comma hws _ =>
    rw [List.append_assoc]
    exact (follows_cons rfl _).spaces hws

theorem follows_close {ws : List Char} (hws : Spaces ws) {c : Char} (hc : isBehindValue c = true) (rest : List Char) :
    Follows (ws ++ [c] ++ rest) := by
  rw [List.append_assoc]
  exact (follows_cons hc _).spaces hws

/-! ### Lists -/

section Lists

variable {α : Type} {r : Reader α}

/-- The text of the elements of a list, from where the next one may begin up to the closing bracket. -/
inductive ElementsText (r : Reader α) : Bool → List α → List Char → Prop where
  | close {isFirst : Bool} {ws : List Char} (hws : Spaces ws) : ElementsText r isFirst [] (ws ++ [']'])
  | next {isFirst : Bool} {sep cs tail : List Char} {x : α} {xs : List α} (hsep : Separator isFirst sep)
    (hx : Spells r cs x) (htail : ElementsText r false xs tail) : ElementsText r isFirst (x :: xs) (sep ++ (cs ++ tail))

theorem ElementsText.length_lt {isFirst : Bool} {xs : List α} {text : List Char}
    (h : ElementsText r isFirst xs text) : xs.length < text.length := by
  induction h with
  | close => simp
  | next _ hx _ ih =>
    obtain ⟨c, t, rfl, -⟩ := hx.begins
    simp only [List.length_append, List.length_cons]
    omega

theorem ElementsText.follows {xs : List α} {text : List Char} (h : ElementsText r false xs text) (rest : List Char) :
    Follows (text ++ rest) := by
  cases h with
  | close hws => exact follows_close hws rfl rest
  | next hsep _ _ =>
    rw [List.append_assoc]
    exact hsep.follows _

theorem nextElement_close (isFirst : Bool) {ws : List Char} (hws : Spaces ws) (rest : List Char) :
    Reader.nextElement isFirst (ws ++ ']' :: rest) = .ok (false, ']' :: rest) := by
  rw [Reader.nextElement, bind_ok (Reader.peek_ok hws (by decide) _)]
  rfl

theorem nextElement_next {isFirst : Bool} {sep : List Char} (hsep : Separator isFirst sep) {c : Char}
    (hc : isSpace c = false) (hend : c ≠ ']') (rest : List Char) :
    Reader.nextElement isFirst (sep ++ c :: rest) = .ok (true, c :: rest) := by
  cases hsep with
  | first hws =>
    rw [Reader.nextElement, bind_ok (Reader.peek_ok hws hc _)]
    simp only [hend, if_false, if_true]
    rfl
  | comma hws hws' =>
    rw [Reader.nextElement, List.append_assoc, List.cons_append, bind_ok (Reader.peek_ok hws (by decide) _)]
    show (Reader.advance >>= fun _ => _) _ = _
    rw [bind_ok (Reader.advance_ok _ _), bind_ok (Reader.peek_ok hws' hc _)]
    simp only [hend, if_false]
    rfl

/-- The elements are read one after the other, as long as the count lets them. -/
theorem elements_ok {isFirst : Bool} {xs : List α} {text : List Char} (h : ElementsText r isFirst xs text)
    (rest : List Char) :
    ∀ count, xs.length < count → Reader.elements r count isFirst (text ++ rest) = .ok (xs, rest) := by
  induction h with
  | @close isFirst ws hws =>
    intro count hcount
    obtain ⟨count, rfl⟩ : ∃ k, count = k + 1 := ⟨count - 1, by simp only [List.length_nil] at hcount; omega⟩
    rw [Reader.elements, List.append_assoc, List.singleton_append, bind_ok (nextElement_close isFirst hws _)]
    rfl
  | @next isFirst sep cs tail x xs hsep hx htail ih =>
    intro count hcount
    obtain ⟨count, rfl⟩ : ∃ k, count = k + 1 := ⟨count - 1, by simp only [List.length_cons] at hcount; omega⟩
    have hcount' : xs.length < count := by simpa using hcount
    have hread : r (cs ++ (tail ++ rest)) = .ok (x, tail ++ rest) := hx.reads [] _ spaces_nil (htail.follows rest)
    obtain ⟨c, t, rfl, hc, hend⟩ := hx.begins
    rw [Reader.elements, List.append_assoc, List.append_assoc, List.cons_append,
      bind_ok (nextElement_next hsep hc hend _)]
    simp only [if_true]
    rw [← List.cons_append, bind_ok hread, bind_ok (ih count hcount')]
    rfl

theorem spells_list {xs : List α} {text : List Char} (h : ElementsText r true xs text) :
    Spells (Reader.list r) ('[' :: text) xs where
  begins := ⟨'[', text, rfl, by decide, by decide⟩
  reads ws rest hws _ := by
    have hlength : xs.length < (text ++ rest).length + 1 := by
      have := h.length_lt
      simp only [List.length_append]
      omega
    rw [Reader.list, List.append_assoc, List.cons_append, bind_ok (Reader.peek_ok hws (by decide) _)]
    show (Reader.advance >>= fun _ => get >>= fun cs => Reader.elements r (cs.length + 1) true) _ = _
    rw [bind_ok (Reader.advance_ok _ _)]
    exact elements_ok h rest _ hlength

end Lists

/-! ### Records -/

section Records

variable {δ ρ : Type} {fields : List (Field δ)}

/-- Behind the name of a member stand the colon and the value, and they take one draft to the other. -/
def Takes (fields : List (Field δ)) (name : String) (cs : List Char) (d d' : δ) : Prop :=
  ∀ rest, Follows rest → Shape.member fields name d (cs ++ rest) = .ok (d', rest)

theorem takes_field {name : String} {field : Field δ} (hfield : fields.find? (·.name = name) = some field) {d d' : δ}
    (hempty : field.isFilled d = false) {ws : List Char} (hws : Spaces ws) {ws' : List Char} (hws' : Spaces ws')
    {cs : List Char} (hcs : Spells (field.read d) cs d') : Takes fields name (ws ++ ':' :: (ws' ++ cs)) d d' := by
  intro rest hrest
  have hread : field.read d (ws' ++ cs ++ rest) = .ok (d', rest) := hcs.reads ws' rest hws' hrest
  rw [Shape.member, hfield]
  simp only [hempty, Bool.false_eq_true, if_false]
  rw [List.append_assoc, List.cons_append, bind_ok (Reader.colon_ok hws _), hread]

/-- The text of the members of a record, from where the next one may begin up to the closing brace. The members take
the first draft to the second. -/
inductive MembersText (fields : List (Field δ)) : Bool → δ → δ → List Char → Prop where
  | close {isFirst : Bool} {ws : List Char} {d : δ} (hws : Spaces ws) : MembersText fields isFirst d d (ws ++ ['}'])
  | next {isFirst : Bool} {sep text cs tail : List Char} {name : String} {d d' d'' : δ}
    (hsep : Separator isFirst sep) (hname : SpellsChars name.toList text) (hstep : Takes fields name cs d d')
    (htail : MembersText fields false d' d'' tail) :
    MembersText fields isFirst d d'' (sep ++ '"' :: (text ++ '"' :: (cs ++ tail)))

theorem MembersText.follows {d d' : δ} {text : List Char} (h : MembersText fields false d d' text)
    (rest : List Char) : Follows (text ++ rest) := by
  cases h with
  | close hws => exact follows_close hws rfl rest
  | next hsep _ _ _ =>
    rw [List.append_assoc]
    exact hsep.follows _

theorem nextMember_close (isFirst : Bool) {ws : List Char} (hws : Spaces ws) (rest : List Char) :
    Shape.nextMember isFirst (ws ++ '}' :: rest) = .ok (false, '}' :: rest) := by
  rw [Shape.nextMember, bind_ok (Reader.peek_ok hws (by decide) _)]
  rfl

theorem nextMember_next {isFirst : Bool} {sep : List Char} (hsep : Separator isFirst sep) (rest : List Char) :
    Shape.nextMember isFirst (sep ++ '"' :: rest) = .ok (true, '"' :: rest) := by
  cases hsep with
  | first hws =>
    rw [Shape.nextMember, bind_ok (Reader.peek_ok hws (by decide) _)]
    rfl
  | comma hws hws' =>
    rw [Shape.nextMember, List.append_assoc, List.cons_append, bind_ok (Reader.peek_ok hws (by decide) _)]
    show (Reader.advance >>= fun _ => _) _ = _
    rw [bind_ok (Reader.advance_ok _ _), bind_ok (Reader.peek_ok hws' (by decide) _)]
    rfl

/-- The members are read one after the other, as long as the count lets them. -/
theorem members_ok {isFirst : Bool} {d d' : δ} {text : List Char} (h : MembersText fields isFirst d d' text)
    (rest : List Char) :
    ∀ count, text.length ≤ count → Shape.members fields count isFirst d (text ++ rest) = .ok (d', rest) := by
  induction h with
  | @close isFirst ws d hws =>
    intro count hcount
    obtain ⟨count, rfl⟩ : ∃ k, count = k + 1 := by
      refine ⟨count - 1, ?_⟩
      simp only [List.length_append, List.length_singleton] at hcount
      omega
    rw [Shape.members, List.append_assoc, List.singleton_append, bind_ok (nextMember_close isFirst hws _)]
    rfl
  | @next isFirst sep text cs tail name d d' d'' hsep hname hstep htail ih =>
    intro count hcount
    simp only [List.length_append, List.length_cons] at hcount
    obtain ⟨count, rfl⟩ : ∃ k, count = k + 1 := ⟨count - 1, by omega⟩
    have hmember : Shape.member fields name d (cs ++ (tail ++ rest)) = .ok (d', tail ++ rest) :=
      hstep _ (htail.follows rest)
    have htext : sep ++ '"' :: (text ++ '"' :: (cs ++ tail)) ++ rest =
        sep ++ '"' :: (text ++ '"' :: (cs ++ (tail ++ rest))) := by
      simp only [List.append_assoc, List.cons_append]
    rw [Shape.members, htext, bind_ok (nextMember_next hsep _)]
    simp only [if_true]
    rw [bind_ok (Reader.advance_ok _ _), bind_ok (Reader.chars_ok hname _), bind_ok hmember]
    exact ih count (by omega)

theorem spells_record {shape : Shape δ ρ} {d : δ} {x : ρ} {text : List Char}
    (h : MembersText shape.fields true shape.empty d text) (hx : shape.finish d = .ok x) :
    Spells shape.read ('{' :: text) x where
  begins := ⟨'{', text, rfl, by decide, by decide⟩
  reads ws rest hws _ := by
    have hmembers : Shape.members shape.fields ((text ++ rest).length + 1) true shape.empty (text ++ rest) =
        .ok (d, rest) := by
      refine members_ok h rest _ ?_
      simp only [List.length_append]
      omega
    rw [Shape.read, List.append_assoc, List.cons_append, bind_ok (Reader.peek_ok hws (by decide) _)]
    show (Reader.advance >>= fun _ => get >>= fun cs =>
      Shape.members shape.fields (cs.length + 1) true shape.empty >>= shape.complete) _ = _
    rw [bind_ok (Reader.advance_ok _ _)]
    show (Shape.members shape.fields ((text ++ rest).length + 1) true shape.empty >>= shape.complete) _ = _
    rw [bind_ok hmembers, Shape.complete, hx]
    rfl

/-- The drafts of a record are told apart by the names of the fields found: a field whose name is not among them is
empty, and a text that spells it adds its name. -/
def Gathers (fields : List (Field δ)) (draft : List String → δ) (spelled : String → List Char → Prop) : Prop :=
  ∀ field ∈ fields, ∀ names, field.name ∉ names →
    field.isFilled (draft names) = false ∧
    ∀ cs, spelled field.name cs → Spells (field.read (draft names)) cs (draft (field.name :: names))

/-- A written member takes the draft one name further. -/
theorem Gathers.takes {draft : List String → δ} {spelled : String → List Char → Prop}
    (h : Gathers fields draft spelled) {name : String} (hname : name ∈ fields.map (·.name)) {names : List String}
    (hfresh : name ∉ names) {ws : List Char} (hws : Spaces ws) {ws' : List Char} (hws' : Spaces ws') {cs : List Char}
    (hcs : spelled name cs) : Takes fields name (ws ++ ':' :: (ws' ++ cs)) (draft names) (draft (name :: names)) := by
  cases hfind : fields.find? (·.name = name) with
  | none =>
    obtain ⟨field, hfield, rfl⟩ := List.mem_map.mp hname
    have := List.find?_eq_none.mp hfind field hfield
    simp at this
  | some field =>
    have hfield := List.mem_of_find?_eq_some hfind
    have heq : field.name = name := by simpa using List.find?_some hfind
    subst heq
    obtain ⟨hempty, hread⟩ := h field hfield names hfresh
    exact takes_field hfind hempty hws hws' (hread cs hcs)

end Records

end PortGrid.Json
