import PortGrid.Proofs.Json.Value

/-!
# Loose texts of a document

A document is JSON text as a tree: tokens, lists, and objects, each object with the names that it knows. Its compact
text is what the writers put down. A loose text of it has the members of its objects in any order, among them members of
unknown names with any values, and white space between any two tokens. A document is read as a value if all its loose
texts spell the value. For a list that follows from its elements, and for an object from its shape, if the drafts of the
shape are told apart by the names found so far.

Key definitions: `Document`, `Document.compact`, `Document.without`, `Loosely`, `Document.Reads`.
Key theorems: `loosely_compact`, `Document.reads_list`, `Document.reads_without`, `Document.reads_object`.
-/

namespace PortGrid.Json

/-- JSON text as a tree. An object comes with all names that it knows, also those of which it has no member. -/
inductive Document where
  | token (text : List Char)
  | list (elements : List Document)
  | object (known : List String) (members : List (String × Document))

/-- The text without white space, with the members in their order. -/
def Document.compact : Document → List Char
  | .token text => text
  | .list elements => writeList (elements.map compact)
  | .object _ members => writeObject (members.map fun m => (m.1, m.2.compact))
decreasing_by
  · decreasing_trivial
  · have hlt := List.sizeOf_lt_of_mem ‹m ∈ members›
    cases m
    simp only [Prod.mk.sizeOf_spec] at hlt
    simp only [object.sizeOf_spec]
    omega

/-- The document without the members of the given names. -/
def Document.without (dropped : List String) : Document → Document
  | .object known members => .object known (members.filter (·.1 ∉ dropped))
  | d => d

@[simp]
theorem Document.without_nil (d : Document) : d.without [] = d := by
  cases d <;> simp [without]

mutual

/-- A text of the document, but for the order of members, unknown members and white space. -/
inductive Loosely : Document → List Char → Prop where
  | token (text : List Char) : Loosely (.token text) text
  | list {elements : List Document} {cs : List Char} (hcs : LooseElements true elements cs) :
    Loosely (.list elements) ('[' :: cs)
  | object {known : List String} {members order : List (String × Document)} {cs : List Char}
    (horder : order.Perm members) (hcs : LooseMembers known true order cs) : Loosely (.object known members) ('{' :: cs)

/-- A text of the elements, from where the next one may begin up to the closing bracket. -/
inductive LooseElements : Bool → List Document → List Char → Prop where
  | close {isFirst : Bool} {ws : List Char} (hws : Spaces ws) : LooseElements isFirst [] (ws ++ [']'])
  | next {isFirst : Bool} {d : Document} {ds : List Document} {sep cs tail : List Char} (hsep : Separator isFirst sep)
    (hcs : Loosely d cs) (htail : LooseElements false ds tail) : LooseElements isFirst (d :: ds) (sep ++ (cs ++ tail))

/-- A text of the members and of others whose names are unknown, from where the next one may begin up to the closing
brace. -/
inductive LooseMembers : List String → Bool → List (String × Document) → List Char → Prop where
  | close {known : List String} {isFirst : Bool} {ws : List Char} (hws : Spaces ws) :
    LooseMembers known isFirst [] (ws ++ ['}'])
  | next {known : List String} {isFirst : Bool} {name : String} {d : Document} {ms : List (String × Document)}
    {sep ws ws' cs tail : List Char} (hsep : Separator isFirst sep) (hws : Spaces ws) (hws' : Spaces ws')
    (hcs : Loosely d cs) (htail : LooseMembers known false ms tail) :
    LooseMembers known isFirst ((name, d) :: ms) (sep ++ (writeText name ++ (ws ++ ':' :: (ws' ++ (cs ++ tail)))))
  | unknown {known : List String} {isFirst : Bool} {name : String} {ms : List (String × Document)}
    {sep text ws ws' v tail : List Char} (hsep : Separator isFirst sep) (hname : name ∉ known)
    (htext : SpellsChars name.toList text) (hws : Spaces ws) (hws' : Spaces ws') (hv : Value v)
    (htail : LooseMembers known false ms tail) :
    LooseMembers known isFirst ms (sep ++ '"' :: (text ++ '"' :: (ws ++ ':' :: (ws' ++ (v ++ tail)))))

end

/-! ### Compact texts -/

/-- Elements with nothing but commas between them, behind any separator. -/
theorem looseElements_compact : ∀ {ds : List Document} {isFirst : Bool} {sep : List Char}, ds ≠ [] →
    Separator isFirst sep → (∀ d ∈ ds, Loosely d d.compact) →
    LooseElements isFirst ds (sep ++ (writeSeparated (ds.map Document.compact) ++ [']']))
  | [d], _, _, _, hsep, h => .next hsep (h d List.mem_cons_self) (.close spaces_nil)
  | d :: e :: ds, _, _, _, hsep, h => by
    have htail := looseElements_compact (List.cons_ne_nil e ds) separator_comma fun f hf =>
      h f (List.mem_cons_of_mem d hf)
    have hnext := LooseElements.next hsep (h d List.mem_cons_self) htail
    simpa [writeSeparated] using hnext

theorem looseMembers_compact {known : List String} : ∀ {ms : List (String × Document)} {isFirst : Bool}
    {sep : List Char}, ms ≠ [] → Separator isFirst sep → (∀ m ∈ ms, Loosely m.2 m.2.compact) →
    LooseMembers known isFirst ms (sep ++ (writeSeparated (ms.map fun m => writeMember m.1 m.2.compact) ++ ['}']))
  | [(name, d)], _, _, _, hsep, h => by
    have hnext : LooseMembers known _ [(name, d)] _ :=
      .next hsep spaces_nil spaces_nil (h (name, d) List.mem_cons_self) (.close spaces_nil)
    simpa [writeSeparated, writeMember] using hnext
  | (name, d) :: m :: ms, _, _, _, hsep, h => by
    have htail : LooseMembers known false (m :: ms) _ :=
      looseMembers_compact (List.cons_ne_nil m ms) separator_comma fun n hn => h n (List.mem_cons_of_mem _ hn)
    have hnext : LooseMembers known _ ((name, d) :: m :: ms) _ :=
      .next hsep spaces_nil spaces_nil (h (name, d) List.mem_cons_self) htail
    simpa [writeSeparated, writeMember] using hnext

/-- The compact text is one of the loose ones. -/
theorem loosely_compact (d : Document) : Loosely d d.compact := by
  induction d using Document.compact.induct with
  | case1 text =>
    rw [Document.compact]
    exact .token text
  | case2 elements ih =>
    rw [Document.compact]
    cases elements with
    | nil => exact .list (.close spaces_nil)
    | cons d ds => exact .list (looseElements_compact (List.cons_ne_nil d ds) separator_nil ih)
  | case3 known members ih =>
    rw [Document.compact, writeObject, List.map_map]
    cases members with
    | nil => exact .object (List.Perm.refl _) (.close spaces_nil)
    | cons m ms => exact .object (List.Perm.refl _) (looseMembers_compact (List.cons_ne_nil m ms) separator_nil ih)

/-! ### Reading -/

namespace Document

/-- Every loose text of the document spells the value for the reader. -/
def Reads {α : Type} (r : Reader α) (d : Document) (x : α) : Prop := ∀ cs, Loosely d cs → Spells r cs x

theorem reads_token {α : Type} {r : Reader α} {text : List Char} {x : α} (h : Spells r text x) :
    Reads r (.token text) x := by
  intro cs hcs
  cases hcs
  exact h

section Lists

variable {α : Type} {r : Reader α} {document : α → Document}

/-- A loose text of elements spells the values as which they are read. -/
theorem elementsText_of_loose : ∀ {xs : List α} {isFirst : Bool} {cs : List Char}, (∀ x ∈ xs, Reads r (document x) x) →
    LooseElements isFirst (xs.map document) cs → ElementsText r isFirst xs cs
  | [], _, _, _, .close hws => .close hws
  | x :: _, _, _, h, .next hsep hcs htail =>
    have ih := elementsText_of_loose (fun y hy => h y (List.mem_cons_of_mem x hy)) htail
    .next hsep (h x List.mem_cons_self _ hcs) ih

theorem reads_list {xs : List α} (h : ∀ x ∈ xs, Reads r (document x) x) :
    Reads (Reader.list r) (.list (xs.map document)) xs := by
  intro cs hcs
  cases hcs with
  | list hcs => exact spells_list (elementsText_of_loose h hcs)

end Lists

section Records

variable {δ ρ : Type} {fields : List (Field δ)} {members : List (String × Document)} {draft : List String → δ}

/-- The text is a loose one of a member of the name. -/
def SpelledIn (members : List (String × Document)) (name : String) (cs : List Char) : Prop :=
  ∃ d, (name, d) ∈ members ∧ Loosely d cs

theorem SpelledIn.spells {α : Type} {r : Reader α} {x : α} {name : String} {cs : List Char} {d : Document}
    (h : SpelledIn members name cs) (honly : ∀ e, (name, e) ∈ members → e = d) (hd : Reads r d x) : Spells r cs x := by
  obtain ⟨e, he, hcs⟩ := h
  rw [honly e he] at hcs
  exact hd cs hcs

/-- A loose text of members takes the draft of the names found before them to that of all names. The induction is on the
length of the text, since an unknown member shortens the text but not the list of members. -/
theorem membersText_of_loose (h : Gathers fields draft (SpelledIn members))
    (hnames : ∀ m ∈ members, m.1 ∈ fields.map (·.name)) {isFirst : Bool} {order : List (String × Document)}
    {cs : List Char} (hloose : LooseMembers (fields.map (·.name)) isFirst order cs) (hsub : order ⊆ members)
    {names : List String} (hnodup : (order.map (·.1) ++ names).Nodup) :
    MembersText fields isFirst (draft names) (draft ((order.map (·.1)).reverse ++ names)) cs := by
  cases hloose with
  | close hws => exact .close hws
  | @next _ _ name d ms sep ws ws' cs tail hsep hws hws' hcs htail =>
    have hm : (name, d) ∈ members := hsub List.mem_cons_self
    have hfound : (ms.map (·.1) ++ name :: names).Nodup := List.perm_middle.nodup_iff.mpr hnodup
    have hfresh : name ∉ names := fun hname => (List.nodup_cons.mp hnodup).1 (List.mem_append_right _ hname)
    have hstep := h.takes (hnames _ hm) hfresh hws hws' ⟨d, hm, hcs⟩
    have ih := membersText_of_loose h hnames htail (fun m hm => hsub (List.mem_cons_of_mem _ hm)) hfound
    have hnext := MembersText.next hsep (spellsChars_written name.toList) hstep ih
    simpa [writeText] using hnext
  | @unknown _ _ name _ sep text ws ws' v tail hsep hname htext hws hws' hv htail =>
    have hstep := takes_unknown hname hws hws' hv (draft names)
    have ih := membersText_of_loose h hnames htail hsub hnodup
    have hnext := MembersText.next hsep htext hstep ih
    simpa using hnext
termination_by cs.length
decreasing_by
  all_goals
    subst_vars
    simp only [List.length_append, List.length_cons]
    omega

/-- An object that may lack members is read as what the drafts make of the names of those it has, in whatever order
these were found. -/
theorem reads_without {shape : Shape δ ρ} {known : List String} (hknown : known = shape.fields.map (·.name))
    (h : Gathers shape.fields draft (SpelledIn members)) (hempty : draft [] = shape.empty)
    (hnames : ∀ m ∈ members, m.1 ∈ known) (hnodup : (members.map (·.1)).Nodup) (dropped : List String) {x : ρ}
    (hx : ∀ names, (∀ name, name ∈ names ↔ name ∈ members.map (·.1) ∧ name ∉ dropped) →
      shape.finish (draft names) = .ok x) : Reads shape.read ((object known members).without dropped) x := by
  intro cs hcs
  cases hcs with
  | @object _ _ order cs horder hcs =>
    have hsub : order ⊆ members := fun m hm => (List.mem_filter.mp (horder.subset hm)).1
    have hperm : (order.map (·.1)).Perm ((members.map (·.1)).filter (· ∉ dropped)) := by
      rw [List.filter_map]
      exact horder.map _
    have hfound : (order.map Prod.fst ++ []).Nodup := by
      rw [List.append_nil]
      exact hperm.nodup_iff.mpr (hnodup.sublist List.filter_sublist)
    have htext := membersText_of_loose h (hknown ▸ hnames) (hknown ▸ hcs) hsub hfound
    rw [hempty] at htext
    refine spells_record htext (hx _ fun name => ?_)
    rw [List.append_nil, List.mem_reverse, hperm.mem_iff, List.mem_filter, decide_eq_true_eq]

theorem reads_object {shape : Shape δ ρ} {known : List String} (hknown : known = shape.fields.map (·.name))
    (h : Gathers shape.fields draft (SpelledIn members)) (hempty : draft [] = shape.empty)
    (hnames : ∀ m ∈ members, m.1 ∈ known) (hnodup : (members.map (·.1)).Nodup) {x : ρ}
    (hx : ∀ names, (∀ name, name ∈ names ↔ name ∈ members.map (·.1)) → shape.finish (draft names) = .ok x) :
    Reads shape.read (.object known members) x := by
  have hreads := reads_without hknown h hempty hnames hnodup [] fun names hfound => hx names (by simpa using hfound)
  rwa [without_nil] at hreads

end Records

end Document

end PortGrid.Json
