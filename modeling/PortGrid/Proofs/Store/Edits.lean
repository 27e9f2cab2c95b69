import PortGrid.Store

/-!
# Editing one element of a list

The devices of a state and the ports of a device are edited one at a time: the first element that passes a test is
replaced by its image. An edit that does not change what passes the test can be made before or after one of another
element.

Key theorems: `map_modifyFirst`, `mem_modifyFirst`, `find?_modifyFirst_self`, `modifyFirst_congr`,
`modifyFirst_modifyFirst`, `modifyFirst_of_find?`, `find?_modifyFirst`, `modifyFirst_comm`, `filter_modifyFirst`.
-/

namespace PortGrid

/-! ### What is in the list -/

theorem map_modifyFirst {α β : Type} (test : α → Bool) (f : α → α) (g : α → β) (h : ∀ x, g (f x) = g x) :
    ∀ xs : List α, (modifyFirst test f xs).map g = xs.map g
  | [] => rfl
  | x :: xs => by
    unfold modifyFirst
    by_cases hx : test x = true
    · rw [if_pos hx, List.map_cons, List.map_cons, h]
    · rw [if_neg hx, List.map_cons, List.map_cons, map_modifyFirst test f g h xs]

/-- An element after the change was there before, or is the image of the first that passes the test. -/
theorem mem_modifyFirst {α : Type} {test : α → Bool} {f : α → α} {y : α} :
    ∀ {xs : List α}, y ∈ modifyFirst test f xs → y ∈ xs ∨ ∃ x, xs.find? test = some x ∧ y = f x
  | [], h => .inl h
  | x :: xs, h => by
    unfold modifyFirst at h
    by_cases hx : test x = true
    · rw [if_pos hx] at h
      rcases List.mem_cons.mp h with rfl | h
      · exact .inr ⟨x, List.find?_cons_of_pos hx, rfl⟩
      · exact .inl (List.mem_cons_of_mem x h)
    · rw [if_neg hx] at h
      rcases List.mem_cons.mp h with rfl | h
      · exact .inl List.mem_cons_self
      · rcases mem_modifyFirst h with h | ⟨z, hz, rfl⟩
        · exact .inl (List.mem_cons_of_mem x h)
        · exact .inr ⟨z, (List.find?_cons_of_neg hx).trans hz, rfl⟩

theorem mem_modifyFirst_of_mem {α : Type} (test : α → Bool) (f : α → α) {y : α} :
    ∀ {xs : List α}, y ∈ xs → y ∈ modifyFirst test f xs ∨ (test y = true ∧ f y ∈ modifyFirst test f xs)
  | x :: xs, h => by
    unfold modifyFirst
    by_cases hx : test x = true
    · rw [if_pos hx]
      rcases List.mem_cons.mp h with rfl | h
      · exact .inr ⟨hx, List.mem_cons_self⟩
      · exact .inl (List.mem_cons_of_mem _ h)
    · rw [if_neg hx]
      rcases List.mem_cons.mp h with rfl | h
      · exact .inl List.mem_cons_self
      · exact (mem_modifyFirst_of_mem test f h).imp (List.mem_cons_of_mem x)
          (And.imp_right (List.mem_cons_of_mem x))

section Edits

variable {α : Type} {test test' : α → Bool} {f g : α → α}

/-! ### Edits of the same element -/

theorem find?_modifyFirst_self (hf : ∀ x, test (f x) = test x) :
    ∀ xs : List α, (modifyFirst test f xs).find? test = (xs.find? test).map f
  | [] => rfl
  | x :: xs => by
    unfold modifyFirst
    by_cases hx : test x = true
    · rw [if_pos hx, List.find?_cons_of_pos ((hf x).trans hx), List.find?_cons_of_pos hx, Option.map_some]
    · rw [if_neg hx, List.find?_cons_of_neg hx, List.find?_cons_of_neg hx, find?_modifyFirst_self hf xs]

theorem modifyFirst_congr : ∀ {xs : List α}, (∀ x, xs.find? test = some x → f x = g x) →
    modifyFirst test f xs = modifyFirst test g xs
  | [], _ => rfl
  | x :: xs, h => by
    unfold modifyFirst
    by_cases hx : test x = true
    · rw [if_pos hx, if_pos hx, h x (List.find?_cons_of_pos hx)]
    · rw [if_neg hx, if_neg hx, modifyFirst_congr fun y hy => h y ((List.find?_cons_of_neg hx).trans hy)]

theorem modifyFirst_of_fixed : ∀ {xs : List α}, (∀ x, xs.find? test = some x → f x = x) →
    modifyFirst test f xs = xs
  | [], _ => rfl
  | x :: xs, h => by
    unfold modifyFirst
    by_cases hx : test x = true
    · rw [if_pos hx, h x (List.find?_cons_of_pos hx)]
    · rw [if_neg hx, modifyFirst_of_fixed fun y hy => h y ((List.find?_cons_of_neg hx).trans hy)]

theorem modifyFirst_modifyFirst (hf : ∀ x, test (f x) = test x) :
    ∀ xs : List α, modifyFirst test g (modifyFirst test f xs) = modifyFirst test (fun x => g (f x)) xs
  | [] => rfl
  | x :: xs => by
    have ih := modifyFirst_modifyFirst hf xs
    by_cases hx : test x = true
    · simp [modifyFirst, hx, hf]
    · simp [modifyFirst, hx, ih]

/-- An edit goes past elements that do not pass the test, to the first that does. -/
theorem modifyFirst_append {x : α} (hx : test x = true) (after : List α) : ∀ {before : List α},
    (∀ y ∈ before, test y = false) → modifyFirst test f (before ++ x :: after) = before ++ f x :: after
  | [], _ => by
    rw [List.nil_append, modifyFirst, if_pos hx, List.nil_append]
  | y :: before, h => by
    rw [List.forall_mem_cons] at h
    have hy : ¬ test y = true := by simp [h.1]
    rw [List.cons_append, modifyFirst, if_neg hy, modifyFirst_append hx after h.2, List.cons_append]

/-- The element that is found is replaced, and all the others stay where they are. -/
theorem modifyFirst_of_find? {x : α} {xs : List α} (h : xs.find? test = some x) :
    ∃ before after, xs = before ++ x :: after ∧ (∀ y ∈ before, test y = false) ∧
      modifyFirst test f xs = before ++ f x :: after := by
  obtain ⟨hx, before, after, rfl, hnone⟩ := List.find?_eq_some_iff_append.mp h
  have hbefore : ∀ y ∈ before, test y = false := fun y hy => by simpa using hnone y hy
  exact ⟨before, after, rfl, hbefore, modifyFirst_append hx after hbefore⟩

/-! ### Edits of different elements -/

/-- The change of an element leaves alone what is found by a test that this element does not pass. -/
theorem find?_modifyFirst (hf : ∀ x, test' (f x) = test' x) (hne : ∀ x, test x = true → test' x = false) :
    ∀ xs : List α, (modifyFirst test f xs).find? test' = xs.find? test'
  | [] => rfl
  | x :: xs => by
    unfold modifyFirst
    by_cases hx : test x = true
    · have hout := hne x hx
      rw [if_pos hx, List.find?_cons_of_neg (by simp [hf, hout]), List.find?_cons_of_neg (by simp [hout])]
    · rw [if_neg hx, List.find?_cons, List.find?_cons, find?_modifyFirst hf hne xs]

/-- The first elements that pass two tests can be changed in either order, if no element passes both. -/
theorem modifyFirst_comm (hf : ∀ x, test' (f x) = test' x) (hg : ∀ x, test (g x) = test x)
    (hne : ∀ x, test x = true → test' x = false) :
    ∀ xs : List α, modifyFirst test' g (modifyFirst test f xs) = modifyFirst test f (modifyFirst test' g xs)
  | [] => rfl
  | x :: xs => by
    have ih := modifyFirst_comm hf hg hne xs
    by_cases hx : test x = true
    · have hout := hne x hx
      simp [modifyFirst, hx, hout, hf]
    · by_cases hx' : test' x = true
      · simp [modifyFirst, hx, hx', hg]
      · simp [modifyFirst, hx, hx', ih]

/-- The first element that passes one test can be changed before or behind a filter that lets it through. -/
theorem filter_modifyFirst (hf : ∀ x, test' (f x) = test' x) (hin : ∀ x, test x = true → test' x = true) :
    ∀ xs : List α, (modifyFirst test f xs).filter test' = modifyFirst test f (xs.filter test')
  | [] => rfl
  | x :: xs => by
    have ih := filter_modifyFirst hf hin xs
    by_cases hx : test x = true
    · have hpass := hin x hx
      simp [modifyFirst, hx, hpass, hf]
    · by_cases hx' : test' x = true
      · simp [modifyFirst, hx, hx', ih]
      · simp [modifyFirst, hx, hx', ih]

end Edits
end PortGrid
