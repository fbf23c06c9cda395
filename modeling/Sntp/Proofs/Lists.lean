/-!
# Facts about lists

Where a list in two parts is cut, which member is the first with a property, what is picked last from a list, and what is
left when members at its end are dropped.
-/

set_option autoImplicit false

namespace Sntp

/-- A list in two parts is cut at one of its members in the first part or in the second. -/
theorem append_eq_append_cons {α : Type} {first second before after : List α} {x : α}
    (h : first ++ second = before ++ x :: after) :
    (∃ rest, first = before ++ x :: rest) ∨ ∃ rest, before = first ++ rest ∧ second = rest ++ x :: after := by
  rcases List.append_eq_append_iff.mp h with ⟨rest, hbefore, hsecond⟩ | ⟨rest, hfirst, hafter⟩
  · exact .inr ⟨rest, hbefore, hsecond⟩
  · cases rest with
    | nil => exact .inr ⟨[], by simpa using hfirst.symm, by simpa using hafter.symm⟩
    | cons y rest =>
      simp only [List.cons_append, List.cons.injEq] at hafter
      obtain ⟨rfl, -⟩ := hafter
      exact .inl ⟨rest, hfirst⟩

/-- Among the members of a list that have a property, one is the first. -/
theorem exists_first {α : Type} {property : α → Prop} {members : List α} (h : ∃ x ∈ members, property x) :
    ∃ before x after, members = before ++ x :: after ∧ (∀ y ∈ before, ¬ property y) ∧ property x := by
  induction members with
  | nil =>
    obtain ⟨x, hmem, -⟩ := h
    cases hmem
  | cons first rest ih =>
    by_cases hfirst : property first
    · exact ⟨[], first, rest, rfl, by simp, hfirst⟩
    · obtain ⟨x, hmem, hx⟩ := h
      have hrest := (List.mem_cons.mp hmem).resolve_left fun heq => hfirst (heq ▸ hx)
      obtain ⟨before, y, after, rfl, hbefore, hy⟩ := ih ⟨x, hrest, hx⟩
      exact ⟨first :: before, y, after, rfl, List.forall_mem_cons.mpr ⟨hfirst, hbefore⟩, hy⟩

/-- What is picked last from a list is picked last from its rest, or else from its first member. -/
theorem getLast?_filterMap_cons {α β : Type} (pick : α → Option β) (first : α) (rest : List α) (otherwise : β) :
    ((first :: rest).filterMap pick).getLast?.getD otherwise =
      (rest.filterMap pick).getLast?.getD ((pick first).getD otherwise) := by
  rw [List.filterMap_cons]
  cases pick first with
  | none => rfl
  | some value => rw [List.getLast?_cons, Option.getD_some, Option.getD_some]

/-- What comes before a member from which something is picked does not matter. -/
theorem getLast?_filterMap_append_cons {α β : Type} {pick : α → Option β} {x : α} {value : β} (h : pick x = some value)
    (before after : List α) (otherwise : β) :
    ((before ++ x :: after).filterMap pick).getLast?.getD otherwise = (after.filterMap pick).getLast?.getD value := by
  induction before generalizing otherwise with
  | nil => rw [List.nil_append, getLast?_filterMap_cons, h, Option.getD_some]
  | cons first rest ih => rw [List.cons_append, getLast?_filterMap_cons, ih]

/-- What is left when members at the end are dropped was there before. -/
theorem reverse_dropWhile_reverse_subset {α : Type} (drops : α → Bool) (members : List α) :
    (members.reverse.dropWhile drops).reverse ⊆ members := by
  intro x hmem
  have hkept : x ∈ members.reverse := (List.dropWhile_suffix drops).subset (List.mem_reverse.mp hmem)
  exact List.mem_reverse.mp hkept

end Sntp
