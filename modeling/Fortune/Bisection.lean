/-!
Bisection. A test that holds for the first items of a list and for none of the others is tried on a
middle item only, and the search goes on in the half in which it stops to hold. Of a list that is
not divided so, the search finds some place.
-/
namespace Fortune

/-- The number of items for which a test holds, if these are the first ones. -/
def bisect {α : Type} (test : α → Bool) (items : List α) : Nat :=
  if items.length < 2 then (if items.any test then 1 else 0)
  else if (items[items.length / 2]?).any test then
    items.length / 2 + bisect test (items.drop (items.length / 2))
  else bisect test (items.take (items.length - items.length / 2))
termination_by items.length
decreasing_by
  · rw [List.length_drop]
    omega
  · rw [List.length_take]
    omega

/-- The search stops where the test stops to hold. -/
theorem bisect_of_split {α : Type} {test : α → Bool} {items front back : List α}
    (split : items = front ++ back) (holds : ∀ a ∈ front, test a = true)
    (fails : ∀ a ∈ back, test a = false) : bisect test items = front.length := by
  fun_induction bisect test items generalizing front back with
  | case1 items short some =>
    subst split
    cases front with
    | nil =>
      obtain ⟨a, ha, held⟩ := List.any_eq_true.mp some
      rw [fails a ha] at held
      cases held
    | cons a front =>
      rw [List.length_append, List.length_cons] at short
      rw [List.length_cons]
      omega
  | case2 items short none =>
    subst split
    cases front with
    | nil => rfl
    | cons a front =>
      have held : (a :: front ++ back).any test = true :=
        List.any_eq_true.mpr ⟨a, List.mem_cons_self, holds a List.mem_cons_self⟩
      exact absurd held none
  | case3 items long held ih =>
    -- The middle item passes, so it is one of the front.
    have below : items.length / 2 < front.length := by grind
    have split' : items.drop (items.length / 2) = front.drop (items.length / 2) ++ back := by
      rw [split, List.drop_append_of_le_length (split ▸ Nat.le_of_lt below)]
    rw [ih split' (fun a ha => holds a (List.mem_of_mem_drop ha)) fails, List.length_drop]
    omega
  | case4 items long failed ih =>
    -- The middle item fails, so the front ends before it.
    have above : front.length ≤ items.length / 2 := by grind
    have kept : front.length ≤ items.length - items.length / 2 := by omega
    have split' : items.take (items.length - items.length / 2) =
        front ++ back.take (items.length - items.length / 2 - front.length) := by
      generalize items.length - items.length / 2 = size at kept ⊢
      rw [split, List.take_append, List.take_of_length_le kept]
    exact ih split' holds (fun a ha => fails a (List.mem_of_mem_take ha))

end Fortune
