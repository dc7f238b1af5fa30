import Fortune.Template.Resolve

/-!
Resolvers in a context. A sequence of two succeeds if both do, the second in the context that the
first leaves, and fails with the first failure that it comes to. A text without calls is only
substituted.
-/
namespace Fortune.Context
open Template

variable {α β : Type} {x : Resolver α} {f : α → Resolver β} {c last : Context}

theorem draw_pure (a : α) (c : Context) : c.draw (pure a : Resolver α) = (.ok a, c) := rfl

theorem draw_lift (r : Except Error α) (c : Context) : c.draw (liftM r : Resolver α) = (r, c) := by
  cases r <;> rfl

theorem draw_toScene {act : Draw α} {a : α} (h : c.draw act = (a, last)) :
    last.toScene = c.toScene := by
  cases h
  rfl

theorem draw_bind (x : Resolver α) (f : α → Resolver β) (c : Context) :
    c.draw (x >>= f : Resolver β) =
      match c.draw x with
      | (.ok a, mid) => mid.draw (f a)
      | (.error e, mid) => (.error e, mid) := by
  change c.draw (ExceptT.bind x f) = _
  simp only [draw, ExceptT.bind, ExceptT.mk, bind, StateT.bind]
  cases h : x c.random with
  | mk r source => cases r <;> rfl

theorem draw_bind_of_ok {a : α} {mid : Context} (h : c.draw x = (.ok a, mid)) :
    c.draw (x >>= f : Resolver β) = mid.draw (f a) := by
  rw [draw_bind, h]

theorem draw_bind_of_error {e : Error} (h : c.draw x = (.error e, last)) :
    c.draw (x >>= f : Resolver β) = (.error e, last) := by
  rw [draw_bind, h]

theorem draw_bind_ok {b : β} :
    c.draw (x >>= f : Resolver β) = (.ok b, last) ↔
      ∃ a mid, c.draw x = (.ok a, mid) ∧ mid.draw (f a) = (.ok b, last) := by
  rw [draw_bind]
  rcases c.draw x with ⟨_ | a, mid⟩ <;> simp [and_assoc]

theorem draw_bind_error {e : Error} :
    c.draw (x >>= f : Resolver β) = (.error e, last) ↔
      c.draw x = (.error e, last) ∨
        ∃ a mid, c.draw x = (.ok a, mid) ∧ mid.draw (f a) = (.error e, last) := by
  rw [draw_bind]
  rcases c.draw x with ⟨_ | a, mid⟩ <;> simp [and_assoc]

theorem draw_map_ok {g : α → β} {b : β} :
    c.draw (x >>= fun a => pure (g a) : Resolver β) = (.ok b, last) ↔
      ∃ a, c.draw x = (.ok a, last) ∧ g a = b := by
  rw [draw_bind_ok]
  constructor
  · rintro ⟨a, mid, drawn, done⟩
    rw [draw_pure] at done
    cases done
    exact ⟨a, drawn, rfl⟩
  · rintro ⟨a, drawn, rfl⟩
    exact ⟨a, last, drawn, rfl⟩

theorem draw_map_error {g : α → β} {e : Error} :
    c.draw (x >>= fun a => pure (g a) : Resolver β) = (.error e, last) ↔
      c.draw x = (.error e, last) := by
  rw [draw_bind]
  rcases c.draw x with ⟨_ | a, mid⟩ <;> simp [draw_pure]

end Fortune.Context

namespace Fortune.Template

theorem passLimit_pos (text : List Char) : 0 < passLimit text := by
  unfold passLimit
  omega

theorem resolveText_of_callFree {text : List Char} (callFree : hasCall text = false)
    (scene : Scene) : resolveText scene text = substitute scene text := by
  obtain ⟨passes, enough⟩ := Nat.exists_eq_succ_of_ne_zero (Nat.ne_of_gt (passLimit_pos text))
  have done : expand scene (passes + 1) text = pure text := by
    rw [expand, callFree]
    rfl
  rw [resolveText, enough, done, pure_bind]

theorem resolve_ok_iff {template text : String} (callFree : hasCall template.toList = false)
    {c last : Context} :
    resolve template c = (.ok text, last) ↔
      c.draw (substitute c.toScene template.toList) = (.ok text.toList, last) := by
  rw [resolve, resolveText_of_callFree callFree, Context.draw_map_ok]
  constructor
  · rintro ⟨chars, drawn, rfl⟩
    rw [String.toList_ofList]
    exact drawn
  · exact fun drawn => ⟨text.toList, drawn, String.ofList_toList⟩

theorem resolve_of_callFree {template text : String} (callFree : hasCall template.toList = false)
    {c last : Context}
    (h : c.draw (substitute c.toScene template.toList) = (.ok text.toList, last)) :
    resolve template c = (.ok text, last) :=
  (resolve_ok_iff callFree).mpr h

end Fortune.Template
