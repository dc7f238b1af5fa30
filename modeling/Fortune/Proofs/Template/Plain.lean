import Fortune.Proofs.Template.Calls
import Fortune.Proofs.Template.Resolver

/-!
Plain texts: without calls and placeholders. Neither the scene nor the source has a part in what
comes of them.
-/
namespace Fortune.Template
open Text

theorem fill_of_unfilled {text : List Char} (h : ¬SpellsPlaceholder IsName text) (scene : Scene) :
    fill scene text = pure text :=
  placeholder?_spells.replaceFound_absent spelledPlaceholder_ne_nil _ h

theorem fill_of_unbraced {text : List Char} (h : '\x7b' ∉ text) (scene : Scene) :
    fill scene text = pure text :=
  fill_of_unfilled (unfilled_of_unbraced h) scene

/-- Without calls and placeholders a text comes to the same in every scene, and draws nothing. -/
theorem resolveText_of_plain {text result : String} (unopened : '(' ∉ text.toList)
    (unbraced : '\x7b' ∉ text.toList) {c : Context}
    (resolved : (resolve text c).1 = .ok result) (scene : Scene) :
    resolveText scene text.toList = pure result.toList := by
  have plain (scene : Scene) : resolveText scene text.toList = (do
      return unquote (← (compute (unquote text.toList) : Except Error (List Char)))) := by
    rw [resolveText_of_callFree (callFree_of_unopened unopened), substitute,
      fill_of_unbraced unbraced, pure_bind]
  rw [resolve, plain] at resolved
  rw [plain]
  cases done : compute (unquote text.toList) with
  | error e =>
      rw [done] at resolved
      cases resolved
  | ok computed =>
      rw [done] at resolved
      cases resolved
      rw [String.toList_ofList]
      rfl

theorem resolve_of_plain {text result : String} (unopened : '(' ∉ text.toList)
    (unbraced : '\x7b' ∉ text.toList) {c : Context}
    (resolved : (resolve text c).1 = .ok result) (mid : Context) :
    resolve text mid = (.ok result, mid) := by
  rw [resolve, resolveText_of_plain unopened unbraced resolved, pure_bind, Context.draw_pure,
    String.ofList_toList]

end Fortune.Template
