import Fortune.Proofs.Template.Parentheses

/-!
The loop that expands calls. Without any bound on its passes it comes to an end as long as the
actor's name is without one of the two kinds of parentheses: every pass but the last takes some of
these away.
-/
namespace Fortune.Template
open Text

/-- Pass after pass in a context, without a bound, and what the last one comes to. The passes are
counted; the last one finds no call or fails. -/
inductive Expands : Nat → List Char → Context → Except Error (List Char) → Context → Prop
  | done {text : List Char} (c : Context) (callFree : hasCall text = false) :
      Expands 1 text c (.ok text) c
  | failed {text : List Char} {c last : Context} {e : Error} (call : hasCall text = true)
      (pass : c.draw (expandOnce c.toScene text) = (.error e, last)) :
      Expands 1 text c (.error e) last
  | again {runs : Nat} {text next : List Char} {c mid last : Context}
      {result : Except Error (List Char)} (call : hasCall text = true)
      (pass : c.draw (expandOnce c.toScene text) = (.ok next, mid))
      (rest : Expands runs next mid result last) : Expands (runs + 1) text c result last

namespace Expands

variable {runs : Nat} {text : List Char} {c last : Context} {result : Except Error (List Char)}

theorem not_spellsCall (h : Expands runs text c result last) {final : List Char}
    (done : result = .ok final) : ¬SpellsCall final := by
  induction h with
  | done c callFree =>
      cases done
      rw [← hasCall_iff, callFree]
      exact Bool.false_ne_true
  | failed => cases done
  | again _ _ _ ih => exact ih done

/-- Passes enough make the bounded loop the same. -/
theorem draw_expand (h : Expands runs text c result last) {passes : Nat} (enough : runs ≤ passes) :
    c.draw (expand c.toScene passes text) = (result, last) := by
  induction h generalizing passes with
  | done c callFree =>
      obtain ⟨passes, rfl⟩ := Nat.exists_eq_add_of_le' enough
      rw [expand, if_neg (by simp [callFree])]
      rfl
  | failed call pass =>
      obtain ⟨passes, rfl⟩ := Nat.exists_eq_add_of_le' enough
      rw [expand, if_pos call, Context.draw_bind_of_error pass]
  | again call pass _ ih =>
      obtain ⟨passes, rfl⟩ := Nat.exists_eq_add_of_le' (Nat.le_of_add_left_le enough)
      have later := ih (Nat.le_of_succ_le_succ enough)
      rw [Context.draw_toScene pass] at later
      rw [expand, if_pos call, Context.draw_bind_of_ok pass]
      exact later

theorem toScene (h : Expands runs text c result last) : last.toScene = c.toScene :=
  Context.draw_toScene (h.draw_expand (Nat.le_refl runs))

end Expands

theorem hasCall_countP {text : List Char} (h : hasCall text = true) :
    0 < (pieces call? text).countP Piece.isFound :=
  List.countP_pos_iff.mpr (List.any_eq_true.mp h)

section Foreign

variable {mark : Char} {text : List Char} {c : Context} (foreign : Foreign mark c.toScene)
include foreign

/-- A pass that replaces something takes parentheses away. -/
theorem Foreign.count_lt {next : List Char} {mid : Context} (call : hasCall text = true)
    (pass : c.draw (expandOnce c.toScene text) = (.ok next, mid)) :
    next.count mark < text.count mark := by
  have fewer := foreign.count_expandOnce_le text c
  rw [pass] at fewer
  have some := hasCall_countP call
  have total : next.count mark + (pieces call? text).countP Piece.isFound ≤ text.count mark := fewer
  omega

theorem Foreign.next {act : Resolver (List Char)} {a : Except Error (List Char)} {mid : Context}
    (pass : c.draw act = (a, mid)) : Foreign mark mid.toScene := by
  rw [Context.draw_toScene pass]
  exact foreign

theorem Foreign.exists_expands : ∃ runs result last, Expands runs text c result last := by
  induction size : text.count mark using Nat.strongRecOn generalizing text c with
  | _ size ih =>
      subst size
      by_cases call : hasCall text = true
      · rcases pass : c.draw (expandOnce c.toScene text) with ⟨_ | next, mid⟩
        · exact ⟨1, _, mid, .failed call pass⟩
        · obtain ⟨runs, result, last, rest⟩ :=
            ih _ (foreign.count_lt call pass) (foreign.next pass) rfl
          exact ⟨runs + 1, result, last, .again call pass rest⟩
      · exact ⟨1, _, c, .done c (Bool.eq_false_iff.mpr call)⟩

theorem Expands.runs_le {runs : Nat} {last : Context} {result : Except Error (List Char)}
    (h : Expands runs text c result last) : runs ≤ text.count mark + 1 := by
  induction h with
  | done => exact Nat.le_add_left 1 _
  | failed => exact Nat.le_add_left 1 _
  | again call pass _ ih =>
      have fewer := foreign.count_lt call pass
      have rest := ih (foreign.next pass)
      omega

theorem Expands.meets {runs : Nat} {last : Context} {result : Except Error (List Char)}
    (h : Expands runs text c result last) : Meets (fun _ => True) result := by
  induction h with
  | done => trivial
  | @failed text c last e call pass =>
      have kept := foreign.count_expandOnce_le text c
      rw [pass] at kept
      exact kept
  | again call pass _ ih => exact ih (foreign.next pass)

end Foreign

section Enough

variable {runs : Nat} {template : String} {c last : Context}
  (enough : runs ≤ passLimit template.toList)
include enough

theorem Expands.resolve_ok {text : List Char}
    (h : Expands runs template.toList c (.ok text) last) :
    resolve template c =
      last.draw (do return String.ofList (← substitute last.toScene text) : Resolver String) := by
  rw [resolve, resolveText, bind_assoc, Context.draw_bind_of_ok (h.draw_expand enough), h.toScene]

theorem Expands.resolve_error {e : Error} (h : Expands runs template.toList c (.error e) last) :
    resolve template c = (.error e, last) := by
  rw [resolve, resolveText, bind_assoc, Context.draw_bind_of_error (h.draw_expand enough)]

end Enough

/-- Expanding comes to an end as long as one kind of parenthesis is nowhere in the actor's name. It
takes at most one pass more than the template has of them. If no pass fails, no call is left in the
text that is substituted; and resolving never gives up for the number of passes. -/
theorem resolve_terminates {template : String} {c : Context} {mark : Char}
    (parenthesis : isParenthesis mark = true) (named : ∀ a ∈ c.actor, mark ∉ a.name.toList) :
    (∃ runs result last, Expands runs template.toList c result last) ∧
    (∀ runs result last, Expands runs template.toList c result last →
      runs ≤ template.toList.count mark + 1 ∧
      (∀ text, result = .ok text → ¬SpellsCall text ∧ resolve template c =
        last.draw (do return String.ofList (← substitute last.toScene text) : Resolver String)) ∧
      ∀ e, result = .error e → resolve template c = (.error e, last)) ∧
    ∀ last, resolve template c ≠ (.error .endlessCalls, last) := by
  have foreign : Foreign mark c.toScene := ⟨parenthesis, named⟩
  have within {runs : Nat} {result : Except Error (List Char)} {last : Context}
      (h : Expands runs template.toList c result last) : runs ≤ passLimit template.toList := by
    have bound := h.runs_le foreign
    have short : template.toList.count mark ≤ template.toList.length := List.count_le_length
    unfold passLimit
    omega
  have ended : ∃ runs result last, Expands runs template.toList c result last :=
    foreign.exists_expands
  refine ⟨ended, ?_, ?_⟩
  · intro runs result last h
    refine ⟨h.runs_le foreign, ?_, ?_⟩
    · rintro text rfl
      exact ⟨h.not_spellsCall rfl, h.resolve_ok (within h)⟩
    · rintro e rfl
      exact h.resolve_error (within h)
  · intro last endless
    obtain ⟨runs, result, mid, h⟩ := ended
    cases result with
    | error e =>
        rw [h.resolve_error (within h)] at endless
        cases endless
        exact h.meets foreign rfl
    | ok text =>
        rw [h.resolve_ok (within h)] at endless
        have same : Foreign mark mid.toScene := h.toScene ▸ foreign
        have kept := same.count_substitute_le text mid
        rw [Context.draw_map_error.mp endless] at kept
        exact kept rfl

/-- The name opens a parenthesis that nothing closes. -/
def opening : Context :=
  ⟨⟨⟨0, 60, 0⟩, some { name := "(", uuid := ⟨0⟩, pos := ⟨3.4, 64, -9.5⟩ }⟩, ⟨fun _ => 0, 0⟩⟩

theorem expansion_stuck :
    isParenthesis ')' = true ∧ (∀ a ∈ opening.actor, ')' ∉ a.name.toList) ∧
    ∃ last, Expands 2 "random(random(\x7bplayerName\x7d))".toList opening
        (.ok "random(()".toList) last ∧
      2 ≤ "random(random(\x7bplayerName\x7d))".toList.count ')' + 1 ∧
      ¬SpellsCall "random(()".toList ∧
      resolve "random(random(\x7bplayerName\x7d))" opening = (.ok "random(()", last) := by
  have parenthesis : isParenthesis ')' = true := by decide
  have named : ∀ a ∈ opening.actor, ')' ∉ a.name.toList := by
    rintro a ⟨⟩
    decide
  have pass : opening.draw
      (expandOnce opening.toScene "random(random(\x7bplayerName\x7d))".toList) =
        (.ok "random(()".toList, ⟨opening.toScene, ⟨fun _ => 0, 1⟩⟩) := by rfl
  have trace := Expands.again (by rfl) pass (.done _ (by rfl))
  refine ⟨parenthesis, named, _, trace, ?_⟩
  obtain ⟨_, runs, _⟩ :=
    @resolve_terminates "random(random(\x7bplayerName\x7d))" _ _ parenthesis named
  obtain ⟨bound, final, _⟩ := runs _ _ _ trace
  obtain ⟨callFree, resolved⟩ := final _ rfl
  exact ⟨bound, callFree, resolved.trans (by rfl)⟩

end Fortune.Template
