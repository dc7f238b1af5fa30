import Fortune.Proofs.Template.Calls
import Fortune.Proofs.Template.Footprint
import Fortune.Proofs.Template.PlayerUuid
import Fortune.Proofs.Text.Postcondition

/-!
Parentheses only come in with the actor's name. As long as the name is without one of the two kinds,
no pass brings in more of that kind, and every call that is replaced takes one away.
-/
namespace Fortune.Template
open Text Decimal

/-- As promised, or an error; but not for calls without end. -/
def Meets {α : Type} (P : α → Prop) : Except Error α → Prop
  | .ok a => P a
  | .error e => e ≠ .endlessCalls

/-- The promises of computations that may fail. -/
def failing : Postcondition (Except Error) where
  Holds := Meets
  pure holds := holds
  bind {α β P Q x f} first later := by
    cases x with
    | error e => exact first
    | ok a => exact later a first

/-- The promises of resolvers, in whatever context. -/
def resolving : Postcondition Resolver where
  Holds P x := ∀ c : Context, Meets P (c.draw x).1
  pure holds := fun _ => holds
  bind {α β P Q x f} first later := by
    intro c
    have here := first c
    rw [Context.draw_bind]
    rcases drawn : c.draw x with ⟨_ | a, mid⟩
    · rw [drawn] at here
      exact here
    · rw [drawn] at here
      exact later a here mid

section Promises

variable {α : Type} {P Q : α → Prop}

theorem resolving_except {r : Except Error α} (h : failing.Holds P r) :
    resolving.Holds P (r : Resolver α) := by
  intro (c : Context)
  rw [Context.draw_lift]
  exact h

theorem resolving_draw {act : Draw α} (h : ∀ source, P (act source).1) :
    resolving.Holds P (act : Resolver α) := fun (c : Context) => h c.random

theorem resolving_throw {e : Error} (h : e ≠ .endlessCalls) :
    resolving.Holds P (throw e : Resolver α) := fun (_ : Context) => h

theorem resolving_drawn {β : Type} {P : β → Prop} {act : Draw α} {f : α → β}
    (h : ∀ a, P (f a)) : resolving.Holds P (do return f (← act) : Resolver β) := by
  have anything : resolving.Holds (fun _ => True) (act : Resolver α) :=
    resolving_draw fun _ => trivial
  exact resolving.bind anything fun a _ => resolving.pure (h a)

end Promises

theorem meets_bound (argument : List Char) : Meets (fun _ => True) (bound argument) := by
  unfold bound
  split
  · trivial
  · exact Error.noConfusion

theorem meets_measure (argument : List Char) : Meets (fun _ => True) (measure argument) := by
  unfold measure
  split
  · trivial
  · exact Error.noConfusion

theorem parenthesis_cases {mark : Char} (h : isParenthesis mark = true) :
    mark = '(' ∨ mark = ')' := by
  simpa [isParenthesis] using h

theorem eq_of_text {name : String} {value : Scene → String}
    (h : Parameter.named? name = some (.text value)) :
    value = ofActor "" Actor.name ∨ value = ofActor "" fun a => a.uuid.text := by
  have listed := mem_of_lookup h
  simp only [Parameter.texts, Parameter.reals, Parameter.integers, List.cons_append,
    List.nil_append, List.mem_cons, Prod.mk.injEq, Parameter.text.injEq, reduceCtorEq, and_false,
    or_false, List.not_mem_nil] at listed
  exact listed.imp And.right And.right

theorem not_mem_ofActor {mark : Char} {scene : Scene} {value : Actor → String}
    (h : ∀ a ∈ scene.actor, mark ∉ (value a).toList) :
    mark ∉ (ofActor "" value scene).toList := by
  unfold ofActor
  split
  · rename_i a here
    exact h a here
  · exact List.not_mem_nil

/-- A kind of parenthesis, and a scene whose actor has none of them in the name. -/
structure Foreign (mark : Char) (scene : Scene) : Prop where
  parenthesis : isParenthesis mark = true
  named : ∀ a ∈ scene.actor, mark ∉ a.name.toList

namespace Foreign

variable {mark : Char} {scene : Scene} (foreign : Foreign mark scene)
include foreign

theorem isToken : isToken mark = false := by
  rcases parenthesis_cases foreign.parenthesis with rfl | rfl <;> decide

theorem isAlphanumeric : isAlphanumeric mark = false := by
  rcases parenthesis_cases foreign.parenthesis with rfl | rfl <;> decide

theorem plain (c : Char) (other : isParenthesis c = false) : mark ≠ c := by
  rintro rfl
  rw [foreign.parenthesis] at other
  cases other

theorem not_mem_real (x : Float) : mark ∉ floatText x :=
  not_mem_floatText foreign.isToken (foreign.plain '-' (by decide)) x

theorem not_mem_integer (n : Int) : mark ∉ intText n :=
  not_mem_intText foreign.isToken (foreign.plain '-' (by decide)) n

theorem not_mem_uuid (u : Uuid) : mark ∉ u.text.toList := by
  rw [u.text_groups]
  exact not_mem_hyphenated foreign.isAlphanumeric (foreign.plain '-' (by decide)) u.isWord_groups

theorem not_mem_point (p : Point) : mark ∉ p.text.toList := by
  have comma := foreign.plain ',' (by decide)
  simp [Point.text, Point.joined, foreign.not_mem_real, comma]

theorem not_mem_text {name : String} {value : Scene → String}
    (named : Parameter.named? name = some (.text value)) : mark ∉ (value scene).toList := by
  rcases eq_of_text named with rfl | rfl
  · exact not_mem_ofActor foreign.named
  · exact not_mem_ofActor fun a _ => foreign.not_mem_uuid a.uuid

theorem not_mem_lookup (name : String) :
    resolving.Holds (fun value => ∀ text ∈ value, mark ∉ text)
      (Parameter.lookup? name scene : Resolver (Option (List Char))) := by
  refine resolving_draw fun source => ?_
  unfold Parameter.lookup?
  cases named : Parameter.named? name with
  | none => exact fun text value => by cases value
  | some p =>
      rintro text ⟨⟩
      cases p with
      | text f => exact foreign.not_mem_text named
      | real f => exact foreign.not_mem_real (f scene)
      | integer f => exact foreign.not_mem_integer (f scene)
      | drawn act => exact foreign.not_mem_integer (act source).1

theorem count_fill_le (text : List Char) :
    resolving.Holds (fun filled => filled.count mark ≤ text.count mark) (fill scene text) := by
  refine resolving.replaceFound_le placeholder?_honest fun name lexeme _ => ?_
  refine resolving.bind (foreign.not_mem_lookup (String.ofList name)) fun value bare => ?_
  cases value with
  | none => exact resolving_throw (by simp)
  | some value =>
      refine resolving.pure ?_
      rw [List.count_eq_zero.mpr (bare value rfl)]
      exact Nat.zero_le _

omit foreign in
theorem count_unquote_le (text : List Char) : (unquote text).count mark ≤ text.count mark := by
  refine plainly.replaceFound_le quotedNumeral?_honest fun n lexeme inside => ?_
  obtain ⟨before, rest, seen⟩ := recognised_of_mem inside
  obtain ⟨_, rfl, _⟩ := (quotedNumeral?_spells _ _ _ _).mp seen
  exact (List.infix_append ['"'] n.text ['"']).sublist.count_le mark

theorem count_compute_le (text : List Char) :
    failing.Holds (fun computed => computed.count mark ≤ text.count mark) (compute text) := by
  refine failing.replaceFound_le chain?_honest fun glued lexeme _ => ?_
  split
  · exact failing.pure (Nat.le_refl _)
  · split
    · rename_i value _
      refine failing.pure ?_
      rw [List.count_eq_zero.mpr (foreign.not_mem_real value)]
      exact Nat.zero_le _
    · exact Error.noConfusion

theorem count_substitute_le (text : List Char) :
    resolving.Holds (fun result => result.count mark ≤ text.count mark)
      (substitute scene text) := by
  refine resolving.bind (foreign.count_fill_le text) fun filled fewer => ?_
  refine resolving.bind (resolving_except (foreign.count_compute_le (unquote filled)))
    fun computed still => resolving.pure ?_
  calc (unquote computed).count mark
      ≤ computed.count mark := count_unquote_le computed
    _ ≤ (unquote filled).count mark := still
    _ ≤ filled.count mark := count_unquote_le filled
    _ ≤ text.count mark := fewer

/-! Calls. -/

theorem not_mem_arguments {call : Call} (bare : mark ∉ call.inside) :
    resolving.Holds (fun arguments => ∀ argument ∈ arguments, mark ∉ argument)
      (call.arguments scene) := by
  unfold Call.arguments
  split
  · exact resolving.pure fun argument inside => by cases inside
  · refine resolving.mapM fun argument member => ?_
    have none : (trim argument).count mark = 0 := by
      refine List.count_eq_zero.mpr fun inside => bare ?_
      exact mem_of_mem_splitOn member (mem_of_mem_trim inside)
    refine resolving.mono (foreign.count_substitute_le (trim argument)) fun result fewer => ?_
    exact List.count_eq_zero.mp (Nat.le_zero.mp (none ▸ fewer))

theorem not_mem_apply (f : Function) {arguments : List (List Char)}
    (bare : ∀ argument ∈ arguments, mark ∉ argument) :
    resolving.Holds (fun result => mark ∉ result) (f.apply arguments) := by
  cases f with
  | random =>
      change resolving.Holds _ (drawArgument arguments)
      unfold drawArgument
      split
      · exact resolving_throw (by simp)
      · refine resolving_drawn fun i => ?_
        rw [List.getD_eq_getElem?_getD]
        cases here : arguments[i]? with
        | none => exact List.not_mem_nil
        | some argument => exact bare argument (List.mem_of_getElem? here)
  | randomBetween =>
      change resolving.Holds _ (drawBetween arguments)
      unfold drawBetween
      split
      · refine resolving.bind (resolving_except (meets_bound _)) fun a _ => ?_
        refine resolving.bind (resolving_except (meets_bound _)) fun b _ => ?_
        exact resolving_drawn foreign.not_mem_integer
      · exact resolving_throw (by simp)
  | randomVelocity =>
      change resolving.Holds _ (drawVelocityText arguments)
      unfold drawVelocityText
      split
      · exact resolving_drawn foreign.not_mem_point
      · refine resolving.bind (resolving_except (meets_measure _)) fun power _ => ?_
        refine resolving.bind (resolving_except (meets_measure _)) fun maxPitch _ => ?_
        split
        · exact resolving_drawn foreign.not_mem_point
        · exact resolving_throw (by simp)
      · refine resolving.pure ?_
        simpa using foreign.plain '0' (by decide)

theorem not_mem_result {call : Call} (bare : mark ∉ call.inside) :
    resolving.Holds (fun result => mark ∉ result) (call.result scene) :=
  resolving.bind (foreign.not_mem_arguments bare) fun _ bare =>
    foreign.not_mem_apply call.function bare

/-- Each call has one parenthesis of the kind, and its result none. -/
theorem count_expandOnce_le (text : List Char) :
    resolving.Holds
      (fun next => next.count mark + (pieces call? text).countP Piece.isFound ≤ text.count mark)
      (expandOnce scene text) := by
  have each (call : Call) (lexeme : List Char) (inside : .found call lexeme ∈ pieces call? text) :
      resolving.Holds (fun next => next.count mark + 1 ≤ lexeme.count mark)
        (call.result scene) := by
    obtain ⟨before, rest, seen⟩ := recognised_of_mem inside
    obtain ⟨f, here⟩ := call?_sound seen
    obtain ⟨within, behind, _, plain, rfl, rfl⟩ := callOf?_eq_some_iff.mp here
    have bare : mark ∉ within := fun member => by
      simpa [foreign.parenthesis] using plain mark member
    have one : 1 ≤ (f.name.toList ++ '(' :: within ++ [')']).count mark := by
      rw [Nat.one_le_iff_ne_zero, ← Nat.pos_iff_ne_zero, List.count_pos_iff]
      rcases parenthesis_cases foreign.parenthesis with rfl | rfl <;> simp
    refine resolving.mono (foreign.not_mem_result bare) fun next none => ?_
    rw [List.count_eq_zero.mpr none]
    exact one
  have all := resolving.replaceFound each
  rw [Nat.one_mul, pieces_text call?_honest] at all
  exact all

end Foreign

end Fortune.Template
