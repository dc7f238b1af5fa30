import Fortune.Text.Blank
import Fortune.Text.Pieces

/-!
What computations promise of their results, and how often a character can be in a text after
something was put in the place of what was found there.
-/
namespace Fortune.Text

/-- Promises about the results of the computations of a monad. What holds of a value is promised by
the computation that just returns it, and a sequence promises what its second part promises. -/
structure Postcondition (m : Type → Type) [Monad m] where
  Holds : {α : Type} → (α → Prop) → m α → Prop
  pure {α : Type} {P : α → Prop} {a : α} (holds : P a) : Holds P (Pure.pure a)
  bind {α β : Type} {P : α → Prop} {Q : β → Prop} {x : m α} {f : α → m β} (first : Holds P x)
    (later : ∀ a, P a → Holds Q (f a)) : Holds Q (x >>= f)

namespace Postcondition

variable {m : Type → Type} [Monad m] (post : Postcondition m) {α β : Type}

theorem mono [LawfulMonad m] {P Q : α → Prop} {x : m α} (holds : post.Holds P x)
    (weaker : ∀ a, P a → Q a) : post.Holds Q x := by
  rw [← bind_pure x]
  exact post.bind holds fun a strong => post.pure (weaker a strong)

theorem mapM [LawfulMonad m] {P : β → Prop} {f : α → m β} {inputs : List α}
    (each : ∀ input ∈ inputs, post.Holds P (f input)) :
    post.Holds (fun outputs => ∀ output ∈ outputs, P output) (inputs.mapM f) := by
  induction inputs with
  | nil =>
      rw [List.mapM_nil]
      exact post.pure fun output inside => by cases inside
  | cons input inputs ih =>
      obtain ⟨own, others⟩ := List.forall_mem_cons.mp each
      rw [List.mapM_cons]
      refine post.bind own fun output first => ?_
      refine post.bind (ih others) fun outputs rest => ?_
      exact post.pure (List.forall_mem_cons.mpr ⟨first, rest⟩)

/-- What each replacement takes away from the occurrences of a character is taken away as often as
something is found. -/
theorem replaceFound {mark : Char} {loss : Nat} {replacement : α → List Char → m (List Char)}
    {parts : List (Piece α)}
    (each : ∀ value lexeme, .found value lexeme ∈ parts →
      post.Holds (fun text => text.count mark + loss ≤ lexeme.count mark)
        (replacement value lexeme)) :
    post.Holds (fun text => text.count mark + loss * parts.countP Piece.isFound ≤
        (parts.flatMap Piece.text).count mark)
      (replaceFound replacement parts) := by
  induction parts with
  | nil => exact post.pure (Nat.le_refl _)
  | cons part parts ih =>
      have rest := ih fun value lexeme inside => each value lexeme (List.mem_cons_of_mem _ inside)
      cases part with
      | plain c =>
          refine post.bind rest fun text fewer => post.pure ?_
          have none : Piece.isFound (.plain c : Piece α) = false := rfl
          rw [List.countP_cons_of_neg (by simp [none]), List.flatMap_cons, Piece.text,
            List.singleton_append, List.count_cons, List.count_cons]
          omega
      | found value lexeme =>
          refine post.bind (each value lexeme List.mem_cons_self) fun text here => ?_
          refine post.bind rest fun texts fewer => post.pure ?_
          have one : Piece.isFound (.found value lexeme) = true := rfl
          rw [List.countP_cons_of_pos one, List.flatMap_cons, Piece.text, List.count_append,
            List.count_append, Nat.mul_add]
          omega

/-- Replacements that bring in no more of a character than they take away. -/
theorem replaceFound_le {mark : Char} {recognise : Recogniser α} (honest : recognise.Honest)
    {replacement : α → List Char → m (List Char)} {text : List Char}
    (each : ∀ value lexeme, .found value lexeme ∈ pieces recognise text →
      post.Holds (fun text => text.count mark ≤ lexeme.count mark) (replacement value lexeme)) :
    post.Holds (fun replaced => replaced.count mark ≤ text.count mark)
      (Text.replaceFound replacement (pieces recognise text)) := by
  have all : post.Holds (fun replaced : List Char => replaced.count mark + 0 * _ ≤ _) _ :=
    post.replaceFound each
  rw [Nat.zero_mul, pieces_text honest] at all
  exact all

end Postcondition

/-- The promises of computations that do nothing but return. -/
def plainly : Postcondition Id where
  Holds P x := P x
  pure holds := holds
  bind first later := later _ first

theorem mem_of_mem_trim {c : Char} {text : List Char} (h : c ∈ trim text) : c ∈ text := by
  have front := List.dropWhile_subset isBlank (List.mem_reverse.mp h)
  exact List.dropWhile_subset isBlank (List.mem_reverse.mp front)

theorem mem_of_mem_splitOn {sep c : Char} {text part : List Char}
    (member : part ∈ text.splitOn sep) (inside : c ∈ part) : c ∈ text := by
  have within {parts : List (List Char)} (member : part ∈ parts) :
      c ∈ [sep].intercalate parts := by
    induction parts with
    | nil => cases member
    | cons other parts ih =>
        by_cases last : parts = []
        · subst last
          rw [List.intercalate_singleton, ← List.mem_singleton.mp member]
          exact inside
        · rw [List.intercalate_cons_of_ne_nil last]
          rcases List.mem_cons.mp member with rfl | later
          · exact List.mem_append_left _ (List.mem_append_left _ inside)
          · exact List.mem_append_right _ (ih later)
  have whole : [sep].intercalate (text.splitOn sep) = text := List.intercalate_splitOn sep
  exact whole ▸ within member

end Fortune.Text
