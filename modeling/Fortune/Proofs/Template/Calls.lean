import Fortune.Proofs.Template.Recognised

/-!
Where calls are. The scan finds one exactly if somewhere in the text a function's name, no part of a
longer word, stands before parentheses with none inside.
-/
namespace Fortune.Template
open Text

/-- A function's name that goes on from no word, and parentheses with none inside. -/
def SpellsCall (text : List Char) : Prop :=
  ∃ (f : Function) (front inside behind : List Char),
    text = front ++ (f.name.toList ++ '(' :: inside ++ ')' :: behind) ∧
    (∀ c ∈ front.getLast?, isWord c = false) ∧ ∀ c ∈ inside, isParenthesis c = false

theorem call?_isSome_iff {before : Option Char} {text : List Char} :
    (call? before text).isSome = true ↔ (∀ c ∈ before, isWord c = false) ∧
      ∃ f call lexeme, callOf? f text = some (call, lexeme) := by
  have joined : before.any isWord = true ↔ ¬∀ c ∈ before, isWord c = false := by
    cases before <;> simp
  unfold call?
  split
  · rename_i word
    exact ⟨fun found => (by cases found), fun h => absurd h.1 (joined.mp word)⟩
  · rename_i word
    have alone := Decidable.not_not.mp (mt joined.mpr word)
    rw [List.isSome_findSome?]
    constructor
    · intro found
      obtain ⟨f, _, seen⟩ := List.any_eq_true.mp found
      obtain ⟨⟨call, lexeme⟩, here⟩ := Option.isSome_iff_exists.mp seen
      exact ⟨alone, f, call, lexeme, here⟩
    · rintro ⟨_, f, call, lexeme, here⟩
      have listed : f ∈ Function.all := by cases f <;> decide
      exact List.any_eq_true.mpr ⟨f, listed, by simp [here]⟩

theorem hasCall_iff {text : List Char} : hasCall text = true ↔ SpellsCall text := by
  have empty (before : Option Char) : call? before [] = none := by
    rw [← Option.not_isSome_iff_eq_none, call?_isSome_iff]
    rintro ⟨_, f, call, lexeme, here⟩
    obtain ⟨inside, behind, spelled, _⟩ := callOf?_eq_some_iff.mp here
    simp at spelled
  rw [hasCall, pieces, any_isFound_iff empty]
  constructor
  · rintro ⟨front, rest, rfl, found⟩
    rw [Option.or_none] at found
    obtain ⟨alone, f, call, lexeme, here⟩ := call?_isSome_iff.mp found
    obtain ⟨inside, behind, rfl, bare, _⟩ := callOf?_eq_some_iff.mp here
    exact ⟨f, front, inside, behind, rfl, alone, bare⟩
  · rintro ⟨f, front, inside, behind, rfl, alone, bare⟩
    refine ⟨front, _, rfl, ?_⟩
    rw [Option.or_none]
    exact call?_isSome_iff.mpr
      ⟨alone, f, ⟨f, inside⟩, _, callOf?_eq_some_iff.mpr ⟨inside, behind, rfl, bare, rfl, rfl⟩⟩

theorem callFree_iff {text : List Char} : hasCall text = false ↔ ¬SpellsCall text := by
  rw [← Bool.not_eq_true, hasCall_iff]

theorem uncalled_of_unopened {text : List Char} (h : '(' ∉ text) : ¬SpellsCall text := by
  rintro ⟨f, front, inside, behind, rfl, _⟩
  simp at h

theorem callFree_of_unopened {text : List Char} (h : '(' ∉ text) : hasCall text = false :=
  callFree_iff.mpr (uncalled_of_unopened h)

end Fortune.Template
