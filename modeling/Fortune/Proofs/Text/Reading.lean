import Fortune.Proofs.Text.Pieces
import Mathlib.Data.List.Basic

/-!
Words of a language in a running text, as they come one after another: the leftmost first, each as
long as it can be, and none inside another. A scan that takes the longest word at every place finds
exactly these.
-/
namespace Fortune.Text

/-- The longest word of a language at the front of a text. -/
structure Longest (language : List Char → Prop) (word text : List Char) : Prop where
  member : language word
  front : word <+: text
  longest : ∀ other, language other → other <+: text → other.length ≤ word.length

theorem Longest.unique {language : List Char → Prop} {word other text : List Char}
    (h : Longest language word text) (h' : Longest language other text) : word = other := by
  have le := h'.longest word h.member h.front
  have ge := h.longest other h'.member h'.front
  exact (List.prefix_of_prefix_length_le h.front h'.front le).eq_of_length (Nat.le_antisymm le ge)

/-- The places that reading from left to right comes to, as what is read and what is still to read.
It goes on by one character where no word begins, and past the longest word where one does. -/
inductive Reads (language : List Char → Prop) (text : List Char) :
    List Char → List Char → Prop
  | start : Reads language text [] text
  | step {front rest : List Char} {c : Char} (here : Reads language text front (c :: rest))
      (none : ∀ word, language word → ¬word <+: c :: rest) :
      Reads language text (front ++ [c]) rest
  | leap {front word rest : List Char} (here : Reads language text front (word ++ rest))
      (longest : Longest language word (word ++ rest)) : Reads language text (front ++ word) rest

/-- Reading comes by the word at this place. -/
def ComesBy (language : List Char → Prop) (text front word rest : List Char) : Prop :=
  Reads language text front (word ++ rest) ∧ Longest language word (word ++ rest)

variable {α : Type} {recognise : Recogniser α} {language : List Char → Prop}

/-- What is recognised is the longest word, and nothing is recognised only where none begins. -/
structure Recogniser.Takes (recognise : Recogniser α) (language : List Char → Prop) : Prop where
  some : ∀ before text value lexeme, recognise before text = some (value, lexeme) →
    Longest language lexeme text
  none : ∀ before text, recognise before text = none → ∀ word, language word → ¬word <+: text

theorem Reads.suffix {text front rest : List Char} (h : Reads language text front rest) :
    rest <:+ text := by
  induction h with
  | start => exact List.suffix_rfl
  | step _ _ ih => exact (List.suffix_cons _ _).trans ih
  | leap _ _ ih => exact (List.suffix_append _ _).trans ih

theorem ComesBy.within {text front word rest : List Char}
    (h : ComesBy language text front word rest) : word <:+: text :=
  (List.prefix_append word rest).isInfix.trans h.1.suffix.isInfix

section Takes

variable (honest : recognise.Honest) (takes : recognise.Takes language)
include honest takes

/-- The scan of the whole text goes on at every place that reading comes to. -/
theorem Reads.pieces_suffix {text front rest : List Char} (h : Reads language text front rest) :
    piecesFrom recognise 0 front.getLast? rest <:+ pieces recognise text := by
  induction h with
  | start => exact List.suffix_rfl
  | @step front rest c here none ih =>
      have unseen : recognise front.getLast? (c :: rest) = .none := by
        cases seen : recognise front.getLast? (c :: rest) with
        | none => rfl
        | some found =>
            obtain ⟨value, lexeme⟩ := found
            have longest := takes.some _ _ _ _ seen
            exact absurd longest.front (none lexeme longest.member)
      rw [piecesFrom, unseen] at ih
      rw [List.getLast?_concat]
      exact (List.suffix_cons _ _).trans ih
  | @leap front word rest here longest ih =>
      cases seen : recognise front.getLast? (word ++ rest) with
      | none => exact absurd longest.front (takes.none _ _ seen word longest.member)
      | some found =>
          obtain ⟨value, lexeme⟩ := found
          obtain rfl := longest.unique (takes.some _ _ _ _ seen)
          obtain ⟨rest', split, parts⟩ := piecesFrom_recognised honest seen
          obtain rfl := List.append_cancel_left split
          obtain ⟨some, _⟩ := honest _ _ _ _ seen
          rw [parts] at ih
          rw [List.getLast?_append_of_ne_nil _ some]
          exact (List.suffix_cons _ _).trans ih

theorem Reads.exists_found {text front rest : List Char} (h : Reads language text front rest)
    {value : α} {lexeme : List Char}
    (inside : .found value lexeme ∈ piecesFrom recognise 0 front.getLast? rest) :
    ∃ front' rest', Reads language text front' (lexeme ++ rest') ∧
      recognise front'.getLast? (lexeme ++ rest') = .some (value, lexeme) := by
  induction size : rest.length using Nat.strongRecOn generalizing front rest with
  | ind size ih =>
      cases rest with
      | nil => cases inside
      | cons c rest =>
          cases seen : recognise front.getLast? (c :: rest) with
          | none =>
              rw [piecesFrom, seen] at inside
              have later := (List.mem_cons.mp inside).resolve_left (by rintro ⟨⟩)
              refine ih rest.length ?_ (h.step (takes.none _ _ seen)) ?_ rfl
              · rw [← size]
                exact Nat.lt_succ_self _
              · rw [List.getLast?_concat]
                exact later
          | some found =>
              obtain ⟨value', lexeme'⟩ := found
              obtain ⟨rest', split, parts⟩ := piecesFrom_recognised honest seen
              rw [parts] at inside
              rcases List.mem_cons.mp inside with same | later
              · cases same
                exact ⟨front, rest', split ▸ h, split ▸ seen⟩
              · have longest := takes.some _ _ _ _ seen
                obtain ⟨some, _⟩ := honest _ _ _ _ seen
                rw [split] at h longest size
                refine ih rest'.length ?_ (h.leap longest) ?_ rfl
                · have := List.length_pos_iff.mpr some
                  rw [← size, List.length_append]
                  omega
                · rw [List.getLast?_append_of_ne_nil _ some]
                  exact later

/-- What the scan finds is what reading comes by. -/
theorem found_iff {text lexeme : List Char} {value : α} :
    .found value lexeme ∈ pieces recognise text ↔ ∃ front rest,
      ComesBy language text front lexeme rest ∧
        recognise front.getLast? (lexeme ++ rest) = some (value, lexeme) := by
  constructor
  · intro inside
    obtain ⟨front, rest, reads, seen⟩ := Reads.exists_found honest takes .start inside
    exact ⟨front, rest, ⟨reads, takes.some _ _ _ _ seen⟩, seen⟩
  · rintro ⟨front, rest, ⟨reads, _⟩, seen⟩
    obtain ⟨rest', _, parts⟩ := piecesFrom_recognised honest seen
    apply (reads.pieces_suffix honest takes).subset
    rw [parts]
    exact List.mem_cons_self

end Takes

end Fortune.Text
