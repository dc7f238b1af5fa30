import Fortune.Proofs.Template.Recognised
import Fortune.Proofs.Text.Numeral

/-!
Arithmetic chains inside running text. A chain ends in a digit, so in a text of letters, digits and
single hyphens the scan never comes to a number without a letter or digit right before it, except at
the very beginning: every later chain is part of a longer word and stays as it is.
-/
namespace Fortune.Template
open Text

theorem chainTail_sound (fuel : Nat) (text : List Char) :
    chainTail fuel text <+: text ∧
      (chainTail fuel text ≠ [] → EndsInDigit (chainTail fuel text)) := by
  induction fuel generalizing text with
  | zero => simp [chainTail]
  | succ fuel ih =>
      cases text with
      | nil => simp [chainTail]
      | cons c rest =>
          unfold chainTail
          split
          · split
            · rename_i n more seen
              obtain ⟨rfl, last⟩ := SignedNumeral.scan_sound seen
              obtain ⟨⟨after, split⟩, ends⟩ := ih more
              refine ⟨⟨after, ?_⟩, fun _ => ?_⟩
              · rw [List.append_assoc, split, List.cons_append]
              · by_cases done : chainTail fuel more = []
                · rw [done, List.append_nil]
                  exact last.behind [c]
                · exact (ends done).behind _
            · simp
          · simp

theorem chainText?_sound {text lexeme : List Char} (h : chainText? text = some lexeme) :
    lexeme <+: text ∧ EndsInDigit lexeme := by
  unfold chainText? at h
  split at h
  · cases h
  · rename_i n rest seen
    obtain ⟨rfl, _⟩ := SignedNumeral.scan_sound seen
    obtain ⟨⟨after, split⟩, ends⟩ := chainTail_sound rest.length rest
    dsimp only at h
    split at h
    · cases h
    · rename_i more
      cases h
      refine ⟨⟨after, by rw [List.append_assoc, split]⟩, ?_⟩
      exact (ends (by simpa using more)).behind _

theorem chain?_sound {before : Option Char} {text lexeme : List Char} {glued : Bool}
    (h : chain? before text = some (glued, lexeme)) :
    chainText? text = some lexeme ∧
      glued = (before.any isToken || (text.drop lexeme.length).head?.any isToken) := by
  obtain ⟨_, seen, made⟩ := Option.map_eq_some_iff.mp h
  cases made
  exact ⟨seen, rfl⟩

theorem chain?_honest : chain?.Honest := by
  intro before text glued lexeme h
  obtain ⟨front, ends⟩ := chainText?_sound (chain?_sound h).1
  obtain ⟨init, d, rfl, _⟩ := ends
  exact ⟨by simp, front⟩

/-- A minus in front belongs to the chain, so where none begins with it none begins behind it. -/
theorem chainText?_behind_minus {c : Char} {text : List Char} (plain : c ≠ '-')
    (bare : chainText? ('-' :: c :: text) = none) : chainText? (c :: text) = none := by
  unfold chainText? at bare ⊢
  rw [SignedNumeral.scan_minus] at bare
  rw [SignedNumeral.scan_plain plain]
  cases seen : Numeral.scan (c :: text) with
  | none => rfl
  | some found =>
      obtain ⟨n, rest⟩ := found
      simp only [seen, Option.map_some] at bare ⊢
      split at bare
      · rename_i short
        rw [if_pos short]
      · cases bare

/-! Texts of letters and digits, and single hyphens between them. -/

theorem ne_of_isAlphanumeric {c other : Char} (h : isAlphanumeric c = true)
    (apart : isAlphanumeric other = false) : c ≠ other := by
  rintro rfl
  rw [h] at apart
  cases apart

/-- What may follow a letter or digit: more of them, or a hyphen and then more of them. -/
inductive Runs : List Char → Prop
  | nil : Runs []
  | char {c : Char} {rest : List Char} : isAlphanumeric c = true → Runs rest → Runs (c :: rest)
  | hyphen {c : Char} {rest : List Char} :
      isAlphanumeric c = true → Runs (c :: rest) → Runs ('-' :: c :: rest)

theorem Runs.tail {c : Char} {rest : List Char} (h : Runs (c :: rest)) : Runs rest := by
  cases h with
  | char _ rest => exact rest
  | hyphen _ rest => exact rest

theorem Runs.behind {front rest : List Char} (h : Runs (front ++ rest)) : Runs rest := by
  induction front with
  | nil => exact h
  | cons c front ih => exact ih h.tail

/-- From a place right behind a letter or digit, or at which no chain begins, the scan finds only
chains that are part of something longer. -/
theorem glued_of_runs {before : Option Char} {text : List Char} (runs : Runs text)
    (state : before.any isToken = true ∨ chainText? text = none) :
    ∀ glued lexeme, .found glued lexeme ∈ piecesFrom chain? 0 before text → glued = true := by
  induction size : text.length using Nat.strongRecOn generalizing before text with
  | ind size ih =>
      intro glued lexeme inside
      cases text with
      | nil => cases inside
      | cons c text =>
          cases seen : chain? before (c :: text) with
          | none =>
              rw [piecesFrom, seen] at inside
              have later := (List.mem_cons.mp inside).resolve_left (by rintro ⟨⟩)
              refine ih text.length ?_ runs.tail ?_ rfl glued lexeme later
              · rw [← size]
                exact Nat.lt_succ_self _
              · cases runs with
                | char letter _ => exact Or.inl (isToken_of_isAlphanumeric letter)
                | hyphen letter _ =>
                    refine Or.inr (chainText?_behind_minus ?_ (Option.map_eq_none_iff.mp seen))
                    exact ne_of_isAlphanumeric letter (by decide)
          | some found =>
              obtain ⟨glued', lexeme'⟩ := found
              obtain ⟨rest, split, parts⟩ := piecesFrom_recognised chain?_honest seen
              obtain ⟨here, glue⟩ := chain?_sound seen
              obtain ⟨front, d, rfl, digit⟩ := (chainText?_sound here).2
              rw [parts] at inside
              rcases List.mem_cons.mp inside with same | later
              · cases same
                rw [glue, state.resolve_right (by simp [here]), Bool.true_or]
              · rw [split] at runs size
                refine ih rest.length ?_ runs.behind ?_ rfl glued lexeme later
                · rw [← size]
                  simp only [List.length_append, List.length_singleton]
                  omega
                · rw [List.getLast?_concat]
                  exact Or.inl (isToken_of_isAlphanumeric (isAlphanumeric_of_isDigit digit))

/-- What computing puts in the place of a chain. -/
def chainValue (glued : Bool) (lexeme : List Char) : Except Error (List Char) :=
  if glued then pure lexeme
  else
    match Arithmetic.evaluate lexeme with
    | .ok value => pure (Decimal.floatText value)
    | .error fault => throw (.arithmetic (String.ofList lexeme) fault)

theorem compute_eq (text : List Char) :
    compute text = replaceFound chainValue (pieces chain? text) := rfl

theorem replaceFound_glued {parts : List (Piece Bool)}
    (all : ∀ glued lexeme, .found glued lexeme ∈ parts → glued = true) :
    replaceFound chainValue parts = .ok (parts.flatMap Piece.text) := by
  refine replaceFound_same fun glued lexeme inside => ?_
  rw [all glued lexeme inside]
  rfl

section Compute

variable {text lexeme rest : List Char} (runs : Runs text)
include runs

theorem compute_unchained (bare : chainText? text = none) : compute text = .ok text := by
  rw [compute_eq, replaceFound_glued]
  · exact congrArg Except.ok (pieces_text chain?_honest text)
  · exact glued_of_runs runs (.inr bare)

/-- The chain that a text begins with is computed unless it goes on, and what follows it is left as
it is. -/
theorem compute_chained (lead : chainText? text = some lexeme) (split : text = lexeme ++ rest) :
    compute text = (chainValue (rest.head?.any isToken) lexeme).map (· ++ rest) := by
  have seen : chain? none text = some (rest.head?.any isToken, lexeme) := by
    rw [chain?, lead, split, Option.map_some, List.drop_left]
    rfl
  obtain ⟨rest', split', parts⟩ := piecesFrom_recognised chain?_honest seen
  obtain rfl : rest' = rest := List.append_cancel_left (split'.symm.trans split)
  have last : lexeme.getLast?.any isToken = true := by
    obtain ⟨front, d, rfl, digit⟩ := (chainText?_sound lead).2
    rw [List.getLast?_concat]
    exact isToken_of_isAlphanumeric (isAlphanumeric_of_isDigit digit)
  rw [split] at runs
  have behind :
      replaceFound chainValue (piecesFrom chain? 0 lexeme.getLast? rest') = .ok rest' := by
    rw [replaceFound_glued (glued_of_runs runs.behind (.inl last)),
      piecesFrom_text chain?_honest]
    rfl
  rw [compute_eq, pieces, parts, replaceFound, behind]
  cases chainValue (rest'.head?.any isToken) lexeme <;> rfl

end Compute

end Fortune.Template
