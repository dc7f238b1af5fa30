import Fortune.Proofs.Except
import Fortune.Text.Pieces

/-!
How a scan goes on. What is found at the front of a text is the first piece, and the rest is scanned
like a text of its own that knows the character before it.
-/
namespace Fortune.Text

variable {α : Type} {recognise : Recogniser α}

theorem getLast?_cons_or (c : Char) (text : List Char) (before : Option Char) :
    (c :: text).getLast?.or before = text.getLast?.or (some c) := by
  rw [List.getLast?_cons]
  cases text.getLast? <;> rfl

/-- Passing over a lexeme leaves its last character as the one before. -/
theorem piecesFrom_skip (recognise : Recogniser α) (before : Option Char)
    (lexeme rest : List Char) :
    piecesFrom recognise lexeme.length before (lexeme ++ rest) =
      piecesFrom recognise 0 (lexeme.getLast?.or before) rest := by
  induction lexeme generalizing before with
  | nil => simp
  | cons c lexeme ih =>
      rw [List.cons_append, List.length_cons, piecesFrom, ih, getLast?_cons_or]

theorem piecesFrom_found {before : Option Char} {value : α} {c : Char} {lexeme rest : List Char}
    (h : recognise before (c :: (lexeme ++ rest)) = some (value, c :: lexeme)) :
    piecesFrom recognise 0 before (c :: (lexeme ++ rest)) =
      .found value (c :: lexeme) ::
        piecesFrom recognise 0 (lexeme.getLast?.or (some c)) rest := by
  rw [piecesFrom, h]
  change _ :: piecesFrom recognise lexeme.length (some c) (lexeme ++ rest) = _
  rw [piecesFrom_skip]

/-- The scan goes on behind what it finds, knowing its last character. -/
theorem piecesFrom_recognised (honest : recognise.Honest) {before : Option Char}
    {text lexeme : List Char} {value : α} (h : recognise before text = some (value, lexeme)) :
    ∃ rest, text = lexeme ++ rest ∧ piecesFrom recognise 0 before text =
      .found value lexeme :: piecesFrom recognise 0 lexeme.getLast? rest := by
  obtain ⟨some, rest, rfl⟩ := honest _ _ _ _ h
  refine ⟨rest, rfl, ?_⟩
  cases lexeme with
  | nil => exact absurd rfl some
  | cons c lexeme =>
      rw [List.cons_append] at h ⊢
      rw [piecesFrom_found h, ← getLast?_cons_or c lexeme none, Option.or_none]

/-- Where nothing that is recognised in a text depends on what follows, the scan of both falls in
two. -/
theorem piecesFrom_append (honest : recognise.Honest) {rest : List Char}
    (ahead : ∀ before c text, recognise before (c :: text ++ rest) = recognise before (c :: text))
    {text : List Char} {skip : Nat} (inside : skip ≤ text.length) (before : Option Char) :
    piecesFrom recognise skip before (text ++ rest) =
      piecesFrom recognise skip before text ++
        piecesFrom recognise 0 (text.getLast?.or before) rest := by
  induction text generalizing skip before with
  | nil =>
      obtain rfl := Nat.le_zero.mp inside
      rfl
  | cons c text ih =>
      rw [getLast?_cons_or]
      cases skip with
      | succ skip =>
          rw [List.cons_append, piecesFrom, piecesFrom]
          exact ih (Nat.le_of_succ_le_succ inside) _
      | zero =>
          have same := ahead before c text
          rw [List.cons_append] at same ⊢
          rw [piecesFrom, piecesFrom, same]
          cases seen : recognise before (c :: text) with
          | none => exact congrArg (Piece.plain c :: ·) (ih (Nat.zero_le _) _)
          | some found =>
              obtain ⟨value, lexeme⟩ := found
              have short := (honest _ _ _ _ seen).2.length_le
              rw [List.length_cons] at short
              exact congrArg (Piece.found value lexeme :: ·) (ih (by omega) _)

/-- What is found stands in the text. -/
theorem lexeme_infix_of_mem (honest : recognise.Honest) {text lexeme : List Char} {value : α}
    (h : .found value lexeme ∈ pieces recognise text) : lexeme <:+: text := by
  obtain ⟨before, after, split⟩ := List.append_of_mem h
  refine ⟨before.flatMap Piece.text, after.flatMap Piece.text, ?_⟩
  rw [← pieces_text honest text, split, List.flatMap_append, List.flatMap_cons, Piece.text,
    List.append_assoc]

theorem replaceFound_append {m : Type → Type} [Monad m] [LawfulMonad m]
    (replacement : α → List Char → m (List Char)) (parts others : List (Piece α)) :
    replaceFound replacement (parts ++ others) = do
      let text ← replaceFound replacement parts
      return text ++ (← replaceFound replacement others) := by
  induction parts with
  | nil => simp [replaceFound]
  | cons part parts ih =>
      cases part <;>
        simp only [List.cons_append, replaceFound, ih, bind_assoc, pure_bind, List.append_assoc]

/-- Putting back what was found restores the text. -/
theorem replaceFound_same {m : Type → Type} [Monad m] [LawfulMonad m]
    {replacement : α → List Char → m (List Char)} {parts : List (Piece α)}
    (same : ∀ value lexeme, .found value lexeme ∈ parts → replacement value lexeme = pure lexeme) :
    replaceFound replacement parts = pure (parts.flatMap Piece.text) := by
  induction parts with
  | nil => rfl
  | cons part parts ih =>
      have rest := ih fun value lexeme inside => same value lexeme (List.mem_cons_of_mem _ inside)
      cases part with
      | plain c => simp [replaceFound, rest, Piece.text]
      | found value lexeme =>
          simp [replaceFound, rest, same value lexeme List.mem_cons_self, Piece.text]

/-- What is found was recognised somewhere. -/
theorem replaceFound_error {ε : Type} {replacement : α → List Char → Except ε (List Char)}
    {parts : List (Piece α)} {e : ε} (h : replaceFound replacement parts = .error e) :
    ∃ value lexeme, .found value lexeme ∈ parts ∧ replacement value lexeme = .error e := by
  induction parts with
  | nil => cases h
  | cons part parts ih =>
      have later (h : replaceFound replacement parts = .error e) :
          ∃ value lexeme, .found value lexeme ∈ part :: parts ∧
            replacement value lexeme = .error e := by
        obtain ⟨value, lexeme, inside, failed⟩ := ih h
        exact ⟨value, lexeme, List.mem_cons_of_mem part inside, failed⟩
      cases part with
      | plain c =>
          rcases bind_eq_error_iff.mp h with rest | ⟨texts, _, made⟩
          · exact later rest
          · cases made
      | found value lexeme =>
          rcases bind_eq_error_iff.mp h with here | ⟨text, _, behind⟩
          · exact ⟨value, lexeme, List.mem_cons_self, here⟩
          · rcases bind_eq_error_iff.mp behind with rest | ⟨texts, _, made⟩
            · exact later rest
            · cases made

theorem recognised_of_mem {skip : Nat} {before : Option Char} {text lexeme : List Char} {value : α}
    (h : .found value lexeme ∈ piecesFrom recognise skip before text) :
    ∃ previous rest, recognise previous rest = some (value, lexeme) := by
  induction text generalizing skip before with
  | nil =>
      rw [piecesFrom] at h
      exact absurd h List.not_mem_nil
  | cons c text ih =>
      cases skip with
      | succ skip =>
          rw [piecesFrom] at h
          exact ih h
      | zero =>
          rw [piecesFrom] at h
          split at h
          · rename_i seen
            rcases List.mem_cons.mp h with same | later
            · cases same
              exact ⟨before, c :: text, seen⟩
            · exact ih later
          · rcases List.mem_cons.mp h with same | later
            · cases same
            · exact ih later

/-- Something is found exactly if it is recognised at some place of the text. -/
theorem any_isFound_iff (empty : ∀ before, recognise before [] = none) (before : Option Char)
    (text : List Char) :
    (piecesFrom recognise 0 before text).any Piece.isFound = true ↔
      ∃ front rest, text = front ++ rest ∧
        (recognise (front.getLast?.or before) rest).isSome = true := by
  induction text generalizing before with
  | nil => simp [piecesFrom, empty]
  | cons c text ih =>
      rw [piecesFrom]
      cases seen : recognise before (c :: text) with
      | some found =>
          obtain ⟨value, lexeme⟩ := found
          simp only [List.any_cons, Piece.isFound, Bool.true_or, true_iff]
          exact ⟨[], c :: text, rfl, by simp [seen]⟩
      | none =>
          simp only [List.any_cons, Piece.isFound, Bool.false_or, ih]
          constructor
          · rintro ⟨front, rest, rfl, found⟩
            refine ⟨c :: front, rest, rfl, ?_⟩
            rw [List.getLast?_cons]
            cases last : front.getLast? <;> simpa [last] using found
          · rintro ⟨front, rest, split, found⟩
            cases front with
            | nil =>
                obtain rfl : c :: text = rest := split
                simp [seen] at found
            | cons d front =>
                obtain ⟨rfl, rfl⟩ := List.cons.inj split
                refine ⟨front, rest, rfl, ?_⟩
                rw [List.getLast?_cons] at found
                cases last : front.getLast? <;> simpa [last] using found

/-- What is recognised is how the values that fit are spelled, whatever stands before. -/
def Recogniser.Spells (recognise : Recogniser α) (fit : α → Prop) (spelling : α → List Char) :
    Prop :=
  ∀ before text value lexeme, recognise before text = some (value, lexeme) ↔
    fit value ∧ lexeme = spelling value ∧ lexeme <+: text

namespace Recogniser.Spells

variable {fit : α → Prop} {spelling : α → List Char} (spells : recognise.Spells fit spelling)
  (nonempty : ∀ value, spelling value ≠ [])
include spells nonempty

theorem honest : recognise.Honest := by
  intro before text value lexeme h
  obtain ⟨_, rfl, front⟩ := (spells _ _ _ _).mp h
  exact ⟨nonempty value, front⟩

omit nonempty in
/-- The character before the text makes no difference. -/
theorem before_eq (before : Option Char) (text : List Char) :
    recognise before text = recognise none text := by
  apply Option.ext
  rintro ⟨value, lexeme⟩
  rw [spells, spells]

omit nonempty in
theorem piecesFrom_eq (before : Option Char) (text : List Char) :
    piecesFrom recognise 0 before text = pieces recognise text := by
  cases text with
  | nil => rfl
  | cons c text => rw [pieces, piecesFrom, piecesFrom, spells.before_eq]

theorem isFound_iff {text : List Char} :
    (pieces recognise text).any Piece.isFound = true ↔
      ∃ value, fit value ∧ spelling value <:+: text := by
  have empty (before : Option Char) : recognise before [] = none := by
    apply Option.eq_none_iff_forall_not_mem.mpr
    intro found seen
    obtain ⟨_, same, front⟩ := (spells _ _ _ _).mp seen
    exact nonempty found.1 (List.prefix_nil.mp (same ▸ front))
  rw [pieces, any_isFound_iff empty]
  constructor
  · rintro ⟨front, rest, rfl, seen⟩
    obtain ⟨⟨value, lexeme⟩, seen⟩ := Option.isSome_iff_exists.mp seen
    obtain ⟨fits, rfl, here⟩ := (spells _ _ _ _).mp seen
    exact ⟨value, fits, here.isInfix.trans (List.suffix_append front rest).isInfix⟩
  · rintro ⟨value, fits, front, after, rfl⟩
    refine ⟨front, spelling value ++ after, List.append_assoc _ _ _, ?_⟩
    rw [Option.or_none, (spells _ _ _ _).mpr ⟨fits, rfl, List.prefix_append _ after⟩]
    rfl

/-- Nothing is replaced in a text that spells none of the values. -/
theorem replaceFound_absent {m : Type → Type} [Monad m] [LawfulMonad m]
    (replacement : α → List Char → m (List Char)) {text : List Char}
    (absent : ¬∃ value, fit value ∧ spelling value <:+: text) :
    replaceFound replacement (pieces recognise text) = pure text := by
  rw [replaceFound_same, pieces_text (spells.honest nonempty)]
  intro value lexeme inside
  have found : (pieces recognise text).any Piece.isFound = true :=
    List.any_eq_true.mpr ⟨_, inside, rfl⟩
  exact absurd ((spells.isFound_iff nonempty).mp found) absent

end Recogniser.Spells

end Fortune.Text
