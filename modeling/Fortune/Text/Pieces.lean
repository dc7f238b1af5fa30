/-!
One left-to-right scan for all patterns. A text falls into pieces: what a pattern recognises,
leftmost first and without overlap, and the single characters between. `pieces_text` says that the
pieces spell the text, provided the pattern spells what it takes.
-/
namespace Fortune.Text

inductive Piece (α : Type) where
  /-- A character at which nothing was found. -/
  | plain (c : Char)
  /-- Something found, and the characters it covers. -/
  | found (value : α) (lexeme : List Char)
deriving Repr

def Piece.text {α : Type} : Piece α → List Char
  | .plain c => [c]
  | .found _ lexeme => lexeme

/-- Looks for something at the front of a text, knowing the character before it. -/
abbrev Recogniser (α : Type) := Option Char → List Char → Option (α × List Char)

/-- Scans on. The first `skip` characters belong to the piece found last. -/
def piecesFrom {α : Type} (recognise : Recogniser α) :
    Nat → Option Char → List Char → List (Piece α)
  | _, _, [] => []
  | skip + 1, _, c :: rest => piecesFrom recognise skip (some c) rest
  | 0, before, c :: rest =>
    match recognise before (c :: rest) with
    | some (value, lexeme) =>
      .found value lexeme :: piecesFrom recognise (lexeme.length - 1) (some c) rest
    | none => .plain c :: piecesFrom recognise 0 (some c) rest

def pieces {α : Type} (recognise : Recogniser α) (text : List Char) : List (Piece α) :=
  piecesFrom recognise 0 none text

def Piece.isFound {α : Type} : Piece α → Bool
  | .plain _ => false
  | .found _ _ => true

/-- Puts something in the place of each thing found, from left to right. -/
def replaceFound {m : Type → Type} [Monad m] {α : Type}
    (replacement : α → List Char → m (List Char)) :
    List (Piece α) → m (List Char)
  | [] => pure []
  | .plain c :: rest => return c :: (← replaceFound replacement rest)
  | .found value lexeme :: rest => do
    let text ← replacement value lexeme
    return text ++ (← replaceFound replacement rest)

/-- What is recognised is a non-empty beginning of the text. -/
def Recogniser.Honest {α : Type} (recognise : Recogniser α) : Prop :=
  ∀ before text value lexeme, recognise before text = some (value, lexeme) →
    lexeme ≠ [] ∧ lexeme <+: text

theorem piecesFrom_text {α : Type} {recognise : Recogniser α} (honest : recognise.Honest)
    (skip : Nat) (before : Option Char) (text : List Char) :
    (piecesFrom recognise skip before text).flatMap Piece.text = text.drop skip := by
  induction text generalizing skip before with
  | nil => cases skip <;> simp [piecesFrom]
  | cons c rest ih =>
    cases skip with
    | succ skip => simpa [piecesFrom] using ih skip (some c)
    | zero =>
      unfold piecesFrom
      split
      · rename_i value lexeme seen
        obtain ⟨nonempty, tail, spelled⟩ := honest _ _ _ _ seen
        cases lexeme with
        | nil => exact absurd rfl nonempty
        | cons d ds =>
          simp only [List.cons_append, List.cons.injEq] at spelled
          obtain ⟨rfl, rfl⟩ := spelled
          simp [ih, Piece.text]
      · simp [ih, Piece.text]

/-- Nothing is lost, added or moved by scanning. -/
theorem pieces_text {α : Type} {recognise : Recogniser α} (honest : recognise.Honest)
    (text : List Char) : (pieces recognise text).flatMap Piece.text = text := by
  simpa [pieces] using piecesFrom_text honest 0 none text

end Fortune.Text
