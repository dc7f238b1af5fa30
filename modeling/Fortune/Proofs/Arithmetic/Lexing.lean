import Fortune.Arithmetic.Token
import Fortune.Proofs.Text.Numeral
import Fortune.Proofs.Text.Pieces

/-!
Texts as tokens between blanks. The lexer accepts nothing else, and it reads back any tokens between
blanks as long as no two numerals can run together.
-/
namespace Fortune.Arithmetic
open Text

def Token.WellFormed : Token → Prop
  | .numeral n => n.WellFormed
  | _ => True

/-- Tokens as they are spelled, with any number of blanks before, between and after them. -/
inductive Spaced : List Token → List Char → Prop where
  | done {blanks : List Char} (blank : ∀ c ∈ blanks, isSpace c = true) : Spaced [] blanks
  | token {blanks rest : List Char} {t : Token} {ts : List Token}
      (blank : ∀ c ∈ blanks, isSpace c = true) (formed : t.WellFormed) (tail : Spaced ts rest) :
      Spaced (t :: ts) (blanks ++ t.spelling ++ rest)

/-- No numeral stands right behind another. -/
def Separate : List Token → Prop
  | .numeral _ :: .numeral _ :: _ => False
  | _ :: rest => Separate rest
  | [] => True

/-- What the lexer may take for a token or a blank. -/
def Lexeme : Option Token → List Char → Prop
  | none, lexeme => ∃ c, isSpace c = true ∧ lexeme = [c]
  | some t, lexeme => t.WellFormed ∧ lexeme = t.spelling

theorem Spaced.blank {ts : List Token} {text : List Char} {c : Char} (space : isSpace c = true)
    (h : Spaced ts text) : Spaced ts (c :: text) := by
  cases h with
  | done blank => exact .done (List.forall_mem_cons.mpr ⟨space, blank⟩)
  | token blank formed tail =>
      rw [← List.cons_append, ← List.cons_append]
      exact .token (List.forall_mem_cons.mpr ⟨space, blank⟩) formed tail

theorem Spaced.cons {ts : List Token} {text : List Char} {t : Token} (formed : t.WellFormed)
    (h : Spaced ts text) : Spaced (t :: ts) (t.spelling ++ text) := by
  have none : ∀ c ∈ ([] : List Char), isSpace c = true := fun _ hc => absurd hc List.not_mem_nil
  exact .token none formed h

/-! What the lexer finds at the front of a text. -/

theorem Lexeme.sign {t : Token} {c x : Char} (formed : t.WellFormed) (spelled : t.spelling = [x])
    (same : (c == x) = true) : Lexeme (some t) [c] :=
  ⟨formed, by rw [spelled, beq_iff_eq.mp same]⟩

theorem lexeme?_sound {before : Option Char} {text lexeme : List Char} {value : Option Token}
    (h : lexeme? before text = some (value, lexeme)) : Lexeme value lexeme ∧ lexeme <+: text := by
  cases text with
  | nil => cases h
  | cons c rest =>
      have front : [c] <+: c :: rest := ⟨rest, rfl⟩
      simp only [lexeme?] at h
      split at h
      · rename_i space
        cases h
        exact ⟨⟨c, space, rfl⟩, front⟩
      split at h
      · rename_i same
        cases h
        exact ⟨.sign trivial rfl same, front⟩
      split at h
      · rename_i same
        cases h
        exact ⟨.sign trivial rfl same, front⟩
      split at h
      · rename_i same
        cases h
        exact ⟨.sign trivial rfl same, front⟩
      split at h
      · rename_i same
        cases h
        exact ⟨.sign trivial rfl same, front⟩
      obtain ⟨⟨n, more⟩, scanned, made⟩ := Option.map_eq_some_iff.mp h
      cases made
      obtain ⟨formed, spelled, _⟩ := Numeral.scan_sound scanned
      exact ⟨⟨formed, rfl⟩, more, spelled.symm⟩

theorem Lexeme.ne_nil {value : Option Token} {lexeme : List Char} (h : Lexeme value lexeme) :
    lexeme ≠ [] := by
  cases value with
  | none =>
      obtain ⟨c, _, rfl⟩ := h
      exact List.cons_ne_nil c []
  | some t =>
      obtain ⟨formed, rfl⟩ := h
      cases t with
      | numeral n =>
          obtain ⟨c, rest, spelled, _⟩ := Numeral.WellFormed.text_cons formed
          change n.text ≠ []
          rw [spelled]
          exact List.cons_ne_nil c rest
      | plus => exact List.cons_ne_nil _ _
      | minus => exact List.cons_ne_nil _ _
      | star => exact List.cons_ne_nil _ _
      | slash => exact List.cons_ne_nil _ _

theorem lexeme?_honest : lexeme?.Honest := by
  intro before text value lexeme h
  obtain ⟨known, front⟩ := lexeme?_sound h
  exact ⟨known.ne_nil, front⟩

theorem lexeme?_space (before : Option Char) {c : Char} (rest : List Char)
    (space : isSpace c = true) : lexeme? before (c :: rest) = some (none, [c]) := by
  simp [lexeme?, space]

/-- A digit begins neither a blank nor a sign. -/
theorem digit_apart {c : Char} (digit : isDigit c = true) :
    isSpace c = false ∧ c ≠ '+' ∧ c ≠ '-' ∧ c ≠ '*' ∧ c ≠ '/' := by
  refine ⟨?_, ?_, ?_, ?_, ?_⟩
  · refine Bool.eq_false_iff.mpr fun space => ?_
    simp only [isSpace, Bool.or_eq_true, beq_iff_eq] at space
    rcases space with ((rfl | rfl) | rfl) | rfl <;> exact absurd digit (by decide)
  all_goals
    rintro rfl
    exact absurd digit (by decide)

theorem space_ends {c : Char} (space : isSpace c = true) : isDigit c = false ∧ c ≠ '.' := by
  constructor
  · refine Bool.eq_false_iff.mpr fun digit => ?_
    rw [(digit_apart digit).1] at space
    cases space
  · rintro rfl
    exact absurd space (by decide)

theorem lexeme?_numeral (before : Option Char) {n : Numeral} (formed : n.WellFormed)
    {rest : List Char} (ends : n.Ends rest) :
    lexeme? before (n.text ++ rest) = some (some (.numeral n), n.text) := by
  have scanned := Numeral.scan_complete formed ends
  obtain ⟨c, more, spelled, digit⟩ := formed.text_cons
  obtain ⟨space, plus, minus, star, slash⟩ := digit_apart digit
  rw [spelled, List.cons_append] at scanned ⊢
  simp [lexeme?, space, plus, minus, star, slash, scanned, spelled]

/-! What the lexer makes of a whole text. -/

theorem collect_sound {pieces : List (Piece (Option Token))}
    (known : ∀ value lexeme, .found value lexeme ∈ pieces → Lexeme value lexeme) {offset : Nat}
    {ts : List Token} (h : collect offset pieces = .ok ts) :
    Spaced ts (pieces.flatMap Piece.text) := by
  induction pieces generalizing offset ts with
  | nil =>
      cases h
      exact .done fun _ hc => absurd hc List.not_mem_nil
  | cons piece pieces ih =>
      have later : ∀ value lexeme, .found value lexeme ∈ pieces → Lexeme value lexeme :=
        fun value lexeme hp => known value lexeme (List.mem_cons_of_mem _ hp)
      rw [List.flatMap_cons]
      cases piece with
      | plain c => cases h
      | found value lexeme =>
          have first := known value lexeme List.mem_cons_self
          cases value with
          | none =>
              obtain ⟨c, space, rfl⟩ := first
              exact (ih later h).blank space
          | some t =>
              obtain ⟨formed, rfl⟩ := first
              rw [collect] at h
              cases rest : collect (offset + byteSize t.spelling) pieces with
              | error fault =>
                  rw [rest] at h
                  cases h
              | ok us =>
                  rw [rest] at h
                  cases h
                  exact (ih later rest).cons formed

/-- The lexer accepts nothing but tokens between blanks. -/
theorem tokens_sound {source : List Char} {ts : List Token} (h : tokens source = .ok ts) :
    Spaced ts source := by
  have spaced := collect_sound (fun value lexeme hp => ?_) h
  · rw [pieces_text lexeme?_honest] at spaced
    exact spaced
  · obtain ⟨before, rest, seen⟩ := recognised_of_mem hp
    exact (lexeme?_sound seen).1

/-- The lexer makes these tokens of a text, whatever stands before it. -/
def Lexes (ts : List Token) (text : List Char) : Prop :=
  ∀ before offset, collect offset (piecesFrom lexeme? 0 before text) = .ok ts

theorem Lexes.nil : Lexes [] [] := fun _ _ => rfl

theorem Lexes.blank {ts : List Token} {text : List Char} (h : Lexes ts text) {c : Char}
    (space : isSpace c = true) : Lexes ts (c :: text) := by
  intro before offset
  have seen : lexeme? before (c :: ([] ++ text)) = some (none, [c]) :=
    lexeme?_space before text space
  have found := piecesFrom_found seen
  rw [List.nil_append] at found
  rw [found]
  exact h _ _

theorem Lexes.blanks {ts : List Token} {text blanks : List Char} (h : Lexes ts text)
    (space : ∀ c ∈ blanks, isSpace c = true) : Lexes ts (blanks ++ text) := by
  induction blanks with
  | nil => exact h
  | cons c blanks ih =>
      obtain ⟨first, later⟩ := List.forall_mem_cons.mp space
      exact (ih later).blank first

theorem Lexes.cons {ts : List Token} {rest : List Char} (h : Lexes ts rest) {t : Token}
    (seen : ∀ before, lexeme? before (t.spelling ++ rest) = some (some t, t.spelling)) :
    Lexes (t :: ts) (t.spelling ++ rest) := by
  intro before offset
  have first := seen before
  cases spelled : t.spelling with
  | nil => exact absurd spelled (lexeme?_sound first).1.ne_nil
  | cons c lexeme =>
      rw [spelled, List.cons_append] at first
      rw [List.cons_append, piecesFrom_found first, collect, h]
      rfl

theorem Lexes.sign {ts : List Token} {rest : List Char} (h : Lexes ts rest) {t : Token}
    (sign : ∀ n, t ≠ .numeral n) : Lexes (t :: ts) (t.spelling ++ rest) := by
  refine h.cons fun before => ?_
  cases t with
  | numeral n => exact absurd rfl (sign n)
  | plus => rfl
  | minus => rfl
  | star => rfl
  | slash => rfl

theorem Lexes.numeral {ts : List Token} {rest : List Char} (h : Lexes ts rest) {n : Numeral}
    (formed : n.WellFormed) (ends : n.Ends rest) : Lexes (.numeral n :: ts) (n.text ++ rest) :=
  h.cons (t := .numeral n) fun before => lexeme?_numeral before formed ends

end Fortune.Arithmetic
