import Fortune.Proofs.Arithmetic.Grammar
import Fortune.Proofs.Arithmetic.Lexing
import Fortune.Proofs.Decimal.Numeral

/-!
Evaluation of texts. A text has a value exactly if it spells a tree of the grammar with blanks
between the tokens, and the value is that of the tree as long as it is finite.
-/
namespace Fortune.Arithmetic
open Text

/-- After an operand there is no numeral, so the parser accepts separate tokens only. -/
theorem await_separate (ts : List Token) :
    (∀ (sum : Product → Sum) (product : Operand → Product) (signed : Operand → Operand) (e : Sum),
      awaitOperand sum product signed ts = .ok e → Separate ts) ∧
    ∀ (sum : Product → Sum) (product : Product) (e : Sum) (n : Numeral),
      awaitOperator sum product ts = .ok e → Separate (.numeral n :: ts) := by
  induction ts with
  | nil => exact ⟨fun _ _ _ _ _ => trivial, fun _ _ _ _ _ => trivial⟩
  | cons t ts ih =>
      obtain ⟨operand, operator⟩ := ih
      constructor
      · intro sum product signed e h
        cases t with
        | numeral n => exact operator _ _ e n h
        | minus => exact operand _ _ _ e h
        | plus => cases h
        | star => cases h
        | slash => cases h
      · intro sum product e n h
        cases t with
        | numeral m => cases h
        | minus => exact operand _ _ _ e h
        | plus => exact operand _ _ _ e h
        | star => exact operand _ _ _ e h
        | slash => exact operand _ _ _ e h

theorem separate_tokens (e : Grammar.Sum) : Separate e.tokens :=
  (await_separate e.tokens).1 _ _ _ e.tree (ofTokens_tokens e)

/-- A numeral ends where blanks, a sign or nothing follows. -/
theorem Spaced.ends {ts : List Token} {text : List Char} (h : Spaced ts text)
    (sign : ∀ m us, ts ≠ .numeral m :: us) (n : Numeral) : n.Ends text := by
  refine Numeral.Ends.of_head ?_
  intro c more same
  cases h with
  | done blank =>
      exact space_ends (blank c (same ▸ List.mem_cons_self))
  | @token blanks rest t ts blank formed tail =>
      cases blanks with
      | cons b blanks =>
          obtain ⟨rfl, _⟩ := List.cons.inj same
          exact space_ends (blank b List.mem_cons_self)
      | nil =>
          cases t with
          | numeral m => exact absurd rfl (sign m ts)
          | plus => obtain ⟨rfl, _⟩ := List.cons.inj same; decide
          | minus => obtain ⟨rfl, _⟩ := List.cons.inj same; decide
          | star => obtain ⟨rfl, _⟩ := List.cons.inj same; decide
          | slash => obtain ⟨rfl, _⟩ := List.cons.inj same; decide

/-- The lexer reads back separate tokens from any spacing. -/
theorem Spaced.lexes {ts : List Token} {text : List Char} (h : Spaced ts text)
    (separate : Separate ts) : Lexes ts text := by
  induction h with
  | done blank =>
      have all := Lexes.nil.blanks blank
      rw [List.append_nil] at all
      exact all
  | @token blanks rest t ts blank formed tail ih =>
      rw [List.append_assoc]
      refine Lexes.blanks ?_ blank
      cases t with
      | numeral n =>
          have sign : ∀ m us, ts ≠ .numeral m :: us := by
            rintro m us rfl
            exact separate
          have later : Separate ts := by
            cases ts with
            | nil => trivial
            | cons u us =>
                cases u with
                | numeral m => exact absurd rfl (sign m us)
                | plus => exact separate
                | minus => exact separate
                | star => exact separate
                | slash => exact separate
          exact (ih later).numeral formed (tail.ends sign n)
      | plus => exact (ih separate).sign fun n same => by cases same
      | minus => exact (ih separate).sign fun n same => by cases same
      | star => exact (ih separate).sign fun n same => by cases same
      | slash => exact (ih separate).sign fun n same => by cases same

theorem tokens_of_lexes {ts : List Token} {text : List Char} (h : Lexes ts text) :
    tokens text = .ok ts := h none 0

theorem parse_of_spaced {e : Grammar.Sum} {source : List Char} (h : Spaced e.tokens source) :
    parse source = .ok e.tree := by
  have lexed := tokens_of_lexes (h.lexes (separate_tokens e))
  simp only [parse, lexed]
  exact ofTokens_tokens e

theorem parse_ok_iff (source : List Char) :
    (∃ e, parse source = .ok e) ↔ ∃ e : Grammar.Sum, Spaced e.tokens source := by
  constructor
  · rintro ⟨e, h⟩
    simp only [parse] at h
    cases lexed : tokens source with
    | error fault =>
        rw [lexed] at h
        cases h
    | ok ts =>
        rw [lexed] at h
        obtain ⟨g, rfl⟩ := (ofTokens_ok_iff ts).mp ⟨e, h⟩
        exact ⟨g, tokens_sound lexed⟩
  · rintro ⟨e, h⟩
    exact ⟨e.tree, parse_of_spaced h⟩

theorem evaluate_of_spaced {e : Grammar.Sum} {source : List Char} (h : Spaced e.tokens source) :
    evaluate source = if e.value.isFinite then .ok e.value else .error .notFinite := by
  simp only [evaluate, parse_of_spaced h]
  rw [← Grammar.Sum.value_tree]
  rfl

end Fortune.Arithmetic
