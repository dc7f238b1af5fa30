import Fortune.Proofs.Decimal.Overflow
import Fortune.Proofs.Template.Recognised
import Fortune.Proofs.Text.Pattern

/-!
Numerals in two places. A template takes the quotes off the texts that its pattern matches, and a
document reads literals character by character; both go for the same texts. Only where the float is
infinite does the document keep the text.
-/
namespace Fortune.Document
open Text Decimal

/-- The text is no literal, and it were one but for its float, which is infinite. -/
def TooGreat (text : List Char) : Prop :=
  literal? text = none ∧
    ∃ x, literalBy? (fun _ => true) text = some (.real x) ∧ x.isInf = true

/-- A text spells a numeral if it is a literal or too great for one. -/
theorem signed_iff {text : List Char} :
    (∃ m : SignedNumeral, m.magnitude.WellFormed ∧ text = m.text) ↔
      (∃ n, literal? text = some n) ∨ TooGreat text := by
  constructor
  · rintro ⟨m, formed, rfl⟩
    cases read : literal? m.text with
    | some n => exact .inl ⟨n, rfl⟩
    | none =>
        refine .inr ⟨read, floatOf m, ?_⟩
        rw [literal?_eq, literalBy?_signed _ formed] at read
        rw [literalBy?_signed _ formed]
        split at read
        · cases read
        · rename_i unfit
          split at read
          · cases read
          · rename_i unbounded
            rw [if_neg unfit]
            exact ⟨rfl, isInf_of_isNaN (isNaN_floatOf m) (Bool.eq_false_of_not_eq_true unbounded)⟩
  · rintro (⟨n, read⟩ | ⟨_, x, read, _⟩)
    · exact signed_of_literal? read
    · exact signed_of_literalBy? read

end Fortune.Document

namespace Fortune.Template
open Text Decimal Document

def quoted (text : List Char) : List Char := '"' :: text ++ ['"']

/-- Where there are only two quotes, what is quoted is all that is between them. -/
theorem eq_of_quoted_inside {text inner : List Char} (bare : '"' ∉ text)
    (inside : quoted inner <:+: quoted text) : inner = text := by
  obtain ⟨front, back, split⟩ := inside
  have counts := congrArg (List.count '"') split
  simp only [quoted, List.count_append, List.count_cons_self, List.cons_append, List.count_nil,
    List.count_eq_zero_of_not_mem bare] at counts
  have front_nil : front = [] := by
    cases front with
    | nil => rfl
    | cons c front =>
        obtain ⟨rfl, _⟩ := List.cons.inj split
        rw [List.count_cons_self] at counts
        omega
  have back_nil : back = [] := by
    rcases List.eq_nil_or_concat' back with rfl | ⟨back, c, rfl⟩
    · rfl
    · rw [← List.append_assoc] at split
      cases (List.append_inj' split rfl).2
      rw [List.count_append, List.count_singleton_self] at counts
      omega
  subst front_nil back_nil
  rw [List.nil_append, List.append_nil] at split
  exact List.append_cancel_right (List.cons.inj split).2

theorem unquote_quotedNumeral {m : SignedNumeral} (formed : m.magnitude.WellFormed) :
    unquote (quotedNumeral m) = m.text := by
  have seen : quotedNumeral? none (quotedNumeral m) = some (m, quotedNumeral m) :=
    (quotedNumeral?_spells _ _ _ _).mpr ⟨formed, rfl, List.prefix_rfl⟩
  obtain ⟨rest, split, scanned⟩ := piecesFrom_recognised quotedNumeral?_honest seen
  obtain rfl : rest = [] := List.append_right_eq_self.mp split.symm
  rw [unquote, pieces, scanned]
  exact List.append_nil _

theorem unquote_quoted_iff {text : List Char} (bare : '"' ∉ text) :
    unquote (quoted text) = text ↔
      ∃ m : SignedNumeral, m.magnitude.WellFormed ∧ text = m.text := by
  constructor
  · intro stripped
    by_contra none
    -- Nothing quoted in the text is a numeral, so that the quotes would have stayed.
    have kept : unquote (quoted text) = quoted text := by
      apply unquote_of_unquoted
      rintro ⟨m, formed, inside⟩
      exact none ⟨m, formed, (eq_of_quoted_inside bare inside).symm⟩
    have size := congrArg List.length (kept.symm.trans stripped)
    rw [quoted, List.length_append, List.length_cons, List.length_singleton] at size
    omega
  · rintro ⟨m, formed, rfl⟩
    exact unquote_quotedNumeral formed

/-- The texts that lose their quotes, the texts that the pattern matches, and the literals of
documents together with those too great for one are the same. -/
theorem literals_exact (text : List Char) (bare : '"' ∉ text) :
    (unquote ('"' :: text ++ ['"']) = text ↔ text ∈ Pattern.numeral.matches') ∧
      (text ∈ Pattern.numeral.matches' ↔ (∃ n, literal? text = some n) ∨ TooGreat text) ∧
      (∀ m : SignedNumeral, m.magnitude.WellFormed → text = m.text →
        m.magnitude.fraction = [] → least64 ≤ integerOf m → integerOf m ≤ greatest64 →
        literal? text = some (.integer (integerOf m))) := by
  refine ⟨?_, ?_, ?_⟩
  · rw [SignedNumeral.mem_pattern]
    exact unquote_quoted_iff bare
  · rw [SignedNumeral.mem_pattern]
    exact signed_iff
  · rintro m formed rfl whole least greatest
    rw [literal?_signed formed]
    exact if_pos ⟨whole, least, greatest⟩

/-- Of two numerals that lose their quotes one is an integer, and the other is too great. -/
theorem literals_of_two :
    (unquote ('"' :: ['-', '4', '2'] ++ ['"']) = ['-', '4', '2'] ∧
      literal? ['-', '4', '2'] = some (.integer (-42))) ∧
    unquote ('"' :: '1' :: List.replicate 309 '0' ++ ['"']) = '1' :: List.replicate 309 '0' ∧
      TooGreat ('1' :: List.replicate 309 '0') := by
  constructor
  · obtain ⟨stripped, _, exact⟩ := literals_exact ['-', '4', '2'] (by decide)
    have formed : Numeral.WellFormed ⟨['4', '2'], []⟩ :=
      ⟨List.cons_ne_nil _ _, List.all_eq_true.mp rfl, List.forall_mem_nil _⟩
    refine ⟨stripped.mpr (SignedNumeral.mem_pattern.mpr ⟨⟨true, _⟩, formed, rfl⟩), ?_⟩
    exact exact ⟨true, _⟩ formed rfl rfl (by decide) (by decide)
  · obtain ⟨stripped, read, _⟩ := literals_exact ('1' :: List.replicate 309 '0') (by decide)
    have formed : Numeral.WellFormed ⟨'1' :: List.replicate 309 '0', []⟩ :=
      ⟨List.cons_ne_nil _ _, List.all_eq_true.mp (by decide +kernel), List.forall_mem_nil _⟩
    have spelled := SignedNumeral.mem_pattern.mpr ⟨⟨false, _⟩, formed, rfl⟩
    have unread : literal? ('1' :: List.replicate 309 '0') = none := by decide +kernel
    refine ⟨stripped.mpr spelled, (read.mp spelled).resolve_left ?_⟩
    rw [unread]
    rintro ⟨n, h⟩
    cases h

end Fortune.Template
