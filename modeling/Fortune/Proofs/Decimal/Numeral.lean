import Fortune.Decimal.Reader
import Fortune.Proofs.Text.Numeral

/-! Numerals as numbers: the reader of floats gives a numeral its own value. -/
namespace Fortune.Decimal
open Text

/-- A digit is no sign and no letter of the words for infinity and for what is no number. -/
theorem digit_plain {c : Char} (digit : isDigit c = true) :
    c ≠ '-' ∧ c ≠ '+' ∧ lower c ≠ 'i' ∧ lower c ≠ 'n' := by
  have small : lower c = c := by
    simp only [isDigit, Bool.and_eq_true, decide_eq_true_eq] at digit
    simp only [lower, Bool.and_eq_true, decide_eq_true_eq]
    rw [if_neg]
    intro letter
    have chain : 'A' ≤ '9' := Char.le_trans letter.1 digit.2
    exact absurd chain (by decide)
  rw [small]
  refine ⟨?_, ?_, ?_, ?_⟩
  all_goals
    rintro rfl
    exact absurd digit (by decide)

theorem splitSign_digit {c : Char} (digit : isDigit c = true) (rest : List Char) :
    splitSign (c :: rest) = (false, c :: rest) := by
  obtain ⟨minus, plus, _⟩ := digit_plain digit
  unfold splitSign
  split
  · rename_i same
    exact absurd (List.cons.inj same).1 minus
  · rename_i same
    exact absurd (List.cons.inj same).1 plus
  · rfl

theorem magnitude?_numeral {n : Numeral} (formed : n.WellFormed) :
    magnitude? n.text = some (numeralFloat n) := by
  obtain ⟨whole, fraction⟩ := n
  obtain ⟨some, digits, digits'⟩ := formed
  simp only at some digits digits'
  have nonempty : whole.isEmpty = false := List.isEmpty_eq_false_iff.mpr some
  have stop : ([] : List Char).takeWhile isDigit = [] := rfl
  cases fraction with
  | nil =>
      obtain ⟨run, after⟩ := span_run digits stop
      rw [List.append_nil] at run after
      change magnitude? whole = _
      simp [magnitude?, run, after, nonempty, numeralFloat]
  | cons d fraction =>
      have point : ('.' :: d :: fraction).takeWhile isDigit = [] := by simp [isDigit_point]
      obtain ⟨run, after⟩ := span_run digits point
      obtain ⟨run', after'⟩ := span_run digits' stop
      rw [List.append_nil] at run' after'
      change magnitude? (whole ++ '.' :: d :: fraction) = _
      simp only [magnitude?, run, after, run', after', nonempty, numeralFloat, Bool.false_and,
        Bool.false_eq_true, if_false]

/-- The text of a numeral reads as its value. -/
theorem float?_numeral {n : Numeral} (formed : n.WellFormed) :
    float? n.text = some (numeralFloat n) := by
  have value := magnitude?_numeral formed
  obtain ⟨c, rest, spelled, digit⟩ := formed.text_cons
  obtain ⟨_, _, i, m⟩ := digit_plain digit
  rw [spelled] at value ⊢
  simp only [float?, splitSign_digit digit, List.map_cons, Bool.false_eq_true, if_false]
  split
  · rename_i same
    exact absurd (List.cons.inj same).1 i
  · rename_i same
    exact absurd (List.cons.inj same).1 i
  · rename_i same
    exact absurd (List.cons.inj same).1 m
  · rw [value]
    rfl

end Fortune.Decimal
