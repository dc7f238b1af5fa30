import Fortune.Proofs.Decimal.Layout
import Fortune.Proofs.Document.Literal

/-! Integers as texts: each is written as a numeral that is read back as the same integer. -/
namespace Fortune.Decimal
open Text

theorem natOfDigits_natText (n : Nat) : natOfDigits (natText n) = n := by
  have read := Nat.ofDigitChars_ten_toDigits (n := n)
  rw [Nat.ofDigitChars_eq_foldl] at read
  exact read

theorem wellFormed_natText (n : Nat) : Numeral.WellFormed ⟨natText n, []⟩ :=
  ⟨Nat.toDigits_ne_nil, isDigit_natText n, fun c inside => by cases inside⟩

def numeralOf (n : Int) : SignedNumeral := ⟨n < 0, ⟨natText n.natAbs, []⟩⟩

theorem text_numeralOf (n : Int) : (numeralOf n).text = intText n := by
  cases n with
  | ofNat n =>
      simp [numeralOf, SignedNumeral.text, Numeral.text, intText]
  | negSucc n =>
      have signed : Int.negSucc n < 0 := Int.negSucc_lt_zero n
      simp [numeralOf, SignedNumeral.text, Numeral.text, intText, signed]

theorem integerOf_numeralOf (n : Int) : integerOf (numeralOf n) = n := by
  simp only [integerOf, numeralOf, natOfDigits_natText, decide_eq_true_eq]
  split <;> omega

/-- Every integer of 64 bits is read back from its text. -/
theorem int64?_intText {n : Int} (least : least64 ≤ n) (greatest : n ≤ greatest64) :
    int64? (intText n) = some n := by
  have read := int64?_signed (m := numeralOf n) (wellFormed_natText n.natAbs)
  rw [text_numeralOf, integerOf_numeralOf, if_pos ⟨rfl, least, greatest⟩] at read
  exact read

theorem int64?_range {text : List Char} {n : Int} (h : int64? text = some n) :
    least64 ≤ n ∧ n ≤ greatest64 := by
  simp only [int64?, intWithin?, Option.ite_none_right_eq_some, Option.some.injEq] at h
  obtain ⟨_, fits, rfl⟩ := h
  simpa using fits

end Fortune.Decimal
