import Fortune.Proofs.Text.Numeral
import Mathlib.Computability.RegularExpressions

/-!
Signed numerals as a regular expression, `-?[0-9]+(\.[0-9]+)?`. It matches what numerals spell and
nothing else, so the digits are the ASCII ones.
-/
namespace Fortune.Text

namespace Pattern
open RegularExpression

def oneOf (chars : List Char) : RegularExpression Char := (chars.map char).sum

def many (p : RegularExpression Char) : RegularExpression Char := p * star p

def optional (p : RegularExpression Char) : RegularExpression Char := 1 + p

def digits : RegularExpression Char := many (oneOf "0123456789".toList)

def numeral : RegularExpression Char :=
  optional (char '-') * (digits * optional (char '.' * digits))

variable {p : RegularExpression Char} {text : List Char}

theorem mem_oneOf {chars : List Char} :
    text ∈ (oneOf chars).matches' ↔ ∃ c ∈ chars, text = [c] := by
  induction chars with
  | nil =>
      constructor
      · exact False.elim
      · rintro ⟨c, h, _⟩
        cases h
  | cons c chars ih =>
      change text ∈ (char c).matches' + (oneOf chars).matches' ↔ _
      rw [Language.mem_add, ih, List.exists_mem_cons_iff]
      exact Iff.rfl

/-- Characters of the class, at least one. -/
theorem mem_many_oneOf {chars : List Char} :
    text ∈ (many (oneOf chars)).matches' ↔ text ≠ [] ∧ ∀ c ∈ text, c ∈ chars := by
  rw [many, matches'_mul, matches'_star, Language.mem_mul]
  constructor
  · rintro ⟨first, hfirst, rest, hrest, rfl⟩
    obtain ⟨c, hc, rfl⟩ := mem_oneOf.mp hfirst
    obtain ⟨parts, rfl, hparts⟩ := Language.mem_kstar.mp hrest
    refine ⟨List.cons_ne_nil _ _, ?_⟩
    intro d hd
    cases hd with
    | head => exact hc
    | tail _ hd =>
        obtain ⟨part, hpart, hd⟩ := List.mem_flatten.mp hd
        obtain ⟨e, he, rfl⟩ := mem_oneOf.mp (hparts part hpart)
        cases List.mem_singleton.mp hd
        exact he
  · rintro ⟨some, inside⟩
    obtain ⟨c, rest, rfl⟩ := List.exists_cons_of_ne_nil some
    obtain ⟨hc, hrest⟩ := List.forall_mem_cons.mp inside
    refine ⟨[c], mem_oneOf.mpr ⟨c, hc, rfl⟩, rest, ?_, rfl⟩
    refine Language.mem_kstar.mpr ⟨rest.map fun d => [d], ?_, ?_⟩
    · rw [← List.flatMap_def, List.flatMap_singleton']
    · intro part hpart
      obtain ⟨d, hd, rfl⟩ := List.mem_map.mp hpart
      exact mem_oneOf.mpr ⟨d, hrest d hd, rfl⟩

theorem mem_optional : text ∈ (optional p).matches' ↔ text = [] ∨ text ∈ p.matches' := by
  rw [optional, matches'_add, Language.mem_add, matches'_epsilon, Language.mem_one]

theorem mem_char_mul {c : Char} :
    text ∈ (char c * p).matches' ↔ ∃ rest ∈ p.matches', text = c :: rest := by
  rw [matches'_mul, Language.mem_mul]
  constructor
  · rintro ⟨first, rfl, rest, hrest, rfl⟩
    exact ⟨rest, hrest, rfl⟩
  · rintro ⟨rest, hrest, rfl⟩
    exact ⟨[c], rfl, rest, hrest, rfl⟩

theorem mem_digit_iff {c : Char} : c ∈ "0123456789".toList ↔ isDigit c = true := by
  constructor
  · have all : "0123456789".toList.all isDigit = true := by decide
    exact List.all_eq_true.mp all c
  · intro digit
    simp only [isDigit, Bool.and_eq_true, decide_eq_true_eq] at digit
    have low : 48 ≤ c.toNat := digit.1
    have high : c.toNat < 58 := Nat.lt_succ_of_le digit.2
    have all : ∀ n < 58, 48 ≤ n → Char.ofNat n ∈ "0123456789".toList := by decide
    rw [← Char.ofNat_toNat c]
    exact all _ high low

theorem mem_digits : text ∈ digits.matches' ↔ text ≠ [] ∧ ∀ c ∈ text, isDigit c = true := by
  rw [digits, mem_many_oneOf]
  simp only [mem_digit_iff]

end Pattern

open Pattern

theorem Numeral.mem_pattern {text : List Char} :
    text ∈ (digits * optional (RegularExpression.char '.' * digits)).matches' ↔
      ∃ n : Numeral, n.WellFormed ∧ text = n.text := by
  rw [RegularExpression.matches'_mul, Language.mem_mul]
  constructor
  · rintro ⟨whole, hwhole, rest, hrest, rfl⟩
    obtain ⟨some, digits⟩ := mem_digits.mp hwhole
    rcases mem_optional.mp hrest with rfl | pointed
    · exact ⟨⟨whole, []⟩, ⟨some, digits, List.forall_mem_nil _⟩, List.append_nil _⟩
    · obtain ⟨fraction, hfraction, rfl⟩ := mem_char_mul.mp pointed
      obtain ⟨some', digits'⟩ := mem_digits.mp hfraction
      refine ⟨⟨whole, fraction⟩, ⟨some, digits, digits'⟩, ?_⟩
      rw [Numeral.text, if_neg (by simpa using some')]
  · rintro ⟨⟨whole, fraction⟩, ⟨some, digits, digits'⟩, rfl⟩
    have hwhole := mem_digits.mpr ⟨some, digits⟩
    cases fraction with
    | nil => exact ⟨whole, hwhole, [], mem_optional.mpr (.inl rfl), List.append_nil _⟩
    | cons d fraction =>
        have hfraction := mem_digits.mpr ⟨List.cons_ne_nil d fraction, digits'⟩
        refine ⟨whole, hwhole, '.' :: d :: fraction, ?_, rfl⟩
        exact mem_optional.mpr (.inr (mem_char_mul.mpr ⟨_, hfraction, rfl⟩))

/-- The pattern matches what signed numerals spell. -/
theorem SignedNumeral.mem_pattern {text : List Char} :
    text ∈ numeral.matches' ↔ ∃ m : SignedNumeral, m.magnitude.WellFormed ∧ text = m.text := by
  rw [numeral, RegularExpression.matches'_mul, Language.mem_mul]
  constructor
  · rintro ⟨sign, hsign, magnitude, hmagnitude, rfl⟩
    obtain ⟨n, formed, rfl⟩ := Numeral.mem_pattern.mp hmagnitude
    rcases mem_optional.mp hsign with rfl | minus
    · exact ⟨⟨false, n⟩, formed, rfl⟩
    · cases minus
      exact ⟨⟨true, n⟩, formed, rfl⟩
  · rintro ⟨⟨negative, n⟩, formed, rfl⟩
    have hmagnitude := Numeral.mem_pattern.mpr ⟨n, formed, rfl⟩
    cases negative with
    | true => exact ⟨['-'], mem_optional.mpr (.inr rfl), n.text, hmagnitude, rfl⟩
    | false => exact ⟨[], mem_optional.mpr (.inl rfl), n.text, hmagnitude, rfl⟩

end Fortune.Text
