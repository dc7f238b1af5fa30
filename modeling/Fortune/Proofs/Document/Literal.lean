import Fortune.Document.Scalar
import Fortune.Proofs.Decimal.Numeral
import Fortune.Proofs.Text.Blank
import Mathlib.Data.List.TakeDrop

/-!
Literals. The texts that stand for numbers are the signed numerals: an optional minus, digits, and
perhaps a point and more digits. No other sign, exponent, blank or word is taken for a number.
-/
namespace Fortune.Text

theorem SignedNumeral.solid {m : SignedNumeral} (formed : m.magnitude.WellFormed) :
    ∀ c ∈ m.text, isBlank c = false := by
  obtain ⟨negative, n⟩ := m
  have magnitude : ∀ c ∈ n.text, isBlank c = false := by
    intro c inside
    rcases formed.digit_or_point c inside with digit | rfl
    · exact digit_solid digit
    · decide
  cases negative with
  | true =>
      intro c inside
      rcases List.mem_cons.mp inside with rfl | later
      · decide
      · exact magnitude c later
  | false => exact magnitude

end Fortune.Text

namespace Fortune.Decimal
open Text

def integerOf (m : SignedNumeral) : Int :=
  let n : Int := natOfDigits m.magnitude.whole
  if m.negative then -n else n

def floatOf (m : SignedNumeral) : Float :=
  let x := numeralFloat m.magnitude
  if m.negative then -x else x

theorem splitSign_numeral {n : Numeral} (formed : n.WellFormed) :
    splitSign n.text = (false, n.text) := by
  obtain ⟨c, rest, spelled, digit⟩ := formed.text_cons
  rw [spelled]
  exact splitSign_digit digit rest

theorem splitSign_signed {m : SignedNumeral} (formed : m.magnitude.WellFormed) :
    splitSign m.text = (m.negative, m.magnitude.text) := by
  obtain ⟨negative, n⟩ := m
  cases negative with
  | true => rfl
  | false => exact splitSign_numeral formed

/-- A minus in front of a text without a sign turns its value around. -/
theorem float?_minus {text : List Char} (unsigned : splitSign text = (false, text)) :
    float? ('-' :: text) = (float? text).map fun x => -x := by
  have minus : splitSign ('-' :: text) = (true, text) := rfl
  simp only [float?, unsigned, minus, Option.map_map, if_true, Bool.false_eq_true, if_false]
  rfl

theorem float?_signed {m : SignedNumeral} (formed : m.magnitude.WellFormed) :
    float? m.text = some (floatOf m) := by
  obtain ⟨negative, n⟩ := m
  cases negative with
  | true =>
      change float? ('-' :: n.text) = some (-numeralFloat n)
      rw [float?_minus (splitSign_numeral formed), float?_numeral formed, Option.map_some]
  | false => exact float?_numeral formed

theorem all_digits_iff {n : Numeral} (formed : n.WellFormed) :
    n.text.all isDigit = true ↔ n.fraction = [] := by
  obtain ⟨whole, fraction⟩ := n
  obtain ⟨_, digits, _⟩ := formed
  cases fraction with
  | nil => simpa [Numeral.text] using digits
  | cons d fraction => simp [Numeral.text, isDigit_point]

theorem int64?_signed {m : SignedNumeral} (formed : m.magnitude.WellFormed) :
    int64? m.text =
      if m.magnitude.fraction = [] ∧ least64 ≤ integerOf m ∧ integerOf m ≤ greatest64 then
        some (integerOf m)
      else none := by
  obtain ⟨c, rest, spelled, _⟩ := formed.text_cons
  have some : m.magnitude.text.isEmpty = false := by rw [spelled]; rfl
  by_cases whole : m.magnitude.fraction = []
  · have digits := (all_digits_iff formed).mpr whole
    have same : m.magnitude.text = m.magnitude.whole := by rw [Numeral.text, whole]; rfl
    simp only [int64?, intWithin?, splitSign_signed formed, some, digits, Bool.not_false,
      Bool.and_self, if_true, whole, true_and, Bool.and_eq_true, decide_eq_true_eq]
    rw [same]
    rfl
  · -- The point of the fraction is no digit, so no integer is read.
    have point := mt (all_digits_iff formed).mp whole
    simp only [int64?, intWithin?, splitSign_signed formed, point, whole, Bool.and_false,
      Bool.false_eq_true, if_false, false_and]

end Fortune.Decimal

namespace Fortune.Document
open Text Decimal

/-- The number of a signed numeral: an integer if it has no fraction and fits 64 bits, else a float,
unless that is infinite. -/
def denoted? (m : SignedNumeral) : Option Number :=
  if m.magnitude.fraction = [] ∧ least64 ≤ integerOf m ∧ integerOf m ≤ greatest64 then
    some (.integer (integerOf m))
  else if (floatOf m).isFinite then some (.real (floatOf m))
  else none

/-- Digits, and perhaps a point and more digits. -/
def isPlain (text : List Char) : Bool :=
  match text.span (· != '.') with
  | (whole, '.' :: fraction) => allDigits whole && allDigits fraction
  | (whole, _) => allDigits whole

/-- A text without the minus in front of it. -/
def unsigned (text : List Char) : List Char := if text.head? == some '-' then text.tail else text

/-- The reading of literals with another test on their floats. -/
def literalBy? (accepts : Float → Bool) (text : List Char) : Option Number :=
  if isPlain (unsigned text) then
    match int64? text with
    | some n => some (.integer n)
    | none => ((float? text).filter accepts).map .real
  else none

theorem literal?_eq (text : List Char) :
    literal? text = literalBy? Float.isFinite text := rfl

theorem allDigits_iff {text : List Char} :
    allDigits text = true ↔ text ≠ [] ∧ ∀ c ∈ text, isDigit c = true := by
  simp [allDigits]

theorem digit_ne_point {c : Char} (digit : isDigit c = true) : (c != '.') = true := by
  rw [bne_iff_ne]
  rintro rfl
  rw [isDigit_point] at digit
  cases digit

theorem span_point {whole rest : List Char} (digits : ∀ c ∈ whole, isDigit c = true)
    (stop : rest.takeWhile (· != '.') = []) :
    (whole ++ rest).span (· != '.') = (whole, rest) := by
  obtain ⟨run, after⟩ := span_run (fun c hc => digit_ne_point (digits c hc)) stop
  rw [List.span_eq_takeWhile_dropWhile, run, after]

theorem isPlain_numeral {n : Numeral} (formed : n.WellFormed) : isPlain n.text = true := by
  obtain ⟨whole, fraction⟩ := n
  obtain ⟨some, digits, digits'⟩ := formed
  have plain : allDigits whole = true := allDigits_iff.mpr ⟨some, digits⟩
  cases fraction with
  | nil =>
      have split : (whole ++ []).span (· != '.') = (whole, []) := span_point digits rfl
      rw [List.append_nil] at split
      change isPlain whole = true
      rw [isPlain, split]
      exact plain
  | cons d fraction =>
      have plain' : allDigits (d :: fraction) = true :=
        allDigits_iff.mpr ⟨List.cons_ne_nil d fraction, digits'⟩
      change isPlain (whole ++ '.' :: d :: fraction) = true
      rw [isPlain, span_point digits (List.takeWhile_cons_of_neg (by decide))]
      exact Bool.and_eq_true_iff.mpr ⟨plain, plain'⟩

theorem numeral_of_isPlain {text : List Char} (h : isPlain text = true) :
    ∃ n : Numeral, n.WellFormed ∧ text = n.text := by
  have whole := List.takeWhile_append_dropWhile (p := (· != '.')) (l := text)
  have stop := takeWhile_dropWhile (· != '.') text
  rw [isPlain, List.span_eq_takeWhile_dropWhile] at h
  split at h
  · rename_i digits fraction same
    obtain ⟨rfl, point⟩ := Prod.mk.inj same
    obtain ⟨plain, plain'⟩ := Bool.and_eq_true_iff.mp h
    obtain ⟨some, digits⟩ := allDigits_iff.mp plain
    obtain ⟨some', digits'⟩ := allDigits_iff.mp plain'
    refine ⟨⟨_, fraction⟩, ⟨some, digits, digits'⟩, ?_⟩
    rw [Numeral.text, if_neg (by simpa using some'), ← point, whole]
  · rename_i digits rest pointless same
    obtain ⟨rfl, rfl⟩ := Prod.mk.inj same
    obtain ⟨some, digits⟩ := allDigits_iff.mp h
    -- What follows the digits could only begin with a point, and it does not.
    have done : text.dropWhile (· != '.') = [] := by
      cases after : text.dropWhile (· != '.') with
      | nil => rfl
      | cons c more =>
          rw [after] at stop
          by_cases point : c = '.'
          · exact (pointless more (by rw [after, point])).elim
          · rw [List.takeWhile_cons_of_pos (p := (· != '.')) (bne_iff_ne.mpr point)] at stop
            cases stop
    rw [done, List.append_nil] at whole
    exact ⟨⟨_, []⟩, ⟨some, digits, fun c hc => absurd hc List.not_mem_nil⟩, whole.symm⟩

/-- What is left of a signed numeral without its sign. -/
theorem unsigned_signed {m : SignedNumeral} (formed : m.magnitude.WellFormed) :
    unsigned m.text = m.magnitude.text := by
  obtain ⟨negative, n⟩ := m
  cases negative with
  | true => rfl
  | false =>
      obtain ⟨c, rest, spelled, digit⟩ := formed.text_cons
      have plain : ¬(some c == some '-') = true := by
        rw [beq_iff_eq, Option.some_inj]
        exact (digit_plain digit).1
      change unsigned n.text = n.text
      rw [unsigned, spelled, List.head?_cons, if_neg plain]

theorem signed_of_unsigned {text : List Char} {n : Numeral} (h : unsigned text = n.text) :
    ∃ negative, text = SignedNumeral.text ⟨negative, n⟩ := by
  unfold unsigned at h
  split at h
  · rename_i minus
    cases text with
    | nil => cases minus
    | cons c rest =>
        obtain rfl : c = '-' := by simpa using minus
        obtain rfl : rest = n.text := h
        exact ⟨true, rfl⟩
  · exact ⟨false, h⟩

theorem signed_of_literalBy? {accepts : Float → Bool} {text : List Char} {n : Number}
    (h : literalBy? accepts text = some n) :
    ∃ m : SignedNumeral, m.magnitude.WellFormed ∧ text = m.text := by
  rw [literalBy?] at h
  split at h
  · rename_i plain
    obtain ⟨n, formed, spelled⟩ := numeral_of_isPlain plain
    obtain ⟨negative, rfl⟩ := signed_of_unsigned spelled
    exact ⟨⟨negative, n⟩, formed, rfl⟩
  · cases h

theorem literalBy?_signed (accepts : Float → Bool) {m : SignedNumeral}
    (formed : m.magnitude.WellFormed) :
    literalBy? accepts m.text =
      if m.magnitude.fraction = [] ∧ least64 ≤ integerOf m ∧ integerOf m ≤ greatest64 then
        some (.integer (integerOf m))
      else if accepts (floatOf m) then some (.real (floatOf m))
      else none := by
  rw [literalBy?, unsigned_signed formed, if_pos (isPlain_numeral formed), int64?_signed formed,
    float?_signed formed]
  by_cases fits : m.magnitude.fraction = [] ∧ least64 ≤ integerOf m ∧ integerOf m ≤ greatest64
  · rw [if_pos fits, if_pos fits]
  · rw [if_neg fits, if_neg fits, Option.filter_some]
    by_cases accepted : accepts (floatOf m) = true
    · rw [if_pos accepted, if_pos accepted, Option.map_some]
    · rw [if_neg accepted, if_neg accepted, Option.map_none]

theorem literal?_signed {m : SignedNumeral} (formed : m.magnitude.WellFormed) :
    literal? m.text = denoted? m := by
  rw [literal?_eq, literalBy?_signed _ formed]
  rfl

theorem signed_of_literal? {text : List Char} {n : Number} (h : literal? text = some n) :
    ∃ m : SignedNumeral, m.magnitude.WellFormed ∧ text = m.text := by
  rw [literal?_eq] at h
  exact signed_of_literalBy? h

/-- A text stands for a number exactly if it spells a numeral that denotes it. -/
theorem literal?_iff {text : List Char} {n : Number} :
    literal? text = some n ↔
      ∃ m : SignedNumeral, m.magnitude.WellFormed ∧ text = m.text ∧ denoted? m = some n := by
  constructor
  · intro h
    obtain ⟨m, formed, rfl⟩ := signed_of_literal? h
    exact ⟨m, formed, rfl, literal?_signed formed ▸ h⟩
  · rintro ⟨m, formed, rfl, denoted⟩
    rw [literal?_signed formed, denoted]

end Fortune.Document
