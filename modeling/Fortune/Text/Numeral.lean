import Fortune.Text.CharClass

/-! Unsigned decimal numerals: digits, and a fraction if a point and digits follow. -/
namespace Fortune.Text

/-- The spelling of an unsigned numeral. No fraction digits mean no point. -/
structure Numeral where
  whole : List Char
  fraction : List Char
deriving Repr, DecidableEq

namespace Numeral

def text (n : Numeral) : List Char :=
  if n.fraction.isEmpty then n.whole else n.whole ++ '.' :: n.fraction

def WellFormed (n : Numeral) : Prop :=
  n.whole ≠ [] ∧ (∀ c ∈ n.whole, isDigit c = true) ∧ ∀ c ∈ n.fraction, isDigit c = true

/-- The longest numeral at the front of a text, and what follows it. -/
def scan (text : List Char) : Option (Numeral × List Char) :=
  let whole := text.takeWhile isDigit
  let rest := text.dropWhile isDigit
  if whole.isEmpty then none
  else
    match rest with
    | '.' :: more =>
      let fraction := more.takeWhile isDigit
      if fraction.isEmpty then some (⟨whole, []⟩, rest)
      else some (⟨whole, fraction⟩, more.dropWhile isDigit)
    | _ => some (⟨whole, []⟩, rest)

end Numeral

structure SignedNumeral where
  negative : Bool
  magnitude : Numeral
deriving Repr, DecidableEq

namespace SignedNumeral

def text (n : SignedNumeral) : List Char :=
  if n.negative then '-' :: n.magnitude.text else n.magnitude.text

def scan : List Char → Option (SignedNumeral × List Char)
  | '-' :: rest => (Numeral.scan rest).map fun (n, more) => (⟨true, n⟩, more)
  | text => (Numeral.scan text).map fun (n, more) => (⟨false, n⟩, more)

end SignedNumeral

end Fortune.Text
