import Fortune.Decimal.Layout
import Fortune.Decimal.Reader
import Fortune.Document.Basic

/-!
The numbers of documents. Integers that fit 64 bits stay as they are. Anything else is a float made
of a significand of at most 64 bits and a power of ten in floating arithmetic; digits beyond the
significand count only by their place.
-/
namespace Fortune.Number
open Text Decimal

/-- The digits of the integer part that fit 64 bits, and how many do not. -/
def wholeDigits (digits : List Char) : Nat × Nat :=
  digits.foldl (fun (significand, dropped) c =>
    let next := significand * 10 + (c.toNat - 48)
    if dropped == 0 && next < words64 then (next, 0) else (significand, dropped + 1)) (0, 0)

/-- Appends fraction digits while they fit 64 bits, counting them. -/
def fractionDigits (significand : Nat) : List Char → Nat × Nat
  | [] => (significand, 0)
  | c :: rest =>
    let next := significand * 10 + (c.toNat - 48)
    if next < words64 then
      let (all, places) := fractionDigits next rest
      (all, places + 1)
    else (significand, 0)

/-- The float `significand * 10 ^ exponent`, each step rounded; none when it grows beyond all
bounds. Few rounds are needed: two divisions bring any significand to zero. -/
def scale : Nat → Float → Int → Option Float
  | 0, f, _ => some f
  | rounds + 1, f, e =>
    if e.natAbs ≤ 308 then
      let power := Float.ofScientific 1 false e.natAbs
      if 0 ≤ e then
        let scaled := f * power
        if scaled.isInf then none else some scaled
      else some (f / power)
    else if f == 0 then some f
    else if 0 ≤ e then none
    else scale rounds (f / Float.ofScientific 1 false 308) (e + 308)

structure Exponent where
  negative : Bool
  digits : List Char

def clamp32 (n : Int) : Int := Binary64.clamp least32 greatest32 n

/-- The magnitude of a float from its digits. An exponent beyond 32 bits gives zero, or nothing. -/
def magnitude (significand : Nat) (exponent : Int) (written : Option Exponent) : Option Float :=
  let start := Float.ofNat significand
  match written with
  | none => scale 8 start exponent
  | some w =>
    let n : Int := natOfDigits w.digits
    if greatest32 < n then
      if significand != 0 && !w.negative then none else some 0
    else scale 8 start (clamp32 (if w.negative then exponent - n else exponent + n))

def ofParts (negative : Bool) (n : Numeral) (written : Option Exponent) : Option Number :=
  let (significand, dropped) := wholeDigits n.whole
  if n.fraction.isEmpty && written.isNone && dropped == 0 &&
      (!negative || (0 < significand && (significand : Int) ≤ -least64)) then
    some (.integer (if negative then -significand else significand))
  else
    let (all, places) := fractionDigits significand n.fraction
    (magnitude all (dropped - places) written).map fun x => .real (if negative then -x else x)

/-- An exponent at the front of a text, and what follows it. -/
def exponent? : List Char → Option (Exponent × List Char)
  | mark :: rest =>
    if mark == 'e' || mark == 'E' then
      let (negative, rest) := splitSign rest
      let digits := rest.takeWhile isDigit
      if digits.isEmpty then none else some (⟨negative, digits⟩, rest.dropWhile isDigit)
    else none
  | [] => none

/-- The whole part does not begin with zero if it has several digits. -/
def scan (text : List Char) : Option (Number × List Char) := do
  let (signed, rest) ← SignedNumeral.scan text
  let n := signed.magnitude
  if n.whole.head? == some '0' && n.whole.length != 1 then none
  else
    match exponent? rest with
    | some (written, rest) => return (← ofParts signed.negative n (some written), rest)
    | none => return (← ofParts signed.negative n none, rest)

def toFloat : Number → Float
  | .integer n => Float.ofInt n
  | .real x => x

def text : Number → List Char
  | .integer n => intText n
  | .real x => Layout.document.text x

end Fortune.Number
