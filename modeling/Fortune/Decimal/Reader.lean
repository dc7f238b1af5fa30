import Fortune.Text.Numeral
import Fortune.Width

/-!
Reading numbers from text. A float has an optional sign, digits with an optional point, and an
optional exponent, or is one of three words in any case; it is rounded correctly. An integer has an
optional sign and ASCII digits, and must lie between its bounds.
-/
namespace Fortune.Decimal
open Text

def natOfDigits (digits : List Char) : Nat :=
  digits.foldl (fun n c => 10 * n + (c.toNat - 48)) 0

/-- The float nearest to `digits * 10 ^ exponent`. Exponents far out of range are cut short first:
they give infinity or zero whatever they are. -/
def nearestFloat (digits : Nat) (exponent : Int) : Float :=
  if digits == 0 then 0
  else
    let size : Int := (Nat.log2 digits : Int) / 3 + 1
    if 400 < exponent then Float.ofScientific 1 false 400
    else if size + exponent < -400 then 0
    else Float.ofScientific digits (exponent < 0) exponent.natAbs

def numeralFloat (n : Numeral) : Float :=
  nearestFloat (natOfDigits (n.whole ++ n.fraction)) (-(n.fraction.length : Int))

/-- An optional sign; `true` is minus. -/
def splitSign : List Char → Bool × List Char
  | '-' :: rest => (true, rest)
  | '+' :: rest => (false, rest)
  | text => (false, text)

/-- The same letter, small. ASCII only. -/
def lower (c : Char) : Char :=
  if 'A' ≤ c && c ≤ 'Z' then Char.ofNat (c.toNat + 32) else c

/-- A signed exponent, digits only. -/
def exponent? (text : List Char) : Option Int :=
  let (negative, digits) := splitSign text
  if !digits.isEmpty && digits.all isDigit then
    let n : Int := natOfDigits digits
    some (if negative then -n else n)
  else none

/-- Digits with an optional point and exponent. At least one digit stands beside the point. -/
def magnitude? (text : List Char) : Option Float :=
  let whole := text.takeWhile isDigit
  let rest := text.dropWhile isDigit
  let (fraction, rest) :=
    match rest with
    | '.' :: more => (more.takeWhile isDigit, more.dropWhile isDigit)
    | _ => ([], rest)
  if whole.isEmpty && fraction.isEmpty then none
  else
    let digits := natOfDigits (whole ++ fraction)
    let scale : Int := -(fraction.length : Int)
    match rest with
    | [] => some (nearestFloat digits scale)
    | mark :: more =>
      if mark == 'e' || mark == 'E' then
        (exponent? more).map fun e => nearestFloat digits (scale + e)
      else none

/-- Reads a float; the text holds nothing else. -/
def float? (text : List Char) : Option Float :=
  let (negative, rest) := splitSign text
  let value :=
    match rest.map lower with
    | ['i', 'n', 'f'] => some (1 / 0)
    | ['i', 'n', 'f', 'i', 'n', 'i', 't', 'y'] => some (1 / 0)
    | ['n', 'a', 'n'] => some (0 / 0)
    | _ => magnitude? rest
  value.map fun x => if negative then -x else x

def finite? (text : List Char) : Option Float :=
  (float? text).filter Float.isFinite

def intWithin? (lowest highest : Int) (text : List Char) : Option Int :=
  let (negative, digits) := splitSign text
  if !digits.isEmpty && digits.all isDigit then
    let n : Int := natOfDigits digits
    let value := if negative then -n else n
    if lowest ≤ value && value ≤ highest then some value else none
  else none

def int64? (text : List Char) : Option Int := intWithin? least64 greatest64 text

end Fortune.Decimal
