import Fortune.Decimal.Shortest

/-!
How numbers are written. The digits are chosen in `Shortest`; here they are laid out, positionally
or with an exponent, by a `Layout`. `Float` values in answers and templates are `plain`: always
positional and without a needless point.
-/
namespace Fortune.Decimal

structure Layout where
  /-- A leading digit with an exponent in this half-open interval is written positionally;
  without an interval every number is. -/
  positional : Option (Int × Int)
  /-- Whole numbers written positionally end in `.0`. -/
  pointZero : Bool
  tie : Tie
deriving Repr

/-- Answers and templates: the number alone, whatever its size. -/
def Layout.plain : Layout where
  positional := none
  pointZero := false
  tie := .away

/-- Numbers inside a written document, and in complaints about them. -/
def Layout.document : Layout where
  positional := some (-5, 16)
  pointZero := true
  tie := .toEven

def natText (n : Nat) : List Char := Nat.toDigits 10 n

/-- A minus if need be, then the digits. -/
def intText : Int → List Char
  | .ofNat n => natText n
  | .negSucc n => '-' :: natText (n + 1)

def positionalText (pointZero : Bool) (d : Scaled) : List Char :=
  let digits := natText d.digits
  if 0 ≤ d.exponent then
    digits ++ List.replicate d.exponent.toNat '0' ++ (if pointZero then ['.', '0'] else [])
  else
    let places := (-d.exponent).toNat
    if places < digits.length then
      digits.take (digits.length - places) ++ '.' :: digits.drop (digits.length - places)
    else '0' :: '.' :: List.replicate (places - digits.length) '0' ++ digits

/-- One digit, the others after a point, and a signed exponent. -/
def exponentText (leading : Int) (d : Scaled) : List Char :=
  let sign := if leading < 0 then '-' else '+'
  let mantissa :=
    match natText d.digits with
    | first :: second :: rest => first :: '.' :: second :: rest
    | short => short
  mantissa ++ 'e' :: sign :: natText leading.natAbs

/-- The text of a positive decimal. -/
def Layout.scaledText (layout : Layout) (d : Scaled) : List Char :=
  let leading : Int := (natText d.digits).length + d.exponent - 1
  match layout.positional with
  | none => positionalText layout.pointZero d
  | some (from_, below) =>
    if from_ ≤ leading && leading < below then positionalText layout.pointZero d
    else exponentText leading d

def Layout.text (layout : Layout) (x : Float) : List Char :=
  match Binary64.ofFloat x with
  | .nan => ['N', 'a', 'N']
  | .infinite negative => if negative then ['-', 'i', 'n', 'f'] else ['i', 'n', 'f']
  | .finite negative m q =>
    let magnitude :=
      if m == 0 then (if layout.pointZero then ['0', '.', '0'] else ['0'])
      else layout.scaledText ((Positive.ofParts m q).shortest layout.tie)
    if negative then '-' :: magnitude else magnitude

def floatText (x : Float) : List Char := Layout.plain.text x

/-- The quotient rounded to the nearest natural number, ties to even. -/
def roundEven (num den : Nat) : Nat :=
  let q := num / den
  match compare (2 * (num % den)) den with
  | .lt => q
  | .gt => q + 1
  | .eq => if q % 2 == 0 then q else q + 1

/-- A float with one place after the point, rounded from its exact value. -/
def tenthsText (x : Float) : List Char :=
  match Binary64.ofFloat x with
  | .nan => ['N', 'a', 'N']
  | .infinite negative => if negative then ['-', 'i', 'n', 'f'] else ['i', 'n', 'f']
  | .finite negative m q =>
    let tenths := roundEven ((m * 10) <<< q.toNat) (1 <<< (-q).toNat)
    let magnitude := natText (tenths / 10) ++ '.' :: natText (tenths % 10)
    if negative then '-' :: magnitude else magnitude

end Fortune.Decimal
