import Fortune.Decimal.Binary64

/-!
The fewest decimal digits that read back to a given 64-bit float. A decimal reads back when it lies
between the midpoints to the two neighbouring floats, ends included exactly when the mantissa is
even. The search goes through grids of one to seventeen digits and takes the first that has such a
decimal next to the value.
-/
namespace Fortune.Decimal

/-- The value `digits * 10 ^ exponent`. -/
structure Scaled where
  digits : Nat
  exponent : Int
deriving Repr, DecidableEq

inductive Tie where
  | away
  | toEven
deriving Repr, DecidableEq

/-- A positive finite float: `m * 2 ^ q`, and whether the gap below it is half the gap above. -/
structure Positive where
  m : Nat
  q : Int
  narrowBelow : Bool
deriving Repr

/-- The gap below is narrow at a power of two, except at the very bottom. -/
def Positive.ofParts (m : Nat) (q : Int) : Positive := ⟨m, q, m == 1 <<< 52 && -1074 < q⟩

def compareScaled (a : Nat) (i : Int) (n : Nat) (j : Int) : Ordering :=
  compare ((a * Nat.pow 10 i.toNat) <<< (-j).toNat) ((n <<< j.toNat) * Nat.pow 10 (-i).toNat)

/-- The decimal lies among the reals that round to the float. -/
def Positive.readsBack (x : Positive) (d : Scaled) : Bool :=
  let low := if x.narrowBelow then 4 * x.m - 1 else 4 * x.m - 2
  let high := 4 * x.m + 2
  let closed := x.m % 2 == 0
  let below := compareScaled d.digits d.exponent low (x.q - 2)
  let above := compareScaled d.digits d.exponent high (x.q - 2)
  (below == .gt || (closed && below == .eq)) && (above == .lt || (closed && above == .eq))

/-- The least `k` with `m * 2 ^ q < 10 ^ k`, near an estimate from the binary logarithm. -/
def Positive.scale (x : Positive) : Int :=
  let estimate : Int := ((x.m.log2 : Int) + x.q) * 30103 / 100000
  let candidates := [estimate - 1, estimate, estimate + 1, estimate + 2]
  (candidates.find? fun k => compareScaled 1 k x.m x.q == .gt).getD (estimate + 3)

/-- The greatest point of the grid `10 ^ g` that is not above the value. -/
def Positive.onGrid (x : Positive) (g : Int) : Nat :=
  (x.m <<< x.q.toNat * Nat.pow 10 (-g).toNat) / (Nat.pow 10 g.toNat <<< (-x.q).toNat)

/-- The nearer of the two grid points beside the value that read back, if any does. -/
def Positive.nearest? (x : Positive) (tie : Tie) (g : Int) : Option Scaled :=
  let low : Scaled := ⟨x.onGrid g, g⟩
  let high : Scaled := ⟨x.onGrid g + 1, g⟩
  match x.readsBack low, x.readsBack high with
  | true, false => some low
  | false, true => some high
  | false, false => none
  | true, true =>
    match compareScaled (low.digits + high.digits) g (2 * x.m) x.q, tie with
    | .gt, _ => some low
    | .lt, _ => some high
    | .eq, .away => some high
    | .eq, .toEven => some (if low.digits % 2 == 0 then low else high)

/-- All digits of the exact value, for the case that no grid has a hit. -/
def Positive.exact (x : Positive) : Scaled :=
  if 0 ≤ x.q then ⟨x.m <<< x.q.toNat, 0⟩ else ⟨x.m * Nat.pow 5 (-x.q).toNat, x.q⟩

/-- Moves trailing zeros of the digits into the exponent, at most `fuel` of them. -/
def Scaled.stripZeros : Nat → Scaled → Scaled
  | 0, d => d
  | fuel + 1, d =>
    if d.digits % 10 == 0 && d.digits != 0 then stripZeros fuel ⟨d.digits / 10, d.exponent + 1⟩
    else d

/-- The fewest digits that read back, the nearest of those to the value. -/
def Positive.shortest (x : Positive) (tie : Tie) : Scaled :=
  let k := x.scale
  let found := (List.range 17).findSome? fun (n : Nat) => x.nearest? tie (k - 1 - n)
  let chosen := found.getD x.exact
  chosen.stripZeros (chosen.digits.log2 + 1)

end Fortune.Decimal
