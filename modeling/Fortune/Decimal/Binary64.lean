/-!
The exact value of a 64-bit float: a natural number times a power of two, with a sign. Rounding to
integers is done on this value, where nothing is lost.
-/
namespace Fortune.Decimal

inductive Binary64 where
  | nan
  | infinite (negative : Bool)
  /-- The value `m * 2 ^ q`, negated if `negative`. -/
  | finite (negative : Bool) (m : Nat) (q : Int)
deriving Repr, DecidableEq

namespace Binary64

/-- Sign, eleven bits of exponent, fifty-two bits of fraction. -/
def ofBits (bits : UInt64) : Binary64 :=
  let negative := bits >>> 63 == 1
  let exponent := ((bits >>> 52) &&& 0x7FF).toNat
  let fraction := (bits &&& 0xFFFFFFFFFFFFF).toNat
  if exponent == 0x7FF then (if fraction == 0 then .infinite negative else .nan)
  else if exponent == 0 then .finite negative fraction (-1074)
  else .finite negative (1 <<< 52 + fraction) ((exponent : Int) - 1075)

def ofFloat (x : Float) : Binary64 := ofBits x.toBits

/-- The greatest natural number not above `m * 2 ^ q`. -/
def floorNat (m : Nat) (q : Int) : Nat :=
  if 0 ≤ q then m <<< q.toNat else m >>> (-q).toNat

/-- `m * 2 ^ q` is an integer. -/
def isWhole (m : Nat) (q : Int) : Bool :=
  if 0 ≤ q then true else m % (1 <<< (-q).toNat) == 0

def clamp (lowest highest n : Int) : Int := max lowest (min n highest)

/-- Rounds toward zero and clamps. What is not a number counts as zero. -/
def truncate (lowest highest : Int) : Binary64 → Int
  | .nan => clamp lowest highest 0
  | .infinite negative => if negative then lowest else highest
  | .finite negative m q =>
    clamp lowest highest (if negative then -(floorNat m q : Int) else floorNat m q)

/-- Rounds down and clamps. What is not a number counts as zero. -/
def floor (lowest highest : Int) : Binary64 → Int
  | .nan => clamp lowest highest 0
  | .infinite negative => if negative then lowest else highest
  | .finite false m q => clamp lowest highest (floorNat m q)
  | .finite true m q =>
    clamp lowest highest (-((floorNat m q + if isWhole m q then 0 else 1 : Nat) : Int))

/-- The exact value as a fraction; none for what is not finite. -/
def toRat? : Binary64 → Option Rat
  | .finite negative m q =>
    let magnitude : Rat := mkRat (m <<< q.toNat : Nat) (1 <<< (-q).toNat)
    some (if negative then -magnitude else magnitude)
  | _ => none

end Binary64
end Fortune.Decimal
