import Fortune.Bisection

/-!
Luck-biased selection. The weight of an entry is its chance times a power of the bias curve, whose
exponent is the rank of the entry's luck, or the reversed rank under a negative bias. Ranks count
from the lowest luck, where zero always counts as present. The running totals of the weights form a
ladder, and a draw picks the rung it falls on.

The number type is a parameter: selection runs on floats, and the same ladder can be read in exact
fractions.
-/
namespace Fortune

/-- The operations that a ladder needs of its numbers. -/
class Scalar (α : Type) extends Add α, Sub α, Mul α, Div α, LT α, LE α where
  ofNat : Nat → α
  power : α → Nat → α
  decidableLT : DecidableLT α
  decidableLE : DecidableLE α

instance Scalar.instDecidableLT {α : Type} [Scalar α] : DecidableLT α := Scalar.decidableLT

instance Scalar.instDecidableLE {α : Type} [Scalar α] : DecidableLE α := Scalar.decidableLE

instance : Scalar Float where
  ofNat := Float.ofNat
  power x n := Float.pow x (Float.ofNat n)
  decidableLT := inferInstance
  decidableLE := inferInstance

instance : Scalar Rat where
  ofNat n := (n : Rat)
  power := Rat.pow
  decidableLT := inferInstance
  decidableLE := inferInstance

structure Entry (α : Type) where
  luck : Int
  chance : α
deriving Repr

/-- The running totals of the weights, with zero in front. -/
structure Ladder (α : Type) where
  totals : List α
deriving Repr

namespace Ladder
open Scalar (ofNat power)

variable {α : Type}

def lowest (entries : List (Entry α)) : Int := entries.foldl (fun n e => min n e.luck) 0

def highest (entries : List (Entry α)) : Int := entries.foldl (fun n e => max n e.luck) 0

/-- The place of a luck, counted from one at the lowest. -/
def rank (lowest luck : Int) : Nat := (luck - lowest).toNat + 1

/-- The rank under a bias: from the lowest luck, or from the highest under a negative bias. -/
def exponent (bias lowest highest luck : Int) : Nat :=
  if 0 ≤ bias then rank lowest luck
  else rank lowest highest + 1 - rank lowest luck

variable [Scalar α]

/-- How much one point of bias takes off the denominator of the curve: 0.77 of a hundredth. -/
def luckStep : α := ofNat 77 / ofNat 100 / ofNat 100

/-- The curve's base. A bias of zero gives one; it grows with the bias of either sign. -/
def base (bias : Int) : α := ofNat 1 / (ofNat 1 - ofNat bias.natAbs * luckStep)

/-- A chance that is not positive counts as one. -/
def positiveChance (chance : α) : α := if ofNat 0 < chance then chance else ofNat 1

def entryWeight (bias lowest highest : Int) (e : Entry α) : α :=
  positiveChance e.chance * power (base bias) (exponent bias lowest highest e.luck) * ofNat 100

/-- A number and its sums with the weights that follow. -/
def runningTotals : α → List α → List α
  | total, [] => [total]
  | total, w :: rest => total :: runningTotals (total + w) rest

def ofEntries (entries : List (Entry α)) (bias : Int) : Ladder α :=
  let low := lowest entries
  let high := highest entries
  ⟨runningTotals (ofNat 0) (entries.map (entryWeight bias low high))⟩

def size (l : Ladder α) : Nat := l.totals.length - 1

def total (l : Ladder α) : α := l.totals.getLast?.getD (ofNat 0)

/-- The differences of neighbouring totals. -/
def weights (l : Ladder α) : List α :=
  List.zipWith (fun low high => high - low) l.totals l.totals.tail

def weight? (l : Ladder α) (i : Nat) : Option α := l.weights[i]?

/-- The fraction of the total that each rung holds; nothing unless the total is positive. -/
def shares (l : Ladder α) : List α :=
  l.weights.map fun w => if ofNat 0 < l.total then w / l.total else ofNat 0

/-- The rung on which an absolute weight falls: past every total that it reaches, but never past the
last rung. -/
def indexFor (l : Ladder α) (r : α) : Option Nat :=
  if l.size = 0 then none
  else some (min (bisect (fun c => decide (c ≤ r)) l.totals.tail) (l.size - 1))

/-- The rung for a draw from the unit interval. -/
def pick (l : Ladder α) (draw : α) : Option Nat := l.indexFor (draw * l.total)

end Ladder
end Fortune
