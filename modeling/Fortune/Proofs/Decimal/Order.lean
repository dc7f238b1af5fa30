import Fortune.Decimal.Binary64
import Mathlib.Data.Option.NAry
import Mathlib.Order.Defs.Unbundled

/-!
The order of floats. A float that is a number has a place on the line: three integers, compared from
the left, for its class, its exponent and its mantissa, the last two negated below zero. Floats
compare as their places do, so that their order is transitive; what is not a number has no place,
and the order never holds of it.
-/
namespace Fortune.Decimal
open Float.Model

abbrev Place : Type := Int × Int × Int

namespace Place

def order : Place → Place → Ordering :=
  compareLex (compareOn (·.1)) (compareLex (compareOn (·.2.1)) (compareOn (·.2.2)))

instance : Std.TransCmp order :=
  inferInstanceAs (Std.TransCmp (compareLex _ (compareLex _ _)))

def of : UnpackedFloat → Option Place
  | .notANumber => none
  | .infinity .negative => some (-2, 0, 0)
  | .finite .negative m e _ => some (-1, -e, -m)
  | .zero _ => some (0, 0, 0)
  | .finite .positive m e _ => some (1, e, m)
  | .infinity .positive => some (2, 0, 0)

end Place

theorem compare_neg (j k : Int) : compare (-j) (-k) = (compare j k).swap := by
  rw [Int.compare_swap, Int.compare_eq_ite_lt, Int.compare_eq_ite_lt]
  simp only [Int.neg_lt_neg_iff]

theorem compare_natCast (j k : Nat) : compare (j : Int) k = compare j k := by
  rw [Int.compare_eq_ite_lt, Nat.compare_eq_ite_lt]
  simp only [Int.ofNat_lt]

/-- Two floats compare as their places do, and not at all where one has none. -/
theorem compare_eq_order (a b : UnpackedFloat) :
    a.compare b = Option.map₂ Place.order (Place.of a) (Place.of b) := by
  cases a with
  | notANumber => rfl
  | infinity s => cases s <;> rcases b with ⟨_ | _⟩ | _ | _ | ⟨_ | _, _, _⟩ <;> rfl
  | zero s => rcases b with ⟨_ | _⟩ | _ | _ | ⟨_ | _, _, _⟩ <;> rfl
  | finite s m e positive =>
      rcases b with t | _ | t | ⟨t, n, f, _⟩
      · cases s <;> cases t <;> rfl
      · cases s <;> rfl
      · cases s <;> rfl
      · cases s <;> cases t
        · change some ((compare e f).then (compare m n)).swap =
            some ((compare (-e) (-f)).then (compare (-(m : Int)) (-n)))
          rw [Ordering.swap_then, compare_neg, compare_neg, compare_natCast]
        · rfl
        · rfl
        · change some ((compare e f).then (compare m n)) =
            some ((compare e f).then (compare (m : Int) n))
          rw [compare_natCast]

theorem le_iff_place {a b : Float} :
    a ≤ b ↔ ∃ j ∈ Place.of a.toModel.unpack, ∃ k ∈ Place.of b.toModel.unpack,
      (Place.order j k).isLE = true := by
  change decide ((a.toModel.unpack.compare b.toModel.unpack).any (·.isLE) = true) = true ↔ _
  rw [decide_eq_true_iff, compare_eq_order, Option.any_eq_true]
  grind [Option.map₂_eq_some_iff]

instance isTrans_le : IsTrans Float (· ≤ ·) := by
  constructor
  intro a b c hab hbc
  rw [le_iff_place] at hab hbc ⊢
  obtain ⟨j, hj, k, hk, low⟩ := hab
  obtain ⟨k', hk', l, hl, high⟩ := hbc
  cases Option.mem_unique hk hk'
  exact ⟨j, hj, l, hl, Std.TransCmp.isLE_trans low high⟩

/-- Of equal floats each is at most the other. -/
theorem le_of_beq {a b : Float} (h : (a == b) = true) : b ≤ a := by
  change (a.toModel.unpack.compare b.toModel.unpack == some .eq) = true at h
  rw [beq_iff_eq, compare_eq_order, Option.map₂_eq_some_iff] at h
  obtain ⟨j, k, hj, hk, same⟩ := h
  rw [le_iff_place]
  refine ⟨k, hk, j, hj, ?_⟩
  rw [Std.OrientedCmp.eq_symm same]
  rfl

end Fortune.Decimal
