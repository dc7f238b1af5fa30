import Fortune.Decimal.Binary64
import Mathlib.Data.Nat.Bitwise

/-!
Finite floats. Their exponent is not all ones, so they have an exact value, and each compares equal
to itself.
-/
namespace Fortune.Decimal
open Float.Model

namespace Binary64

/-- The eleven bits above the fraction. -/
theorem toNat_exponent (bits : UInt64) :
    (@UnpackedFloat.unpackExponent Format.binary64 bits.toBitVec).toNat =
      ((bits >>> 52) &&& 0x7FF).toNat := by
  change (bits.toNat >>> 52) % 2 ^ 11 = bits.toNat >>> 52 &&& (2 ^ 11 - 1)
  rw [Nat.and_two_pow_sub_one_eq_mod]

theorem exponent_ne {x : Float} (h : x.isFinite = true) :
    ((x.toBits >>> 52) &&& 0x7FF).toNat ≠ 0x7FF := by
  intro all
  rw [← toNat_exponent] at all
  have ones : @UnpackedFloat.unpackExponent Format.binary64 x.toBits.toBitVec = -1#_ :=
    BitVec.toNat_inj.mp all
  have unbounded : UnpackedFloat.unpack Format.binary64 x.toBits.toBitVec =
      if @UnpackedFloat.unpackMantissa Format.binary64 x.toBits.toBitVec = 0#_ then .infinity _
      else .notANumber := if_pos ones
  change (UnpackedFloat.unpack Format.binary64 x.toBits.toBitVec).isFinite = true at h
  rw [unbounded] at h
  split at h <;> cases h

/-- A finite float has an exact value. -/
theorem exists_toRat? {x : Float} (h : x.isFinite = true) :
    ∃ value, (ofFloat x).toRat? = some value := by
  unfold ofFloat ofBits
  simp only [beq_iff_eq, if_neg (exponent_ne h)]
  split
  · exact ⟨_, rfl⟩
  · exact ⟨_, rfl⟩

end Binary64

theorem compare_self {x : UnpackedFloat} (h : x.isFinite = true) : x.compare x = some .eq := by
  cases x with
  | infinity sign => cases h
  | notANumber => cases h
  | zero sign => rfl
  | finite sign m q positive =>
      have exponent : compare q q = .eq := Std.ReflOrd.compare_self
      have mantissa : compare m m = .eq := Std.ReflOrd.compare_self
      cases sign with
      | positive =>
          change some ((compare q q).then (compare m m)) = _
          rw [exponent, mantissa]
          rfl
      | negative =>
          change some ((compare q q).then (compare m m)).swap = _
          rw [exponent, mantissa]
          rfl

/-- A finite float equals itself. -/
theorem beq_self_of_isFinite {x : Float} (h : x.isFinite = true) : (x == x) = true := by
  change (x.toModel.unpack.compare x.toModel.unpack == some .eq) = true
  rw [compare_self h]
  rfl

end Fortune.Decimal
