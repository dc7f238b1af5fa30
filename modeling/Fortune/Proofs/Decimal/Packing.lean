import Fortune.Decimal.Binary64
import Mathlib

/-!
How floats are kept in 64 bits. A finite number has fifty-three bits with the highest one set, or
fewer at the lowest exponent; such a number is unpacked as it was packed. What is packed as a number
never comes back as something else than one, although it may come back as infinite.
-/
namespace Fortune.Decimal
open Float.Model UnpackedFloat

theorem toNat_leading (m : BitVec 52) : (1#1 ++ m).toNat = 2 ^ 52 + m.toNat := by
  have one : (1#1).toNat = 1 := rfl
  rw [BitVec.toNat_append, one, Nat.shiftLeft_eq, Nat.one_mul, Nat.or_comm,
    Nat.or_two_pow_eq_add_of_lt m.isLt, Nat.add_comm]

theorem finite_congr {s : Sign} {m n : Nat} {e f : Int} (positive : 0 < m) (mantissa : m = n)
    (exponent : e = f) :
    UnpackedFloat.finite s m e positive = .finite s n f (mantissa ▸ positive) := by
  cases mantissa
  cases exponent
  rfl

theorem unpack_infinite (s : Sign) (m : BitVec 52) :
    UnpackedFloat.unpack Format.binary64 (packComponents Format.binary64 s (-1#_) m) =
      if m = 0#_ then .infinity s else .notANumber := by
  unfold UnpackedFloat.unpack
  dsimp only
  rw [unpackExponent_packComponents, if_pos rfl, unpackMantissa_packComponents,
    unpackSign_packComponents, Sign.ofBitVec_toBitVec]

theorem unpack_subnormal (s : Sign) {m : BitVec 52} (some : m ≠ 0#_) (positive : 0 < m.toNat) :
    UnpackedFloat.unpack Format.binary64 (packComponents Format.binary64 s 0#_ m) =
      .finite s m.toNat (-1074) positive := by
  unfold UnpackedFloat.unpack
  dsimp only
  rw [unpackExponent_packComponents, if_neg (by decide), if_pos rfl,
    dif_neg (by rwa [unpackMantissa_packComponents]), unpackSign_packComponents,
    Sign.ofBitVec_toBitVec]
  apply finite_congr
  · rw [unpackMantissa_packComponents]
  · rfl

theorem unpack_normal (s : Sign) {e : BitVec 11} (m : BitVec 52) (some : e ≠ 0#_)
    (below : e ≠ -1#_) :
    UnpackedFloat.unpack Format.binary64 (packComponents Format.binary64 s e m) =
      .finite s (2 ^ 52 + m.toNat) (e.toNat - 1075) (by omega) := by
  unfold UnpackedFloat.unpack
  dsimp only
  rw [unpackExponent_packComponents, if_neg below, if_neg some, unpackSign_packComponents,
    Sign.ofBitVec_toBitVec]
  apply finite_congr
  · rw [unpackMantissa_packComponents]
    exact toNat_leading m
  · rfl

theorem pack_subnormal (s : Sign) {m : Nat} {e : Int} (positive : 0 < m)
    (high : (e + 1023 + 52).toNat + 1 < 2048) (short : m.log2 < 52) :
    UnpackedFloat.pack Format.binary64 (.finite s m e positive) =
      packComponents Format.binary64 s 0#_ (BitVec.ofNat 52 m) := by
  have within : ¬2048 ≤ (e + 1023 + 52).toNat + 1 := by omega
  have few : ¬m.log2 + 1 = 53 := by omega
  exact (if_neg within).trans (if_neg few)

theorem pack_normal (s : Sign) {m : Nat} {e : Int} (positive : 0 < m)
    (high : (e + 1023 + 52).toNat + 1 < 2048) (leading : m.log2 = 52) :
    UnpackedFloat.pack Format.binary64 (.finite s m e positive) =
      packComponents Format.binary64 s (BitVec.ofNat 11 (e + 1023 + 52).toNat)
        (BitVec.ofNat 52 m) := by
  have within : ¬2048 ≤ (e + 1023 + 52).toNat + 1 := by omega
  have full : m.log2 + 1 = 53 := by rw [leading]
  exact (if_neg within).trans (if_pos full)

theorem isNaN_unpack {bits : BitVec Format.binary64.numBits}
    (below : unpackExponent bits ≠ -1#_) :
    (UnpackedFloat.unpack Format.binary64 bits).isNaN = false := by
  unfold UnpackedFloat.unpack
  dsimp only
  rw [if_neg below]
  by_cases bottom : unpackExponent bits = 0#_
  · rw [if_pos bottom]
    by_cases none : unpackMantissa bits = 0#_
    · rw [dif_pos none]
      rfl
    · rw [dif_neg none]
      rfl
  · rw [if_neg bottom]
    rfl

theorem isNaN_pack (u : UnpackedFloat) : (pack u).unpack.isNaN = u.isNaN := by
  cases u with
  | notANumber => rfl
  | infinity s => cases s <;> rfl
  | zero s => cases s <;> rfl
  | finite s m e positive =>
      change (UnpackedFloat.unpack _ (UnpackedFloat.pack Format.binary64 _)).isNaN = false
      unfold UnpackedFloat.pack
      dsimp only
      split
      · exact congrArg UnpackedFloat.isNaN (unpack_infinite s 0#_)
      · rename_i within
        change ¬2048 ≤ (e + 1023 + 52).toNat + 1 at within
        apply isNaN_unpack
        split
        · rw [unpackExponent_packComponents]
          intro all
          have biased := congrArg BitVec.toNat all
          change (e + 1023 + 52).toNat % 2048 = 2047 at biased
          omega
        · rw [unpackExponent_packComponents]
          decide

theorem isNaN_neg (x : Float) : (-x).isNaN = x.isNaN := by
  change (pack x.toModel.unpack.neg).unpack.isNaN = x.toModel.unpack.isNaN
  rw [isNaN_pack]
  cases x.toModel.unpack <;> rfl

theorem isInf_of_isNaN {x : Float} (number : x.isNaN = false) (unbounded : x.isFinite = false) :
    x.isInf = true := by
  change x.toModel.unpack.isNaN = false at number
  change x.toModel.unpack.isFinite = false at unbounded
  change x.toModel.unpack.isInf = true
  cases u : x.toModel.unpack with
  | notANumber => rw [u] at number; cases number
  | infinity s => rfl
  | zero s => rw [u] at unbounded; cases unbounded
  | finite s m e positive => rw [u] at unbounded; cases unbounded

/-- The mantissas and exponents of finite numbers, but for the highest exponent. -/
structure Canonical (m : Nat) (e : Int) : Prop where
  positive : 0 < m
  short : m < 2 ^ 53
  low : -1074 ≤ e
  leading : e = -1074 ∨ 2 ^ 52 ≤ m

theorem canonical_of_unpack {bits : BitVec Format.binary64.numBits} {s : Sign} {m : Nat} {e : Int}
    {positive : 0 < m}
    (h : UnpackedFloat.unpack Format.binary64 bits = .finite s m e positive) :
    Canonical m e ∧ e ≤ 971 := by
  have width : (@unpackExponent Format.binary64 bits).toNat < 2048 := BitVec.isLt _
  have size : (@unpackMantissa Format.binary64 bits).toNat < 2 ^ 52 := BitVec.isLt _
  unfold UnpackedFloat.unpack at h
  dsimp only at h
  by_cases all : @unpackExponent Format.binary64 bits = -1#_
  · rw [if_pos all] at h
    by_cases none : @unpackMantissa Format.binary64 bits = 0#_
    · rw [if_pos none] at h
      cases h
    · rw [if_neg none] at h
      cases h
  have top : (@unpackExponent Format.binary64 bits).toNat ≠ 2047 := by
    intro h
    exact all (BitVec.toNat_inj.mp h)
  rw [if_neg all] at h
  by_cases low : @unpackExponent Format.binary64 bits = 0#_
  · rw [if_pos low] at h
    by_cases none : @unpackMantissa Format.binary64 bits = 0#_
    · rw [dif_pos none] at h
      cases h
    · rw [dif_neg none] at h
      injection h with _ hm he
      rw [low] at he
      change 0 - (1023 + 52) + 1 = e at he
      exact ⟨⟨positive, by omega, by omega, .inl (by omega)⟩, by omega⟩
  · have bottom : (@unpackExponent Format.binary64 bits).toNat ≠ 0 := by
      intro h
      exact low (BitVec.toNat_inj.mp h)
    rw [if_neg low] at h
    injection h with _ hm he
    have leading := toNat_leading (@unpackMantissa Format.binary64 bits)
    change ((@unpackExponent Format.binary64 bits).toNat : Int) - (1023 + 52) = e at he
    exact ⟨⟨positive, by omega, by omega, .inr (by omega)⟩, by omega⟩

namespace Canonical

variable {m : Nat} {e : Int}

theorem log2 (normal : 2 ^ 52 ≤ m) (h : Canonical m e) : m.log2 = 52 :=
  (Nat.log2_eq_iff (by omega)).mpr ⟨normal, h.short⟩

/-- A number that the format keeps is unpacked as it was packed. -/
theorem unpack_pack (h : Canonical m e) (high : e ≤ 971) (s : Sign) :
    (pack (.finite s m e h.positive)).unpack = .finite s m e h.positive := by
  have low := h.low
  have within : (e + 1023 + 52).toNat + 1 < 2048 := by omega
  change UnpackedFloat.unpack Format.binary64 (UnpackedFloat.pack Format.binary64 _) = _
  by_cases normal : 2 ^ 52 ≤ m
  · have biased : (BitVec.ofNat 11 (e + 1023 + 52).toNat).toNat = (e + 1075).toNat := by
      change (e + 1023 + 52).toNat % 2048 = _
      omega
    have fraction : (BitVec.ofNat 52 m).toNat = m - 2 ^ 52 := by
      have := h.short
      change m % 2 ^ 52 = _
      omega
    have some : BitVec.ofNat 11 (e + 1023 + 52).toNat ≠ 0#_ := by
      intro none
      rw [none] at biased
      change 0 = (e + 1075).toNat at biased
      omega
    have below : BitVec.ofNat 11 (e + 1023 + 52).toNat ≠ -1#_ := by
      intro all
      rw [all] at biased
      change 2047 = (e + 1075).toNat at biased
      omega
    rw [pack_normal s h.positive within (h.log2 normal), unpack_normal s _ some below]
    apply finite_congr
    · omega
    · omega
  · have short : m.log2 < 52 := (Nat.log2_lt (by have := h.positive; omega)).mpr (by omega)
    have fraction : (BitVec.ofNat 52 m).toNat = m := Nat.mod_eq_of_lt (by omega)
    have positive : 0 < (BitVec.ofNat 52 m).toNat := by
      rw [fraction]
      exact h.positive
    have some : BitVec.ofNat 52 m ≠ 0#_ := by
      intro none
      rw [none] at positive
      exact Nat.lt_irrefl 0 positive
    rw [pack_subnormal s h.positive within short, unpack_subnormal s some positive]
    exact finite_congr _ fraction (h.leading.resolve_right normal).symm

end Canonical

theorem unpack_zero : (0 : Float).toModel.unpack = .zero .positive := by rfl

/-- Above zero and finite, a float has both a mantissa and an exponent. -/
theorem exists_canonical {x : Float} (finite : x.isFinite = true) (above : 0 < x) :
    ∃ m e, ∃ h : Canonical m e, e ≤ 971 ∧ x.toModel.unpack = .finite .positive m e h.positive := by
  change x.toModel.unpack.isFinite = true at finite
  have ordered := of_decide_eq_true above
  change ((0 : Float).toModel.unpack.compare x.toModel.unpack == some .lt) = true at ordered
  rw [unpack_zero] at ordered
  cases u : x.toModel.unpack with
  | notANumber => rw [u] at finite; cases finite
  | infinity s => rw [u] at finite; cases finite
  | zero s => rw [u] at ordered; cases ordered
  | finite s m e positive =>
      rw [u] at ordered
      obtain ⟨canonical, high⟩ := canonical_of_unpack u
      cases s with
      | negative => cases ordered
      | positive => exact ⟨m, e, canonical, high, rfl⟩

end Fortune.Decimal
