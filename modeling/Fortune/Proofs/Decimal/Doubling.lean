import Fortune.Proofs.Decimal.Packing

/-!
Twice a number. Its mantissa gets one bit more, or its exponent grows by one where the mantissa is
full; so nothing is rounded, and the distance of a number from its opposite is its double. Whether
the one overflows is told by the other.
-/
namespace Fortune.Decimal
open Float.Model UnpackedFloat

/-- Zeros shifted out leave no trace. -/
theorem shiftRight_exact (m k : Nat) :
    ExtendedMantissa.ofMantissaAndAccuracy (m * 2 ^ k) .exact >>> k =
      ExtendedMantissa.ofMantissaAndAccuracy m .exact := by
  induction k generalizing m with
  | zero => rw [Nat.pow_zero, Nat.mul_one]; rfl
  | succ k ih =>
      have split : m * 2 ^ (k + 1) = m * 2 * 2 ^ k := by ring
      change ExtendedMantissa.shiftRightOne (ExtendedMantissa.ofMantissaAndAccuracy _ _ >>> k) = _
      rw [split, ih]
      simp [ExtendedMantissa.shiftRightOne, ExtendedMantissa.ofMantissaAndAccuracy]

variable {m : Nat} {e : Int}

theorem log2_mul_two_pow (positive : 0 < m) (k : Nat) : (m * 2 ^ k).log2 = m.log2 + k := by
  induction k with
  | zero => rw [Nat.pow_zero, Nat.mul_one, Nat.add_zero]
  | succ k ih =>
      have some : m * 2 ^ k ≠ 0 := Nat.pos_iff_ne_zero.mp (Nat.mul_pos positive (Nat.two_pow_pos k))
      rw [Nat.pow_succ, ← Nat.mul_assoc, Nat.mul_comm, Nat.log2_two_mul some, ih, Nat.add_assoc]

theorem totalExponent_scaled (positive : 0 < m) (e : Int) (k : Nat) :
    totalExponent (m * 2 ^ k) (e - k) = totalExponent m e := by
  unfold totalExponent
  rw [log2_mul_two_pow positive]
  omega

namespace Canonical

/-- The format keeps such an exponent. -/
theorem target (h : Canonical m e) :
    Format.binary64.targetExponent (totalExponent m e) = e := by
  have low := h.low
  change max ((m.log2 + 1 + e : Int) - 53) (-1074) = e
  rcases h.leading with bottom | normal
  · have short : m.log2 < 53 :=
      (Nat.log2_lt (Nat.pos_iff_ne_zero.mp h.positive)).mpr h.short
    omega
  · rw [h.log2 normal]
    omega

theorem shifted (h : Canonical m e) (k : Nat) :
    shiftToTargetExponent Format.binary64 (m * 2 ^ k) (e - k) .exact =
      (ExtendedMantissa.ofMantissaAndAccuracy m .exact, e) := by
  have distance : (e - (e - k)).toNat = k := by omega
  unfold shiftToTargetExponent shiftToExponent
  rw [totalExponent_scaled h.positive, h.target]
  dsimp only
  rw [distance, shiftRight_exact, Int.sub_add_cancel]

/-- What the format can keep is not rounded. -/
theorem rounded (h : Canonical m e) (s : Sign) (k : Nat) :
    roundWithAccuracy Format.binary64 s (m * 2 ^ k) (e - k) .exact =
      .finite s m e h.positive := by
  have again : shiftToTargetExponent Format.binary64 m e .exact =
      (ExtendedMantissa.ofMantissaAndAccuracy m .exact, e) := by
    simpa using h.shifted 0
  have kept : (ExtendedMantissa.ofMantissaAndAccuracy m .exact).roundedMantissa = m := rfl
  simp only [roundWithAccuracy, h.shifted k, kept, again]
  exact dif_neg (Nat.pos_iff_ne_zero.mp h.positive)

theorem normalized (h : Canonical m e) (k : Nat) (sign : Sign) :
    UnpackedFloat.normalize Format.binary64 (m * 2 ^ k : Nat) (e - k) sign =
      .finite .positive m e h.positive := by
  have above : compare ((m * 2 ^ k : Nat) : Int) 0 = .gt := by
    have := Nat.mul_pos h.positive (Nat.two_pow_pos k)
    apply Int.compare_eq_gt.mpr
    omega
  have distance : (e - k - e).toNat = 0 := by omega
  unfold UnpackedFloat.normalize
  rw [above]
  change UnpackedFloat.round Format.binary64 .positive (m * 2 ^ k) (e - k) = _
  unfold UnpackedFloat.round decreaseExponent
  dsimp only
  rw [totalExponent_scaled h.positive, h.target, distance, Nat.shiftLeft_zero]
  change roundWithAccuracy Format.binary64 .positive (m * 2 ^ k) (e - k - 0) .exact = _
  rw [Int.sub_zero]
  exact h.rounded .positive k

/-- One bit more, or an exponent greater by one. -/
theorem doubled (h : Canonical m e) : ∃ n f, Canonical n f ∧
    ∃ j k : Nat, 2 * m = n * 2 ^ j ∧ e = f - j ∧ 2 ^ 52 * m = n * 2 ^ k ∧ e - 51 = f - k := by
  have positive := h.positive
  have short := h.short
  have low := h.low
  by_cases normal : 2 ^ 52 ≤ m
  · exact ⟨m, e + 1, ⟨positive, short, by omega, .inr normal⟩, 1, 52, by omega, by omega,
      by omega, by omega⟩
  · have bottom := h.leading.resolve_right normal
    exact ⟨2 * m, e, ⟨by omega, by omega, low, .inl bottom⟩, 0, 51, by omega, by omega,
      by omega, by omega⟩

end Canonical

theorem unpack_two : (2 : Float).toModel.unpack = .finite .positive (2 ^ 52) (-51) (by decide) := by
  rfl

theorem unpack_neg {x : Float} (h : Canonical m e) (high : e ≤ 971)
    (u : x.toModel.unpack = .finite .positive m e h.positive) :
    (-x).toModel.unpack = .finite .negative m e h.positive := by
  change (pack x.toModel.unpack.neg).unpack = _
  rw [u]
  exact h.unpack_pack high .negative

section Opposite

variable {x : Float} (finite : x.isFinite = true) (above : 0 < x)
include finite above

theorem neg_isFinite : (-x).isFinite = true := by
  obtain ⟨m, e, h, high, u⟩ := exists_canonical finite above
  change (-x).toModel.unpack.isFinite = true
  rw [unpack_neg h high u]
  rfl

theorem neg_lt_self : -x < x := by
  obtain ⟨m, e, h, high, u⟩ := exists_canonical finite above
  apply decide_eq_true
  change ((-x).toModel.unpack.compare x.toModel.unpack == some .lt) = true
  rw [unpack_neg h high u, u]
  rfl

/-- From the opposite of a number it is twice as far as from zero, and both are rounded alike. -/
theorem sub_neg_self : x - -x = 2 * x := by
  obtain ⟨m, e, h, high, u⟩ := exists_canonical finite above
  obtain ⟨n, f, canonical, j, k, twice, lower, scaled, lower'⟩ := h.doubled
  have difference : UnpackedFloat.sub Format.binary64 x.toModel.unpack (-x).toModel.unpack =
      .finite .positive n f canonical.positive := by
    have sum : ((m <<< (e - min e e).toNat : Nat) : Int) - -(m <<< (e - min e e).toNat : Nat) =
        (n * 2 ^ j : Nat) := by
      rw [min_self, Int.sub_self, ← twice]
      change (m : Int) - -m = (2 * m : Nat)
      omega
    rw [u, unpack_neg h high u]
    change UnpackedFloat.normalize Format.binary64
      ((m <<< (e - min e e).toNat : Nat) - -(m <<< (e - min e e).toNat : Nat)) (min e e) _ = _
    rw [sum, min_self, lower]
    exact canonical.normalized j .positive
  have product : UnpackedFloat.mul Format.binary64 (2 : Float).toModel.unpack x.toModel.unpack =
      .finite .positive n f canonical.positive := by
    rw [unpack_two, u]
    change roundWithAccuracy Format.binary64 .positive (2 ^ 52 * m) (-51 + e) .exact = _
    rw [scaled, show -51 + e = f - k by omega]
    exact canonical.rounded .positive k
  change Float.ofModel (pack _) = Float.ofModel (pack _)
  rw [difference, product]

end Opposite

end Fortune.Decimal
