import Fortune.Proofs.Decimal.Packing
import Fortune.Proofs.Document.Literal

/-!
Numerals beyond the greatest float. Rounding gives a number, and so do a product and a quotient with
a power of ten; the float of a numeral is therefore finite or infinite, and nothing else.
-/
namespace Fortune.Decimal
open Text Float.Model UnpackedFloat

theorem isNaN_rounded (spec : Format) (s : Sign) (m : Nat) (e : Int) (a : Accuracy) :
    (roundWithAccuracy spec s m e a).isNaN = false := by
  unfold roundWithAccuracy
  dsimp only
  split <;> rfl

theorem isNaN_normalize (spec : Format) (m e : Int) (s : Sign) :
    (UnpackedFloat.normalize spec m e s).isNaN = false := by
  unfold UnpackedFloat.normalize
  split
  · exact isNaN_rounded _ _ _ _ _
  · rfl
  · exact isNaN_rounded _ _ _ _ _

theorem isNaN_scientific (spec : Format) (m : Nat) (e : Int) :
    (UnpackedFloat.ofScientific spec m e).isNaN = false := by
  unfold UnpackedFloat.ofScientific
  repeat' split
  · rfl
  · rfl
  · rfl
  · exact isNaN_rounded _ _ _ _ _
  · exact isNaN_rounded _ _ _ _ _

section Factor

variable {spec : Format} {u : UnpackedFloat} {m : Nat} (positive : 0 < m)

theorem isNaN_mul (number : u.isNaN = false) (s : Sign) (e : Int) :
    (UnpackedFloat.mul spec u (.finite s m e positive)).isNaN = false := by
  cases u with
  | notANumber => cases number
  | infinity t => rfl
  | zero t => rfl
  | finite t n f _ => exact isNaN_rounded _ _ _ _ _

theorem isNaN_div (number : u.isNaN = false) (s : Sign) (e : Int) :
    (UnpackedFloat.div spec u (.finite s m e positive)).isNaN = false := by
  cases u with
  | notANumber => cases number
  | infinity t => rfl
  | zero t => rfl
  | finite t n f _ => exact isNaN_rounded _ _ _ _ _

end Factor

theorem power_pos : ∀ i : Fin 23, (Float.exactlyRepresentablePowersOfTen[i]).isFinite = true ∧
    0 < Float.exactlyRepresentablePowersOfTen[i] := by
  decide +kernel

theorem isNaN_ofScientific (m : Nat) (negative : Bool) (e : Nat) :
    (Float.ofScientific m negative e).isNaN = false := by
  unfold Float.ofScientific
  split
  · -- Few digits and a small power of ten: both are exact, and only the result is rounded.
    rename_i small
    have number : m.toUInt64.toFloat.isNaN = false := by
      exact (isNaN_pack _).trans (isNaN_normalize _ _ _ _)
    obtain ⟨finite, above⟩ := power_pos ⟨e, by omega⟩
    obtain ⟨m', e', canonical, _, power⟩ := exists_canonical finite above
    dsimp only
    split
    · apply (isNaN_pack _).trans
      exact power ▸ isNaN_div canonical.positive number .positive e'
    · apply (isNaN_pack _).trans
      exact power ▸ isNaN_mul canonical.positive number .positive e'
  · exact (isNaN_pack _).trans (isNaN_scientific _ _ _)

theorem isNaN_nearestFloat (digits : Nat) (exponent : Int) :
    (nearestFloat digits exponent).isNaN = false := by
  have zero : (0 : Float).isNaN = false := isNaN_ofScientific 0 false 0
  unfold nearestFloat
  dsimp only
  repeat' split
  · exact zero
  · exact isNaN_ofScientific _ _ _
  · exact zero
  · exact isNaN_ofScientific _ _ _

theorem isNaN_floatOf (m : SignedNumeral) : (floatOf m).isNaN = false := by
  unfold floatOf
  dsimp only
  split
  · rw [isNaN_neg]
    exact isNaN_nearestFloat _ _
  · exact isNaN_nearestFloat _ _

end Fortune.Decimal
