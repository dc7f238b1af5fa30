import Fortune.Random.Source
import Fortune.Width

/-!
Samples from ranges. An integer below `size` is the high half of a random word times `size`; when
the low half is so great that the word is not decisive, the high half of a second product is carried
into it. A range of all 64-bit integers is the word itself.
-/
namespace Fortune.Draw

/-- A natural number below `size`, from words that are natural numbers below `span`. -/
def below (span : Nat) (word : Draw Nat) (size : Nat) : Draw Nat := do
  let w ← word
  let high := w * size / span
  let low := w * size % span
  if span - size < low then
    let w' ← word
    let carry := w' * size / span
    return if span ≤ low + carry then high + 1 else high
  else
    return high

/-- An index into a list of `size` elements, from words of 32 bits unless the size needs more. -/
def index (size : Nat) : Draw Nat :=
  if size < words32 then below words32 (return (← word32).toNat) size
  else below words64 (return (← word64).toNat) size

/-- An integer between two 64-bit bounds, both included. -/
def integer (lowest highest : Int) : Draw Int := do
  let size := (highest - lowest + 1).toNat
  if size == words64 then
    return (← signed64).toInt
  else
    return lowest + (← below words64 (return (← word64).toNat) size)

/-- A float of the range, by 52 random bits. The sum is rounded, so it may come out at `highest`. -/
def real (lowest highest : Float) : Draw Float := do
  let w ← word64
  let fraction := Float.ofBits ((w >>> 12) ||| 0x3FF0000000000000) - 1
  return fraction * (highest - lowest) + lowest

end Fortune.Draw
