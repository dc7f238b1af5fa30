import Fortune.Random.Keystream

/-!
Sources of random words and the samples drawn from them. A source is an endless sequence of words
with a place in it; drawing moves the place forward and changes nothing else.
-/
namespace Fortune

/-- A sequence of random words and the number of words already taken. -/
structure Source where
  word : Nat → UInt32
  taken : Nat

namespace Source

def ofSeed (seed : UInt64) : Source :=
  let key := Random.spreadSeed seed
  ⟨Random.keystream key, 0⟩

def advance (s : Source) (count : Nat) : Source := { s with taken := s.taken + count }

end Source

/-- A computation that draws random words. -/
abbrev Draw := StateM Source

namespace Draw

def word32 : Draw UInt32 := fun s => (s.word s.taken, s.advance 1)

def word64 : Draw UInt64 := do
  let low ← word32
  let high ← word32
  return (high.toUInt64 <<< 32) ||| low.toUInt64

def signed64 : Draw Int64 := do
  let w ← word64
  return w.toInt64

/-- A float in the unit interval, one excluded: 53 random bits times 2 ^ -53. -/
def unit : Draw Float := do
  let w ← word64
  return (w >>> 11).toFloat * Float.ofBits 0x3CA0000000000000

end Draw
end Fortune
