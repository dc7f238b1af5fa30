/-!
The words behind a seed: the ChaCha function with twelve rounds, keyed by eight words that are
spread from the seed, on a block counter that starts at zero.
-/
namespace Fortune.Random

abbrev CipherState := Vector UInt32 16

def rotate (w : UInt32) (by_ : UInt32) : UInt32 := (w <<< by_) ||| (w >>> (32 - by_))

def quarterRound (a b c d : Fin 16) (s : CipherState) : CipherState :=
  let s := s.set a (s[a] + s[b])
  let s := s.set d (rotate (s[d] ^^^ s[a]) 16)
  let s := s.set c (s[c] + s[d])
  let s := s.set b (rotate (s[b] ^^^ s[c]) 12)
  let s := s.set a (s[a] + s[b])
  let s := s.set d (rotate (s[d] ^^^ s[a]) 8)
  let s := s.set c (s[c] + s[d])
  s.set b (rotate (s[b] ^^^ s[c]) 7)

/-- Mixes the columns, then the diagonals. -/
def doubleRound (s : CipherState) : CipherState :=
  let s := quarterRound 0 4 8 12 s
  let s := quarterRound 1 5 9 13 s
  let s := quarterRound 2 6 10 14 s
  let s := quarterRound 3 7 11 15 s
  let s := quarterRound 0 5 10 15 s
  let s := quarterRound 1 6 11 12 s
  let s := quarterRound 2 7 8 13 s
  quarterRound 3 4 9 14 s

/-- Four constants, the key, the counter in two halves, and an empty stream number. -/
def cipherStart (key : Vector UInt32 8) (counter : UInt64) : CipherState :=
  #v[0x61707865, 0x3320646E, 0x79622D32, 0x6B206574,
    key[0], key[1], key[2], key[3], key[4], key[5], key[6], key[7],
    counter.toUInt32, (counter >>> 32).toUInt32, 0, 0]

/-- One block of words: the start, mixed six times over and added to itself. -/
def cipherBlock (key : Vector UInt32 8) (counter : UInt64) : CipherState :=
  let start := cipherStart key counter
  let mixed := Nat.repeat doubleRound 6 start
  Vector.zipWith (· + ·) start mixed

/-- The next state of the sequence that spreads a seed. -/
def spreadStep (s : UInt64) : UInt64 := s * 6364136223846793005 + 11634580027462260723

def spreadWord (s : UInt64) : UInt32 :=
  let x := (((s >>> 18) ^^^ s) >>> 27).toUInt32
  let turn := (s >>> 59).toUInt32
  (x >>> turn) ||| (x <<< ((32 - turn) % 32))

/-- Eight words from one seed. -/
def spreadSeed (seed : UInt64) : Vector UInt32 8 :=
  Vector.ofFn fun i => spreadWord (Nat.repeat spreadStep (i + 1) seed)

def keystream (key : Vector UInt32 8) (n : Nat) : UInt32 :=
  (cipherBlock key (UInt64.ofNat (n / 16)))[n % 16]

end Fortune.Random
