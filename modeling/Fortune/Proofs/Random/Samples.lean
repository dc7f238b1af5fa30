import Fortune.Random.Range
import Mathlib.Data.Set.Image

/-!
Which values samples take. A sample from a range never leaves it, not even where the second word is
carried in, and each value of the range is taken for some words.
-/
namespace Fortune

/-- A source that begins with some words and goes on with zeros. -/
def Source.ofWords (words : List UInt32) : Source := ⟨fun i => words.getD i 0, 0⟩

/-- Two words as one; the first is the low half. -/
def joinWords (low high : UInt32) : UInt64 := (high.toUInt64 <<< 32) ||| low.toUInt64

theorem toNat_joinWords (low high : UInt32) :
    (joinWords low high).toNat = high.toNat * words32 + low.toNat := by
  have fits : high.toNat * 2 ^ 32 < 2 ^ 64 := by
    have := high.toNat_lt
    omega
  have shifted : (high.toUInt64 <<< 32).toNat = high.toNat <<< 32 := by
    rw [UInt64.toNat_shiftLeft]
    change high.toNat <<< 32 % 2 ^ 64 = _
    rw [Nat.shiftLeft_eq, Nat.mod_eq_of_lt fits]
  rw [joinWords, UInt64.toNat_or, shifted, UInt32.toNat_toUInt64,
    ← Nat.shiftLeft_add_eq_or_of_lt low.toNat_lt, Nat.shiftLeft_eq]
  rfl

theorem exists_joinWords {n : Nat} (h : n < words64) :
    ∃ low high, (joinWords low high).toNat = n := by
  refine ⟨.ofNat (n % words32), .ofNat (n / words32), ?_⟩
  have low : n % words32 < words32 := Nat.mod_lt _ (by decide)
  have high : n / words32 < words32 := Nat.div_lt_of_lt_mul h
  rw [toNat_joinWords, UInt32.toNat_ofNat_of_lt' low, UInt32.toNat_ofNat_of_lt' high,
    Nat.mul_comm, Nat.div_add_mod]

namespace Draw

def values {α : Type} (act : Draw α) : Set α := Set.range fun source => (act source).1

theorem values_map {α β : Type} (f : α → β) (act : Draw α) :
    values (do return f (← act)) = f '' values act := by
  rw [values, values, ← Set.range_comp]
  rfl

/-- Each draw gives a number below `span`, and each such number can come with a zero behind it. -/
structure Supplies (span : Nat) (word : Draw Nat) : Prop where
  lt : ∀ source, (word source).1 < span
  first : ∀ n, n < span → ∃ source, (word source).1 = n ∧ (word (word source).2).1 = 0

theorem supplies_word32 : Supplies words32 (return (← word32).toNat) where
  lt source := (source.word source.taken).toNat_lt
  first n h := ⟨.ofWords [.ofNat n], UInt32.toNat_ofNat_of_lt' h, rfl⟩

theorem supplies_word64 : Supplies words64 (return (← word64).toNat) where
  lt source := UInt64.toNat_lt _
  first n h := by
    obtain ⟨low, high, rfl⟩ := exists_joinWords h
    refine ⟨.ofWords [low, high], rfl, ?_⟩
    change (joinWords 0 0).toNat = 0
    decide

theorem map_congr {α β : Type} {f g : α → β} {act : Draw α}
    (same : ∀ source, f (act source).1 = g (act source).1) :
    (do return f (← act)) = do return g (← act) := by
  funext source
  exact Prod.ext (same source) rfl

/-! Below a size. -/

/-- The sample that two words give. The second counts only where the first is not decisive. -/
def sampled (span size w w' : Nat) : Nat :=
  if span - size < w * size % span ∧ span ≤ w * size % span + w' * size / span then
    w * size / span + 1
  else w * size / span

theorem below_fst (span : Nat) (word : Draw Nat) (size : Nat) (source : Source) :
    (below span word size source).1 =
      sampled span size (word source).1 (word (word source).2).1 := by
  obtain ⟨w, drawn⟩ : ∃ w, w = (word source).1 := ⟨_, rfl⟩
  change ((if span - size < (word source).1 * size % span then _ else _ : Draw Nat)
    (word source).2).1 = _
  rw [← drawn]
  unfold sampled
  by_cases undecided : span - size < w * size % span
  · simp only [undecided, true_and, if_true]
    rfl
  · simp only [undecided, false_and, if_false]
    rfl

section Sampled

variable {span size : Nat}

/-- What is carried in cannot reach the size: where the high half is the greatest, the low half is
decisive. -/
theorem sampled_lt {w : Nat} (pos : 0 < size) (h : w < span) (w' : Nat) :
    sampled span size w w' < size := by
  have whole : span * (w * size / span) + w * size % span = w * size := Nat.div_add_mod _ _
  have room : w * size + size ≤ span * size := by
    rw [← Nat.succ_mul]
    exact Nat.mul_le_mul_right size h
  unfold sampled
  split
  · rename_i carried
    by_contra reached
    have last : span * size ≤ span * (w * size / span) + span := by
      rw [← Nat.mul_succ]
      apply Nat.mul_le_mul_left
      omega
    omega
  · apply Nat.div_lt_of_lt_mul
    omega

theorem exists_sampled (fits : size ≤ span) {k : Nat} (h : k < size) :
    ∃ w, w < span ∧ sampled span size w 0 = k := by
  have pos : 0 < size := Nat.zero_lt_of_lt h
  -- The least word whose product with the size reaches `k * span`.
  obtain ⟨w, least⟩ : ∃ w, w = (k * span + (size - 1)) / size := ⟨_, rfl⟩
  have reach : k * span ≤ w * size := by
    rw [least]
    have := Nat.lt_div_mul_add pos (a := k * span + (size - 1))
    omega
  have close : w * size ≤ k * span + (size - 1) := least ▸ Nat.div_mul_le_self _ _
  have next : (k + 1) * span = k * span + span := Nat.succ_mul k span
  have high : w * size / span = k := Nat.div_eq_of_lt_le reach (by omega)
  refine ⟨w, ?_, ?_⟩
  · have bound : (k + 1) * span ≤ size * span := Nat.mul_le_mul_right span h
    apply Nat.lt_of_mul_lt_mul_right (a := size)
    rw [Nat.mul_comm span size]
    omega
  · have low : w * size % span < span := Nat.mod_lt _ (by omega)
    rw [sampled, Nat.zero_mul, Nat.zero_div, if_neg (by omega), high]

theorem below_lt {word : Draw Nat} (supplies : Supplies span word) (pos : 0 < size)
    (source : Source) : (below span word size source).1 < size := by
  rw [below_fst]
  exact sampled_lt pos (supplies.lt source) _

theorem values_below {word : Draw Nat} (supplies : Supplies span word) (pos : 0 < size)
    (fits : size ≤ span) : values (below span word size) = {k | k < size} := by
  ext k
  constructor
  · rintro ⟨source, rfl⟩
    exact below_lt supplies pos source
  · intro h
    obtain ⟨w, small, rfl⟩ := exists_sampled fits h
    obtain ⟨source, rfl, zero⟩ := supplies.first w small
    refine ⟨source, ?_⟩
    change (below span word size source).1 = _
    rw [below_fst, zero]

end Sampled

theorem values_index {size : Nat} (pos : 0 < size) (fits : size ≤ words64) :
    values (index size) = {k | k < size} := by
  unfold index
  split
  · rename_i small
    exact values_below supplies_word32 pos (Nat.le_of_lt small)
  · exact values_below supplies_word64 pos fits

/-! Between two bounds. -/

theorem values_signed64 :
    values (do return (← signed64).toInt) = {n | least64 ≤ n ∧ n ≤ greatest64} := by
  ext n
  constructor
  · rintro ⟨source, rfl⟩
    have above := (word64 source).1.toInt64.le_toInt
    have below := (word64 source).1.toInt64.toInt_lt
    exact ⟨above, by change _ < greatest64 + 1 at below; exact Int.lt_add_one_iff.mp below⟩
  · rintro ⟨above, below⟩
    obtain ⟨low, high, joined⟩ := exists_joinWords (Int64.ofInt n).toUInt64.toNat_lt
    refine ⟨.ofWords [low, high], ?_⟩
    change (joinWords low high).toInt64.toInt = n
    rw [UInt64.toNat_inj.mp joined, Int64.toInt64_toUInt64]
    exact Int64.toInt_ofInt_of_le above (Int.lt_add_one_iff.mpr below)

/-- An integer between two bounds is one of those between them, and can be each. -/
theorem values_integer {lowest highest : Int} (least : least64 ≤ lowest) (le : lowest ≤ highest)
    (greatest : highest ≤ greatest64) :
    values (integer lowest highest) = {n | lowest ≤ n ∧ n ≤ highest} := by
  have bounds : least64 = -9223372036854775808 ∧ greatest64 = 9223372036854775807 := ⟨rfl, rfl⟩
  have words : words64 = 18446744073709551616 := rfl
  unfold integer
  dsimp only
  split
  · rename_i full
    have size : (highest - lowest + 1).toNat = words64 := beq_iff_eq.mp full
    obtain ⟨rfl, rfl⟩ : lowest = least64 ∧ highest = greatest64 := by omega
    exact values_signed64
  · rename_i part
    have size : (highest - lowest + 1).toNat ≠ words64 := fun same => part (beq_iff_eq.mpr same)
    rw [values_map (fun k : Nat => lowest + k), values_below supplies_word64 (by omega) (by omega)]
    ext n
    constructor
    · rintro ⟨k, small, rfl⟩
      rw [Set.mem_ofPred_eq] at small
      constructor <;> dsimp only <;> omega
    · rintro ⟨above, below⟩
      refine ⟨(n - lowest).toNat, ?_, ?_⟩
      · rw [Set.mem_ofPred_eq]
        omega
      · dsimp only
        omega

/-! In words of 64 bits, where sums and differences wrap around. -/

/-- An integer between two words. The size of all words wraps around to zero. -/
def wordInteger (lowest highest : Int64) : Draw Int64 := do
  let size := (highest - lowest + 1).toUInt64
  if size == 0 then signed64
  else
    return lowest + (UInt64.ofNat (← below words64 (return (← word64).toNat) size.toNat)).toInt64

theorem toNat_size (lowest highest : Int64) :
    ((highest - lowest + 1).toUInt64.toNat : Int) =
      (highest.toInt - lowest.toInt + 1) % 18446744073709551616 := by
  change ((highest.toBitVec - lowest.toBitVec + 1).toNat : Int) =
    (highest.toBitVec.toInt - lowest.toBitVec.toInt + 1) % _
  have := highest.toBitVec.isLt
  have := lowest.toBitVec.isLt
  have one : BitVec.toNat (1 : BitVec 64) = 1 := rfl
  simp only [BitVec.toInt_eq_toNat_cond, BitVec.toNat_add, BitVec.toNat_sub, one]
  omega

theorem toInt_add_ofNat {n : Int64} {k : Nat} (small : k < words64)
    (fits : n.toInt + k ≤ greatest64) :
    (n + (UInt64.ofNat k).toInt64).toInt = n.toInt + k := by
  change (n.toBitVec + BitVec.ofNat 64 k).toInt = n.toBitVec.toInt + k
  change n.toBitVec.toInt + k ≤ 9223372036854775807 at fits
  change k < 18446744073709551616 at small
  have := n.toBitVec.isLt
  simp only [BitVec.toInt_eq_toNat_cond, BitVec.toNat_add, BitVec.toNat_ofNat] at fits ⊢
  omega

/-- Wrapping around makes no difference. -/
theorem integer_eq_wordInteger {lowest highest : Int64} (le : lowest.toInt ≤ highest.toInt) :
    integer lowest.toInt highest.toInt = do return (← wordInteger lowest highest).toInt := by
  have size := toNat_size lowest highest
  have least := lowest.le_toInt
  have greatest : highest.toInt ≤ greatest64 := Int.lt_add_one_iff.mp highest.toInt_lt
  have bound : greatest64 = 9223372036854775807 := rfl
  have words : words64 = 18446744073709551616 := rfl
  by_cases full : (highest.toInt - lowest.toInt + 1).toNat = words64
  · have zero : (highest - lowest + 1).toUInt64 = 0 := by
      apply UInt64.toNat_inj.mp
      change _ = 0
      omega
    simp only [integer, wordInteger, full, zero, BEq.rfl, if_true]
  · have same : (highest - lowest + 1).toUInt64.toNat =
        (highest.toInt - lowest.toInt + 1).toNat := by omega
    have part : (highest - lowest + 1).toUInt64 ≠ 0 := by
      intro zero
      rw [zero] at same
      change 0 = _ at same
      omega
    simp only [integer, wordInteger, beq_eq_false_iff_ne.mpr full, beq_eq_false_iff_ne.mpr part,
      Bool.false_eq_true, if_false, same, bind_assoc, pure_bind]
    have pos : 0 < (highest.toInt - lowest.toInt + 1).toNat := by omega
    refine map_congr fun source => (toInt_add_ofNat ?_ ?_).symm
    all_goals
      have := below_lt supplies_word64 pos source
      omega

end Draw
end Fortune
