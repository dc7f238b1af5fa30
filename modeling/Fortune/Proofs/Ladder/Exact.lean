import Fortune.Proofs.Ladder.Rungs
import Mathlib.Algebra.BigOperators.Group.List.Basic
import Mathlib.Algebra.Order.Field.Rat
import Mathlib.Algebra.Order.BigOperators.Group.List
import Mathlib.Tactic.FieldSimp
import Mathlib.Tactic.Linarith
import Mathlib.Tactic.NormNum
import Mathlib.Tactic.Positivity
import Mathlib.Tactic.Ring

/-!
The ladder in exact fractions. Nothing is lost in the running totals there, so their differences are
the weights again. Up to a factor that all entries of a list share, a weight is the chance times a
power of the curve with the luck for exponent: the anchors of the ranks are in that factor.
-/
namespace Fortune.Ladder

/-- The denominator of the curve's base stays above zero up to here, and not one point further. -/
def Moderate (bias : Int) : Prop := |bias| ≤ 129

section Ranks

variable {α : Type}

/-- What a fold that keeps the better of two keeps is at least as good as what it started with and
as every luck it met. -/
theorem foldl_bound (better : Int → Int → Prop) (keep : Int → Int → Int)
    (refl : ∀ a, better a a) (trans : ∀ {a b c}, better a b → better b c → better a c)
    (left : ∀ a b, better (keep a b) a) (right : ∀ a b, better (keep a b) b)
    (entries : List (Entry α)) (n : Int) :
    better (entries.foldl (fun n e => keep n e.luck) n) n ∧
      ∀ e ∈ entries, better (entries.foldl (fun n e => keep n e.luck) n) e.luck := by
  induction entries generalizing n with
  | nil => exact ⟨refl n, fun e h => absurd h List.not_mem_nil⟩
  | cons first rest ih =>
      obtain ⟨start, met⟩ := ih (keep n first.luck)
      refine ⟨trans start (left n first.luck), ?_⟩
      intro e h
      rcases List.mem_cons.mp h with rfl | later
      · exact trans start (right n e.luck)
      · exact met e later

theorem lowest_le {entries : List (Entry α)} {e : Entry α} (h : e ∈ entries) :
    lowest entries ≤ e.luck :=
  (foldl_bound (· ≤ ·) min le_refl le_trans min_le_left min_le_right entries 0).2 e h

theorem le_highest {entries : List (Entry α)} {e : Entry α} (h : e ∈ entries) :
    e.luck ≤ highest entries :=
  (foldl_bound (· ≥ ·) max le_refl (fun h h' => le_trans h' h) le_max_left le_max_right
    entries 0).2 e h

/-- The exponent as a difference of lucks, from the anchor that the bias chooses. -/
theorem exponent_eq (bias : Int) {low high luck : Int} (above : low ≤ luck) (below : luck ≤ high) :
    (exponent bias low high luck : Int) =
      if 0 ≤ bias then luck + (1 - low) else -luck + (1 + high) := by
  unfold exponent rank
  split <;> omega

end Ranks

theorem base_eq (bias : Int) : (base bias : Rat) = 1 / (1 - |(bias : Rat)| * (77 / 10000)) := by
  have magnitude : (bias.natAbs : Rat) = |(bias : Rat)| := by rw [Nat.cast_natAbs, Int.cast_abs]
  change (1 : Rat) / (1 - bias.natAbs * (77 / 100 / 100)) = _
  rw [magnitude]
  norm_num

theorem Moderate.denominator_pos {bias : Int} (h : Moderate bias) :
    0 < 1 - |(bias : Rat)| * (77 / 10000) := by
  have bound : |(bias : Rat)| ≤ 129 := by exact_mod_cast h
  linarith

theorem Moderate.base_pos {bias : Int} (h : Moderate bias) : (0 : Rat) < base bias := by
  rw [base_eq]
  exact one_div_pos.mpr h.denominator_pos

theorem positiveChance_eq (chance : Rat) :
    positiveChance chance = if 0 < chance then chance else 1 := rfl

theorem positiveChance_pos (chance : Rat) : 0 < positiveChance chance := by
  rw [positiveChance_eq]
  split
  · assumption
  · exact one_pos

/-- The factor that one point of luck brings: the base, or its inverse under a negative bias. -/
def curve (bias : Int) : Rat := if 0 ≤ bias then base bias else (base bias)⁻¹

theorem Moderate.curve_pos {bias : Int} (h : Moderate bias) : 0 < curve bias := by
  unfold curve
  split
  · exact h.base_pos
  · exact inv_pos.mpr h.base_pos

/-- The factor that the weights of all entries of a list share. -/
def scale (bias low high : Int) : Rat :=
  base bias ^ (if 0 ≤ bias then 1 - low else 1 + high) * 100

theorem Moderate.scale_pos {bias : Int} (h : Moderate bias) (low high : Int) :
    0 < scale bias low high :=
  mul_pos (zpow_pos h.base_pos _) (by norm_num)

theorem entryWeight_eq {bias : Int} (h : Moderate bias) {low high : Int} {e : Entry Rat}
    (above : low ≤ e.luck) (below : e.luck ≤ high) :
    entryWeight bias low high e =
      positiveChance e.chance * curve bias ^ e.luck * scale bias low high := by
  have nonzero : (base bias : Rat) ≠ 0 := h.base_pos.ne'
  have power : (base bias : Rat) ^ exponent bias low high e.luck =
      curve bias ^ e.luck * base bias ^ (if 0 ≤ bias then 1 - low else 1 + high) := by
    rw [← zpow_natCast, exponent_eq bias above below, curve]
    split
    · rw [zpow_add₀ nonzero]
    · rw [zpow_add₀ nonzero, inv_zpow']
  change positiveChance e.chance * base bias ^ exponent bias low high e.luck * 100 = _
  rw [power, scale]
  ring

theorem entryWeight_pos {bias : Int} (h : Moderate bias) (low high : Int) (e : Entry Rat) :
    0 < entryWeight bias low high e := by
  have hundred : (0 : Rat) < 100 := by norm_num
  exact mul_pos (mul_pos (positiveChance_pos e.chance) (pow_pos h.base_pos _)) hundred

section Totals

theorem runningTotals_cons (total w : Rat) (rest : List Rat) :
    runningTotals total (w :: rest) = total :: runningTotals (total + w) rest := rfl

theorem runningTotals_getElem? (total : Rat) (ws : List Rat) {i : Nat} (h : i ≤ ws.length) :
    (runningTotals total ws)[i]? = some (total + (ws.take i).sum) := by
  induction ws generalizing total i with
  | nil =>
      obtain rfl : i = 0 := Nat.le_zero.mp h
      simp [runningTotals]
  | cons w rest ih =>
      rw [runningTotals_cons]
      cases i with
      | zero => simp
      | succ i =>
          rw [List.getElem?_cons_succ, ih _ (Nat.le_of_succ_le_succ h), List.take_succ_cons,
            List.sum_cons, add_assoc]

def weightsOf (entries : List (Entry Rat)) (bias : Int) : List Rat :=
  entries.map (entryWeight bias (lowest entries) (highest entries))

theorem length_weightsOf (entries : List (Entry Rat)) (bias : Int) :
    (weightsOf entries bias).length = entries.length := by
  rw [weightsOf, List.length_map]

theorem length_totals (entries : List (Entry Rat)) (bias : Int) :
    (ofEntries entries bias).totals.length = entries.length + 1 := by
  change (runningTotals _ _).length = _
  rw [length_runningTotals, List.length_map]

/-- Each total is the sum of the weights before it. -/
theorem totals_getElem? (entries : List (Entry Rat)) (bias : Int) {i : Nat}
    (h : i ≤ entries.length) :
    (ofEntries entries bias).totals[i]? = some ((weightsOf entries bias).take i).sum := by
  have within : i ≤ (weightsOf entries bias).length := by rwa [length_weightsOf]
  have zero : (Scalar.ofNat 0 : Rat) = 0 := rfl
  change (runningTotals (Scalar.ofNat 0) (weightsOf entries bias))[i]? = _
  rw [runningTotals_getElem? _ _ within, zero, zero_add]

theorem total_ofEntries (entries : List (Entry Rat)) (bias : Int) :
    (ofEntries entries bias).total = (weightsOf entries bias).sum := by
  have all : (weightsOf entries bias).take entries.length = weightsOf entries bias :=
    List.take_of_length_le (length_weightsOf entries bias).le
  rw [total, List.getLast?_eq_getElem?, length_totals, Nat.add_sub_cancel,
    totals_getElem? _ _ le_rfl, all, Option.getD_some]

/-- The differences of the totals give the weights back. -/
theorem weights_ofEntries (entries : List (Entry Rat)) (bias : Int) :
    (ofEntries entries bias).weights = weightsOf entries bias := by
  refine List.ext_getElem? fun i => ?_
  -- Inside the list two neighbouring totals differ by one weight; behind it both sides end.
  by_cases within : i < entries.length
  · have within' : i < (weightsOf entries bias).length := by rwa [length_weightsOf]
    rw [weights, List.getElem?_zipWith, List.getElem?_tail,
      totals_getElem? entries bias (Nat.le_of_lt within), totals_getElem? entries bias within,
      List.getElem?_eq_getElem within', List.sum_take_succ _ _ within']
    change some (_ + _ - _) = _
    rw [add_sub_cancel_left]
  · rw [List.getElem?_eq_none, List.getElem?_eq_none]
    · rw [length_weightsOf]
      exact not_lt.mp within
    · rw [length_weights, size_ofEntries]
      exact not_lt.mp within

theorem weight?_ofEntries {entries : List (Entry Rat)} {i : Nat} {e : Entry Rat}
    (h : entries[i]? = some e) (bias : Int) :
    (ofEntries entries bias).weight? i =
      some (entryWeight bias (lowest entries) (highest entries) e) := by
  rw [weight?, weights_ofEntries, weightsOf, List.getElem?_map, h, Option.map_some]

end Totals
end Fortune.Ladder
