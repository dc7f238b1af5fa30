import Fortune.Proofs.Ladder.Exact
import Mathlib.Algebra.BigOperators.Ring.List

/-!
Intervals. The shares of a ladder cut the unit interval into one piece for each entry, in their
order, and a draw picks the entry in whose piece it lies.
-/
namespace Fortune.Ladder

section Sums

variable {ws : List Rat}

theorem sum_take_le (positive : ∀ w ∈ ws, 0 < w) {j k : Nat} (h : j ≤ k) :
    (ws.take j).sum ≤ (ws.take k).sum := by
  have split : ws.take k = ws.take j ++ (ws.take k).drop j := by
    conv_lhs => rw [← List.take_append_drop j (ws.take k), List.take_take, min_eq_left h]
  have rest : 0 ≤ ((ws.take k).drop j).sum := by
    refine List.sum_nonneg fun w hw => (positive w ?_).le
    exact List.mem_of_mem_take (List.mem_of_mem_drop hw)
  rw [split, List.sum_append]
  linarith

/-- From none of the weights to all of them, one step passes a number between. -/
theorem exists_step {r : Rat} (start : 0 ≤ r) (stop : r < ws.sum) :
    ∃ i < ws.length, (ws.take i).sum ≤ r ∧ r < (ws.take (i + 1)).sum := by
  have reached : ∃ k, r < (ws.take k).sum := ⟨ws.length, by rwa [List.take_length]⟩
  -- The first of the sums that is above the number; the sum before it is not.
  have passed := Nat.find_spec reached
  cases first : Nat.find reached with
  | zero =>
      rw [first, List.take_zero, List.sum_nil] at passed
      exact absurd start (not_le.mpr passed)
  | succ i =>
      rw [first] at passed
      have before : ¬r < (ws.take i).sum := Nat.find_min reached (by omega)
      refine ⟨i, ?_, not_lt.mp before, passed⟩
      by_contra outside
      rw [List.take_of_length_le (by omega)] at passed before
      exact before passed

theorem sum_map_div (ws : List Rat) (total : Rat) : (ws.map (· / total)).sum = ws.sum / total := by
  simp only [div_eq_mul_inv]
  rw [List.sum_map_mul_right, List.map_id']

end Sums

variable {entries : List (Entry Rat)} {bias : Int}

theorem weightsOf_pos (moderate : Moderate bias) : ∀ w ∈ weightsOf entries bias, 0 < w := by
  intro w hw
  obtain ⟨e, _, rfl⟩ := List.mem_map.mp hw
  exact entryWeight_pos moderate _ _ e

theorem total_pos (moderate : Moderate bias) (some : entries ≠ []) :
    0 < (weightsOf entries bias).sum := by
  refine List.sum_pos _ (weightsOf_pos moderate) ?_
  rw [weightsOf, ne_eq, List.map_eq_nil_iff]
  exact some

theorem shares_ofEntries (moderate : Moderate bias) (some : entries ≠ []) :
    (ofEntries entries bias).shares =
      (weightsOf entries bias).map (· / (weightsOf entries bias).sum) := by
  rw [shares, weights_ofEntries, total_ofEntries]
  refine List.map_congr_left fun w _ => ?_
  exact if_pos (total_pos moderate some)

theorem tail_totals_getElem? {k : Nat} {c : Rat}
    (h : (ofEntries entries bias).totals.tail[k]? = some c) :
    c = ((weightsOf entries bias).take (k + 1)).sum := by
  have inside : k + 1 ≤ entries.length := by
    have below := (List.getElem?_eq_some_iff.mp h).1
    rw [List.length_tail, length_totals] at below
    omega
  rw [List.getElem?_tail, totals_getElem? _ _ inside] at h
  exact (Option.some.inj h).symm

/-- Between two neighbouring totals the search stops, since the totals rise. -/
theorem bisect_totals (moderate : Moderate bias) {r : Rat} {i : Nat} (within : i < entries.length)
    (low : ((weightsOf entries bias).take i).sum ≤ r)
    (high : r < ((weightsOf entries bias).take (i + 1)).sum) :
    bisect (fun c => decide (c ≤ r)) (ofEntries entries bias).totals.tail = i := by
  have positive : ∀ w ∈ weightsOf entries bias, 0 < w := weightsOf_pos moderate
  have split := List.take_append_drop i (ofEntries entries bias).totals.tail
  rw [bisect_of_split split.symm, List.length_take, List.length_tail, length_totals]
  · omega
  · intro c hc
    obtain ⟨k, hk⟩ := List.mem_iff_getElem?.mp hc
    rw [List.getElem?_take] at hk
    split at hk
    · rename_i before
      rw [decide_eq_true_iff, tail_totals_getElem? hk]
      exact (sum_take_le positive (by omega)).trans low
    · cases hk
  · intro c hc
    obtain ⟨k, hk⟩ := List.mem_iff_getElem?.mp hc
    rw [List.getElem?_drop] at hk
    rw [decide_eq_false_iff_not, tail_totals_getElem? hk, not_le]
    exact high.trans_le (sum_take_le positive (by omega))

theorem pick_of_step (moderate : Moderate bias) {draw : Rat} {i : Nat}
    (within : i < entries.length)
    (low : ((weightsOf entries bias).take i).sum ≤ draw * (weightsOf entries bias).sum)
    (high : draw * (weightsOf entries bias).sum < ((weightsOf entries bias).take (i + 1)).sum) :
    (ofEntries entries bias).pick draw = some i := by
  have found := bisect_totals moderate within low high
  rw [← total_ofEntries] at found
  have rungs : (ofEntries entries bias).size ≠ 0 := by
    rw [size_ofEntries]
    omega
  rw [pick, indexFor, if_neg rungs, size_ofEntries]
  change some (min (bisect _ _) _) = _
  rw [found, Nat.min_eq_left (by omega)]

/-- The piece of an entry, in weights instead of shares. -/
theorem mem_piece_iff (moderate : Moderate bias) (some : entries ≠ []) (draw : Rat) {i : Nat}
    {share : Rat} (h : (ofEntries entries bias).shares[i]? = .some share) :
    let S := ((ofEntries entries bias).shares.take i).sum
    S ≤ draw ∧ draw < S + share ↔
      ((weightsOf entries bias).take i).sum ≤ draw * (weightsOf entries bias).sum ∧
        draw * (weightsOf entries bias).sum < ((weightsOf entries bias).take (i + 1)).sum := by
  have total := total_pos moderate some
  rw [shares_ofEntries moderate some, List.getElem?_map] at h
  obtain ⟨w, hw, rfl⟩ := Option.map_eq_some_iff.mp h
  obtain ⟨within, rfl⟩ := List.getElem?_eq_some_iff.mp hw
  simp only [shares_ofEntries moderate some]
  rw [← List.map_take, sum_map_div, ← add_div, div_le_iff₀ total, lt_div_iff₀ total,
    List.sum_take_succ _ _ within]

/-- The shares of some entries under a bias for which weights mean something: they are positive and
sum up to one, so their pieces, each behind the ones before, cut the unit interval. A draw picks the
entry in whose piece it lies; the search does not run past the last rung. -/
theorem pieces_exact {entries : List (Entry Rat)} (some : entries ≠ []) {bias : Int}
    (moderate : |bias| ≤ 129) :
    let l := ofEntries entries bias
    let S : Nat → Rat := fun i => (l.shares.take i).sum
    l.shares.length = entries.length ∧ (∀ share ∈ l.shares, 0 < share) ∧ l.shares.sum = 1 ∧
    ∀ draw, 0 ≤ draw → draw < 1 →
      (∃! i, ∃ share, l.shares[i]? = .some share ∧ S i ≤ draw ∧ draw < S i + share) ∧
      (∀ i, l.pick draw = .some i ↔
        ∃ share, l.shares[i]? = .some share ∧ S i ≤ draw ∧ draw < S i + share) ∧
      l.pick draw = .some (bisect (fun c => decide (c ≤ draw * l.total)) l.totals.tail) := by
  intro l S
  have total : 0 < (weightsOf entries bias).sum := total_pos moderate some
  have length : l.shares.length = entries.length := by rw [length_shares, size_ofEntries]
  refine ⟨length, ?_, ?_, ?_⟩
  · intro share h
    rw [shares_ofEntries moderate some] at h
    obtain ⟨w, hw, rfl⟩ := List.mem_map.mp h
    exact div_pos (weightsOf_pos moderate w hw) total
  · rw [shares_ofEntries moderate some, sum_map_div, div_self total.ne']
  · intro draw low high
    have start : 0 ≤ draw * (weightsOf entries bias).sum := mul_nonneg low total.le
    have stop : draw * (weightsOf entries bias).sum < (weightsOf entries bias).sum :=
      mul_lt_of_lt_one_left total high
    obtain ⟨i, within, below, above⟩ := exists_step start stop
    rw [length_weightsOf] at within
    have picked : l.pick draw = .some i := pick_of_step moderate within below above
    have piece : ∀ k, l.pick draw = .some k ↔
        ∃ share, l.shares[k]? = .some share ∧ S k ≤ draw ∧ draw < S k + share := by
      intro k
      constructor
      · intro picked'
        obtain rfl : i = k := Option.some.inj (picked.symm.trans picked')
        have told : l.shares[i]? = .some l.shares[i] := List.getElem?_eq_getElem (length ▸ within)
        exact ⟨_, told, (mem_piece_iff moderate some draw told).mpr ⟨below, above⟩⟩
      · rintro ⟨share, told, inside⟩
        obtain ⟨below', above'⟩ := (mem_piece_iff moderate some draw told).mp inside
        have within' := (List.getElem?_eq_some_iff.mp told).1
        exact pick_of_step moderate (length ▸ within') below' above'
    refine ⟨⟨i, (piece i).mp picked, ?_⟩, piece, ?_⟩
    · intro k inside
      exact Option.some.inj (((piece k).mpr inside).symm.trans picked)
    · have found := bisect_totals moderate within below above
      rw [← total_ofEntries] at found
      rw [picked, found]

/-- Two entries a point of luck apart: the second picks up where the first ends. -/
theorem pieces_of_two :
    let entries : List (Entry Rat) := [⟨0, 1⟩, ⟨1, 1⟩]
    entries ≠ [] ∧ |(10 : Int)| ≤ 129 ∧
    (ofEntries entries 10).shares = [923 / 1923, 1000 / 1923] ∧
    (ofEntries entries 10).pick (923 / 1923) = some 1 := by
  intro entries
  have filled : entries ≠ [] := List.cons_ne_nil _ _
  have moderate : |(10 : Int)| ≤ 129 := by decide
  have told : (ofEntries entries 10).shares = [923 / 1923, 1000 / 1923] := by decide +kernel
  obtain ⟨_, _, _, pieces⟩ := pieces_exact filled moderate
  obtain ⟨_, piece, _⟩ := pieces (923 / 1923) (by norm_num) (by norm_num)
  refine ⟨filled, moderate, told, (piece 1).mpr ⟨1000 / 1923, ?_⟩⟩
  rw [told]
  norm_num

end Fortune.Ladder
