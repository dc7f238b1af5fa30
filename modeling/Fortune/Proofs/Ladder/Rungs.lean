import Fortune.Ladder

/-!
The rungs of a ladder, whatever its numbers are: one for each entry, with a weight and a share, and
a pick never misses them.
-/
namespace Fortune.Ladder

variable {α : Type} [Scalar α]

theorem length_runningTotals (total : α) (weights : List α) :
    (runningTotals total weights).length = weights.length + 1 := by
  induction weights generalizing total with
  | nil => rfl
  | cons w rest ih => rw [runningTotals, List.length_cons, ih, List.length_cons]

theorem size_ofEntries (entries : List (Entry α)) (bias : Int) :
    (ofEntries entries bias).size = entries.length := by
  unfold ofEntries size
  rw [length_runningTotals, List.length_map, Nat.add_sub_cancel]

theorem length_weights (l : Ladder α) : l.weights.length = l.size := by
  unfold weights size
  rw [List.length_zipWith, List.length_tail]
  omega

theorem length_shares (l : Ladder α) : l.shares.length = l.size := by
  rw [shares, List.length_map, length_weights]

theorem pick_of_size_zero {l : Ladder α} (none : l.size = 0) (draw : α) : l.pick draw = .none := by
  rw [pick, indexFor, if_pos none]

/-- The clamp keeps the place that the search finds on the ladder, even where the totals are in no
order and the place means nothing. -/
theorem exists_pick {l : Ladder α} (some : l.size ≠ 0) (draw : α) :
    ∃ i < l.size, l.pick draw = .some i := by
  rw [pick, indexFor, if_neg some]
  refine ⟨_, ?_, rfl⟩
  omega

end Fortune.Ladder
