import Fortune.Proofs.Ladder.Rungs
import Fortune.Proofs.Registry.Changes

/-!
Selection. The ladder has a rung for each definition of the random partition, in the order of the
identifiers, so the rung that a draw falls on, the definition it picks and the share that is told
for it are always those of one place.
-/
namespace Fortune.Registry

variable {r : Registry}

theorem size_ladder (r : Registry) (bias : Int) : (r.ladder bias).size = r.randomIds.length := by
  rw [ladder, Ladder.size_ofEntries, List.length_map, randomIds, List.length_map]

theorem length_random (r : Registry) : r.snapshot.random.length = r.randomIds.length := by
  rw [randomIds, List.length_map]

theorem size_eq_zero_iff (r : Registry) : r.size = 0 ↔ r.randomIds = [] := by
  rw [← List.length_eq_zero_iff, ← length_random]
  exact Iff.rfl

theorem selectWith_of_empty (none : r.randomIds = []) (bias : Int) (draw : Float) :
    r.selectWith bias draw = .error (.registryEmpty (some .random)) := by
  have bare : (r.ladder bias).size = 0 := by rw [size_ladder, none, List.length_nil]
  rw [selectWith, Ladder.pick_of_size_zero bare]

/-- The place that a draw picks, what lies there, and that this is what is selected. -/
theorem exists_selected (some : r.randomIds ≠ []) (bias : Int) (draw : Float) :
    ∃ i id d, (r.ladder bias).pick draw = .some i ∧ r.snapshot.random[i]? = .some (id, d) ∧
      r.selectWith bias draw = .ok d := by
  have rungs : (r.ladder bias).size ≠ 0 := by
    rw [size_ladder]
    exact fun none => some (List.length_eq_zero_iff.mp none)
  obtain ⟨i, within, picked⟩ := Ladder.exists_pick rungs draw
  rw [size_ladder, ← length_random] at within
  obtain ⟨⟨id, d⟩, stored⟩ : ∃ entry, r.snapshot.random[i]? = .some entry :=
    ⟨_, List.getElem?_eq_getElem within⟩
  refine ⟨i, id, d, picked, stored, ?_⟩
  rw [selectWith, picked]
  simp only [stored]

theorem selectWith_ok_iff (r : Registry) (bias : Int) (draw : Float) :
    (∃ d, r.selectWith bias draw = .ok d) ↔ r.randomIds ≠ [] := by
  constructor
  · rintro ⟨d, selected⟩ none
    rw [selectWith_of_empty none] at selected
    cases selected
  · intro some
    obtain ⟨_, _, d, _, _, selected⟩ := exists_selected some bias draw
    exact ⟨d, selected⟩

/-- What is selected lies at the place that the draw picks, under its own identifier. -/
theorem Loaded.place_of_selectWith (loaded : r.Loaded) {bias : Int} {draw : Float} {d : Definition}
    (selected : r.selectWith bias draw = .ok d) :
    ∃ i, (r.ladder bias).pick draw = some i ∧ r.snapshot.random[i]? = some (d.id, d) := by
  have some : r.randomIds ≠ [] := (selectWith_ok_iff r bias draw).mp ⟨d, selected⟩
  obtain ⟨i, id, other, picked, stored, selected'⟩ := exists_selected some bias draw
  obtain rfl : other = d := by
    rw [selected] at selected'
    exact (Except.ok.inj selected').symm
  have own : other.id = id := loaded.random_id (List.mem_of_getElem? stored)
  exact ⟨i, picked, own ▸ stored⟩

theorem shares_fst (r : Registry) (bias : Int) : (r.shares bias).map Prod.fst = r.randomIds := by
  unfold shares
  rw [List.map_fst_zip]
  rw [Ladder.length_shares, size_ladder]

theorem shares_snd (r : Registry) (bias : Int) :
    (r.shares bias).map Prod.snd = (r.ladder bias).shares := by
  unfold shares
  rw [List.map_snd_zip]
  rw [Ladder.length_shares, size_ladder]

theorem select_of_empty (none : r.randomIds = []) (bias : Int) (source : Source) :
    r.select bias source = (.error (.registryEmpty (some .random)), source) := by
  rw [select, if_pos ((size_eq_zero_iff r).mpr none)]
  rfl

theorem select_of_some (some : r.randomIds ≠ []) (bias : Int) (source : Source) :
    r.select bias source =
      (r.selectWith bias (Draw.unit source).1, (Draw.unit source).2) := by
  rw [select, if_neg (mt (size_eq_zero_iff r).mp some)]
  rfl

/-- Whatever was loaded or installed, and for every bias and every draw, be it a number of the unit
interval or not: a definition is selected exactly if there is one to draw, and it is the one at the
place that the ladder picks; the shares are told in the same order, none left out; and drawing takes
one number from the source, or none at all if there is nothing to draw. -/
theorem selection_exact (reserved : String) (changes : List Change) (bias : Int) (draw : Float)
    (source : Source) :
    let r := (empty reserved).after changes
    let ladder := r.ladder bias
    ((∃ d, r.selectWith bias draw = .ok d) ↔ r.randomIds ≠ []) ∧
    (∀ d, r.selectWith bias draw = .ok d → ∃ i, ladder.pick draw = some i ∧
      r.snapshot.random[i]? = some (d.id, d) ∧ r.randomIds[i]? = some d.id ∧
      d.id ∉ r.nonrandomIds) ∧
    (r.shares bias).map Prod.fst = r.randomIds ∧
    (r.shares bias).map Prod.snd = ladder.shares ∧
    (∀ k d, ladder.pick draw = some k → r.selectWith bias draw = .ok d →
      ∃ share, (r.shares bias)[k]? = some (d.id, share)) ∧
    (r.randomIds ≠ [] → r.select bias source =
      (r.selectWith bias (Draw.unit source).1, (Draw.unit source).2)) ∧
    (r.randomIds = [] → r.select bias source =
        (.error (.registryEmpty (some .random)), source) ∧
      r.selectWith bias draw = .error (.registryEmpty (some .random))) := by
  intro r ladder
  have loaded : r.Loaded := loaded_after reserved changes
  refine ⟨selectWith_ok_iff r bias draw, ?_, shares_fst r bias, shares_snd r bias, ?_, ?_, ?_⟩
  · intro d selected
    obtain ⟨i, picked, stored⟩ := loaded.place_of_selectWith selected
    have listed : r.randomIds[i]? = some d.id := by
      rw [randomIds, List.getElem?_map, stored, Option.map_some]
    have apart : d.id ∉ r.nonrandomIds := loaded.disjoint (List.mem_of_getElem? listed)
    exact ⟨i, picked, stored, listed, apart⟩
  · intro k d picked selected
    obtain ⟨i, picked', stored⟩ := loaded.place_of_selectWith selected
    obtain rfl : i = k := by
      rw [picked] at picked'
      exact (Option.some.inj picked').symm
    have listed : ((r.shares bias).map Prod.fst)[i]? = some d.id := by
      rw [shares_fst, randomIds, List.getElem?_map, stored, Option.map_some]
    rw [List.getElem?_map] at listed
    obtain ⟨⟨id, share⟩, told, rfl⟩ := Option.map_eq_some_iff.mp listed
    exact ⟨share, told⟩
  · intro some
    exact select_of_some some bias source
  · intro none
    exact ⟨select_of_empty none bias source, selectWith_of_empty none bias draw⟩

end Fortune.Registry
