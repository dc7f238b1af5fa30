import Fortune.Engine
import Fortune.Proofs.Registry.Selection

/-!
Draws of an engine in a row. A draw changes nothing but the source, so all of them bring something
up or none does.
-/
namespace Fortune.Engine

def selections (e : Engine) (bias : Int) : Nat → List (Except Outcome.Error Definition)
  | 0 => []
  | count + 1 => (e.select bias).1 :: (e.select bias).2.selections bias count

variable {e : Engine}

theorem select_of_empty (none : e.registry.randomIds = []) (bias : Int) :
    e.select bias = (.error (.registryEmpty (some .random)), e) := by
  rw [select, StateT.run, Registry.select_of_empty none]

theorem select_of_some (some : e.registry.randomIds ≠ []) (bias : Int) :
    ∃ d, e.select bias = (.ok d, { e with random := (Draw.unit e.random).2 }) ∧
      e.registry.selectWith bias (Draw.unit e.random).1 = .ok d := by
  obtain ⟨_, _, d, _, _, selected⟩ := Registry.exists_selected some bias (Draw.unit e.random).1
  refine ⟨d, ?_, selected⟩
  rw [select, StateT.run, Registry.select_of_some some, selected]

/-- A draw takes one number of the unit interval from the source if it brings something up. -/
theorem select_cases (e : Engine) (bias : Int) :
    (∃ d, e.select bias = (.ok d, { e with random := (Draw.unit e.random).2 }) ∧
      e.registry.selectWith bias (Draw.unit e.random).1 = .ok d) ∨
    ∃ error, e.select bias = (.error error, e) := by
  by_cases none : e.registry.randomIds = []
  · exact .inr ⟨_, select_of_empty none bias⟩
  · exact .inl (select_of_some none bias)

theorem length_selections (e : Engine) (bias : Int) (count : Nat) :
    (e.selections bias count).length = count := by
  induction count generalizing e with
  | zero => rfl
  | succ count ih => rw [selections, List.length_cons, ih]

theorem selectMore_succ (r : Registry) (bias : Int) (count : Nat) (drawn : List Definition)
    (source : Source) :
    r.selectMore bias (count + 1) drawn source =
      match r.select bias source with
      | (.ok d, next) => r.selectMore bias count (d :: drawn) next
      | (.error error, next) => (.error error, next) := by
  simp only [Registry.selectMore, bind, StateT.bind]
  rcases r.select bias source with ⟨error | d, next⟩
  · rfl
  · rfl

/-- Draws behind those already made, which stand latest first. -/
theorem exists_selectMore (some : e.registry.randomIds ≠ []) (bias : Int) (count : Nat)
    (drawn : List Definition) :
    ∃ chosen, (e.registry.selectMore bias count drawn e.random).1 = .ok (drawn.reverse ++ chosen) ∧
      e.selections bias count = chosen.map .ok := by
  induction count generalizing e drawn with
  | zero =>
      refine ⟨[], ?_, rfl⟩
      rw [List.append_nil]
      rfl
  | succ count ih =>
      obtain ⟨d, selected, here⟩ := select_of_some some bias
      let next : Engine := { e with random := (Draw.unit e.random).2 }
      obtain ⟨chosen, more, rest⟩ := ih (e := next) some (d :: drawn)
      have round : e.registry.selectMore bias (count + 1) drawn e.random =
          next.registry.selectMore bias count (d :: drawn) next.random := by
        have brought : e.registry.select bias e.random = (.ok d, next.random) := by
          rw [Registry.select_of_some some, here]
        rw [selectMore_succ, brought]
      refine ⟨d :: chosen, ?_, ?_⟩
      · rw [round, more, List.reverse_cons, List.append_assoc]
        rfl
      · rw [selections, selected, List.map_cons]
        exact congrArg _ rest

theorem selectMany_of_some (some : e.registry.randomIds ≠ []) (bias : Int) (count : Nat) :
    ∃ chosen, (e.selectMany bias count).1 = .ok chosen ∧
      e.selections bias count = chosen.map .ok :=
  exists_selectMore some bias count []

theorem selectMany_of_empty (none : e.registry.randomIds = []) (bias : Int) {count : Nat}
    (some : 0 < count) :
    (e.selectMany bias count).1 = .error (.registryEmpty (.some .random)) := by
  obtain ⟨count, rfl⟩ := Nat.exists_eq_succ_of_ne_zero (Nat.ne_of_gt some)
  change (e.registry.selectMore bias (count + 1) [] e.random).1 = _
  rw [selectMore_succ, Registry.select_of_empty none]

/-- Only the random partition is drawn from. -/
theorem id_of_selection (loaded : e.registry.Loaded) {bias : Int} {count : Nat} {d : Definition}
    (inside : .ok d ∈ e.selections bias count) : d.id ∈ e.registry.randomIds := by
  induction count generalizing e with
  | zero => cases inside
  | succ count ih =>
      rw [selections] at inside
      rcases select_cases e bias with ⟨first, selected, found⟩ | ⟨error, refused⟩
      · rw [selected] at inside
        rcases List.mem_cons.mp inside with here | later
        · cases here
          obtain ⟨i, _, stored⟩ := loaded.place_of_selectWith found
          exact List.mem_map.mpr ⟨_, List.mem_of_getElem? stored, rfl⟩
        · exact ih (e := { e with random := (Draw.unit e.random).2 }) loaded later
      · rw [refused] at inside
        have later := (List.mem_cons.mp inside).resolve_left (by rintro ⟨⟩)
        exact ih loaded later

end Fortune.Engine
