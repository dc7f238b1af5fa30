import Fortune.Position
import Fortune.Proofs.Decimal.Layout
import Fortune.Proofs.Text.Blank
import Fortune.Proofs.Text.Separator
import Mathlib.Data.List.Basic

/-!
Vectors in texts. A text is read as a vector exactly if it has two commas, and a finite number with
blanks around it before, between and behind them. What is written of a vector is such a text, so it
is read back wherever its numbers are.
-/
namespace Fortune.Point
open Text Decimal

/-- The text is three pieces without commas, which are the numbers of the vector but for blanks. -/
def Spells (text : String) (v : Point) : Prop :=
  ∃ x y z, text.toList = joined x y z ∧ (∀ piece ∈ [x, y, z], ',' ∉ piece) ∧
    finite? (trim x) = some v.x ∧ finite? (trim y) = some v.y ∧ finite? (trim z) = some v.z

theorem splitOn_eq_iff {text x y z : List Char} :
    text.splitOn ',' = [x, y, z] ↔ text = joined x y z ∧ ∀ piece ∈ [x, y, z], ',' ∉ piece := by
  have whole : [','].intercalate [x, y, z] = joined x y z := by
    simp [List.intercalate_cons_cons, joined]
  constructor
  · intro split
    refine ⟨?_, fun piece inside => not_mem_of_mem_splitOn (split ▸ inside)⟩
    rw [← whole, ← split, List.intercalate_splitOn]
  · rintro ⟨rfl, plain⟩
    rw [← whole]
    exact List.splitOn_intercalate ',' plain (List.cons_ne_nil _ _)

theorem parse_ok_iff_pieces {text : String} {v : Point} :
    parse text = .ok v ↔ (text.toList.splitOn ',').map (fun piece => finite? (trim piece)) =
      [some v.x, some v.y, some v.z] := by
  unfold parse
  generalize text.toList.splitOn ',' = pieces
  match pieces with
  | [] => simp
  | [_] => simp
  | [_, _] => simp
  | _ :: _ :: _ :: _ :: _ => simp
  | [x, y, z] =>
      simp only [List.map_cons, List.map_nil, List.cons.injEq, and_true]
      constructor
      · intro h
        split at h
        · rename_i hx hy hz
          cases h
          exact ⟨hx, hy, hz⟩
        · cases h
      · rintro ⟨hx, hy, hz⟩
        rw [hx, hy, hz]

theorem parse_ok_iff {text : String} {v : Point} : parse text = .ok v ↔ Spells text v := by
  rw [parse_ok_iff_pieces]
  constructor
  · intro h
    obtain ⟨x, y, z, split, hx, hy, hz⟩ : ∃ x y z, text.toList.splitOn ',' = [x, y, z] ∧
        finite? (trim x) = some v.x ∧ finite? (trim y) = some v.y ∧
        finite? (trim z) = some v.z := by
      simpa [List.map_eq_cons_iff] using h
    obtain ⟨spelled, plain⟩ := splitOn_eq_iff.mp split
    exact ⟨x, y, z, spelled, plain, hx, hy, hz⟩
  · rintro ⟨x, y, z, spelled, plain, hx, hy, hz⟩
    rw [splitOn_eq_iff.mpr ⟨spelled, plain⟩, List.map_cons, List.map_cons, List.map_cons, hx, hy,
      hz, List.map_nil]

theorem parse_error_iff {text : String} {e : Error} :
    parse text = .error e ↔ e = ⟨text⟩ ∧ ∀ v, ¬Spells text v := by
  have input (e : Error) (h : parse text = .error e) : e = ⟨text⟩ := by
    unfold parse at h
    split at h
    · split at h <;> cases h
      rfl
    · cases h
      rfl
  constructor
  · intro h
    refine ⟨input e h, fun v spelled => ?_⟩
    rw [parse_ok_iff.mpr spelled] at h
    cases h
  · rintro ⟨rfl, unspelled⟩
    cases read : parse text with
    | ok v => exact absurd (parse_ok_iff.mp read) (unspelled v)
    | error e => rw [input e read]

/-- Two commas, and what they divide are finite numbers with blanks around. -/
theorem exists_spells_iff {text : String} :
    (∃ v, Spells text v) ↔ text.toList.count ',' = 2 ∧
      ∀ piece ∈ text.toList.splitOn ',', ∃ x, finite? (trim piece) = some x := by
  have length := length_splitOn ',' text.toList
  constructor
  · rintro ⟨v, x, y, z, spelled, plain, hx, hy, hz⟩
    rw [splitOn_eq_iff.mpr ⟨spelled, plain⟩] at length ⊢
    refine ⟨(Nat.succ.inj length).symm, ?_⟩
    simp only [List.forall_mem_cons]
    exact ⟨⟨_, hx⟩, ⟨_, hy⟩, ⟨_, hz⟩, List.forall_mem_nil _⟩
  · rintro ⟨two, read⟩
    rw [two] at length
    obtain ⟨x, y, z, split⟩ := List.length_eq_three.mp length
    rw [split] at read
    simp only [List.forall_mem_cons] at read
    obtain ⟨⟨a, ha⟩, ⟨b, hb⟩, ⟨c, hc⟩, _⟩ := read
    obtain ⟨spelled, plain⟩ := splitOn_eq_iff.mp split
    exact ⟨⟨a, b, c⟩, x, y, z, spelled, plain, ha, hb, hc⟩

theorem floatText_solid (x : Float) : ∀ c ∈ floatText x, isBlank c = false := by
  obtain ⟨magnitude, tokens, shape⟩ := floatText_tokens x
  have solid : ∀ c ∈ magnitude, isBlank c = false := fun c hc => token_solid (tokens c hc)
  rcases shape with shape | shape
  · rw [shape]
    exact solid
  · rw [shape]
    exact List.forall_mem_cons.mpr ⟨by decide, solid⟩

theorem spells_around {v : Point} (finite : v.All (·.isFinite = true))
    (back : v.All fun x => float? (floatText x) = some x) (a b c : Margin) :
    Spells (String.ofList (joined (a.around (floatText v.x)) (b.around (floatText v.y))
      (c.around (floatText v.z)))) v := by
  have plain (m : Margin) (x : Float) : ',' ∉ m.around (floatText x) :=
    m.not_mem_around (by decide) (not_mem_floatText (by decide) (by decide) x)
  have read (m : Margin) {x : Float} (finite : x.isFinite = true)
      (back : float? (floatText x) = some x) :
      finite? (trim (m.around (floatText x))) = some x := by
    rw [m.trim_around (floatText_solid x), finite?, back, Option.filter_some, if_pos finite]
  refine ⟨_, _, _, String.toList_ofList, ?_, read a finite.1 back.1, read b finite.2.1 back.2.1,
    read c finite.2.2 back.2.2⟩
  simp only [List.forall_mem_cons]
  exact ⟨plain a _, plain b _, plain c _, List.forall_mem_nil _⟩

/-- What is written of a vector is read back, with any blanks put around its components; and of all
texts the ones that are read are those that spell a vector. -/
theorem texts_exact :
    (∀ v : Point, v.All (·.isFinite = true) → (v.All fun x => float? (floatText x) = some x) →
      parse v.text = .ok v ∧
        ∀ a b c : Margin, parse (String.ofList (joined (a.around (floatText v.x))
          (b.around (floatText v.y)) (c.around (floatText v.z)))) = .ok v) ∧
      ∀ s : String,
        ((∃ v, parse s = .ok v) ↔ s.toList.count ',' = 2 ∧
          ∀ piece ∈ s.toList.splitOn ',', ∃ x, finite? (trim piece) = some x) ∧
        (∀ v, parse s = .ok v ↔ Spells s v) ∧
        (∀ e, parse s = .error e ↔ e = ⟨s⟩ ∧ ∀ v, ¬Spells s v) := by
  constructor
  · intro v finite back
    have around (a b c : Margin) := parse_ok_iff.mpr (spells_around finite back a b c)
    refine ⟨?_, around⟩
    have bare := around .none .none .none
    rw [Margin.around_none, Margin.around_none, Margin.around_none] at bare
    exact bare
  · intro s
    refine ⟨?_, fun v => parse_ok_iff, fun e => parse_error_iff⟩
    simp only [parse_ok_iff]
    exact exists_spells_iff

/-- A component may be negative zero, and a blank need not be a space. -/
theorem texts_of_blanks :
    parse "-0,0.5,-1.25" = .ok ⟨-0.0, 0.5, -1.25⟩ ∧
      parse " -0\t,0.5,-1.25\u2028" = .ok ⟨-0.0, 0.5, -1.25⟩ := by
  let v : Point := ⟨-0.0, 0.5, -1.25⟩
  have finite : v.All (·.isFinite = true) := by
    refine ⟨?_, ?_, ?_⟩ <;> decide +kernel
  have back : v.All fun x => float? (floatText x) = some x := by
    refine ⟨?_, ?_, ?_⟩ <;> decide +kernel
  obtain ⟨plain, around⟩ := texts_exact.1 v finite back
  have first : floatText v.x = ['-', '0'] := by decide +kernel
  have second : floatText v.y = ['0', '.', '5'] := by decide +kernel
  have third : floatText v.z = ['-', '1', '.', '2', '5'] := by decide +kernel
  constructor
  · rw [text, first, second, third] at plain
    exact plain
  · have spaced := around ⟨[' '], ['\t'], List.all_eq_true.mp rfl, List.all_eq_true.mp rfl⟩ .none
      ⟨[], ['\u2028'], List.forall_mem_nil _, List.all_eq_true.mp rfl⟩
    rw [first, second, third] at spaced
    exact spaced

end Fortune.Point
