import Fortune.Proofs.Decimal.Integer
import Fortune.Proofs.Random.Samples
import Fortune.Template.Function
import Fortune.Template.Parameter
import Mathlib.Data.List.GetD

/-!
What templates draw: an integer between two bounds in either order, one of some arguments, a colour.
Over all sources of words each of them takes exactly the values that it is meant to take.
-/
namespace Fortune.Template
open Decimal

theorem drawBetween_bounds {first second : List Char} {a b : Int} (ha : int64? first = some a)
    (hb : int64? second = some b) :
    drawBetween [first, second] = do return intText (← Draw.integer (min a b) (max a b)) := by
  simp only [drawBetween, bound, ha, hb]
  rfl

theorem values_drawBetween {first second : List Char} {a b : Int} (ha : int64? first = some a)
    (hb : int64? second = some b) :
    Draw.values (drawBetween [first, second]).run =
      (fun n => .ok (intText n)) '' {n | min a b ≤ n ∧ n ≤ max a b} := by
  obtain ⟨leastA, greatestA⟩ := int64?_range ha
  obtain ⟨leastB, greatestB⟩ := int64?_range hb
  have ordered : min a b ≤ max a b := (min_le_left a b).trans (le_max_left a b)
  rw [drawBetween_bounds ha hb, ← Draw.values_integer (le_min leastA leastB) ordered
    (max_le greatestA greatestB)]
  exact Draw.values_map (fun n => Except.ok (intText n)) _

theorem values_drawArgument {arguments : List (List Char)} (some : arguments ≠ [])
    (fits : arguments.length ≤ words64) :
    Draw.values (drawArgument arguments).run = Except.ok '' {a | a ∈ arguments} := by
  have filled : arguments.isEmpty = false := List.isEmpty_eq_false_iff.mpr some
  have picks : Draw.values (drawArgument arguments).run =
      (fun i => .ok (arguments.getD i [])) '' {i | i < arguments.length} := by
    rw [← Draw.values_index (List.length_pos_iff.mpr some) fits, drawArgument, filled]
    exact Draw.values_map (fun i => Except.ok (arguments.getD i [])) _
  rw [picks]
  ext r
  constructor
  · rintro ⟨i, inside, rfl⟩
    exact ⟨arguments[i], List.getElem_mem inside,
      congrArg Except.ok (List.getD_eq_getElem arguments [] inside).symm⟩
  · rintro ⟨a, member, rfl⟩
    obtain ⟨i, inside, rfl⟩ := List.mem_iff_getElem.mp member
    exact ⟨i, inside, congrArg Except.ok (List.getD_eq_getElem arguments [] inside)⟩

theorem named?_randomColor :
    Parameter.named? "randomRGBColor" = some (.drawn (Draw.integer 0 greatestColor)) := by
  rfl

theorem values_randomColor (scene : Scene) :
    Draw.values (Parameter.lookup? "randomRGBColor" scene) =
      (fun n => some (intText n)) '' {n | 0 ≤ n ∧ n ≤ greatestColor} := by
  have looked : Parameter.lookup? "randomRGBColor" scene =
      do return some (intText (← Draw.integer 0 greatestColor)) := by
    simp only [Parameter.lookup?, named?_randomColor, Parameter.value, bind_assoc, pure_bind]
  rw [looked, ← Draw.values_integer (by decide) (by decide) (by decide)]
  exact Draw.values_map (fun n => some (intText n)) _

/-- Every integer of 64 bits can be a bound. Between two bounds, in whatever order they come, each
integer is drawn for some words and nothing else for any, and words that wrap around serve as well;
so is each of some arguments, of which there are no more than such a word can count, and each colour
but white. -/
theorem draws_exact :
    (∀ n, least64 ≤ n → n ≤ greatest64 → int64? (intText n) = some n) ∧
    (∀ first second a b, int64? first = some a → int64? second = some b →
      let between := Function.randomBetween.apply [first, second]
      Draw.values between.run = (fun n => .ok (intText n)) '' {n | min a b ≤ n ∧ n ≤ max a b} ∧
      Function.randomBetween.apply [second, first] = between) ∧
    (∀ lowest highest : Int64, lowest.toInt ≤ highest.toInt →
      Draw.integer lowest.toInt highest.toInt =
        do return (← Draw.wordInteger lowest highest).toInt) ∧
    (∀ arguments : List (List Char), arguments ≠ [] → arguments.length ≤ words64 →
      Draw.values (Function.random.apply arguments).run = Except.ok '' {a | a ∈ arguments}) ∧
    ∀ scene, Draw.values (Parameter.lookup? "randomRGBColor" scene) =
      (fun n => some (intText n)) '' {n | 0 ≤ n ∧ n ≤ 16777214} := by
  have greatest : greatestColor = 16777214 := by decide
  refine ⟨fun n => int64?_intText, ?between, fun _ _ => Draw.integer_eq_wordInteger,
    fun _ => values_drawArgument, greatest ▸ values_randomColor⟩
  case between =>
    intro first second a b ha hb
    refine ⟨values_drawBetween ha hb, ?_⟩
    change drawBetween [second, first] = drawBetween [first, second]
    rw [drawBetween_bounds ha hb, drawBetween_bounds hb ha, min_comm, max_comm]

/-- All integers of 64 bits, with the bounds the wrong way round; and two arguments. -/
theorem draws_of_extremes :
    let first := "9223372036854775807".toList
    let second := "-9223372036854775808".toList
    let lowest : Int64 := -9223372036854775808
    let highest : Int64 := 9223372036854775807
    let colors := ["red".toList, "blue".toList]
    (least64 ≤ -5 ∧ (-5 : Int) ≤ greatest64 ∧ int64? (intText (-5)) = some (-5)) ∧
    (int64? first = some greatest64 ∧ int64? second = some least64 ∧
      Draw.values (Function.randomBetween.apply [first, second]).run =
        (fun n => .ok (intText n)) '' {n | least64 ≤ n ∧ n ≤ greatest64}) ∧
    (lowest.toInt ≤ highest.toInt ∧ Draw.integer lowest.toInt highest.toInt =
      do return (← Draw.wordInteger lowest highest).toInt) ∧
    colors ≠ [] ∧ colors.length ≤ words64 ∧
      Draw.values (Function.random.apply colors).run = {.ok "red".toList, .ok "blue".toList} := by
  intro first second lowest highest colors
  obtain ⟨spelled, between, wrapped, among, _⟩ := draws_exact
  have greatest : int64? first = some greatest64 := by decide
  have least : int64? second = some least64 := by decide
  have le : lowest.toInt ≤ highest.toInt := by decide
  refine ⟨⟨by decide, by decide, spelled (-5) (by decide) (by decide)⟩,
    ⟨greatest, least, (between first second _ _ greatest least).1⟩, ⟨le, wrapped _ _ le⟩,
    by decide, by decide, ?_⟩
  rw [among colors (by decide) (by decide)]
  ext r
  simp [colors, eq_comm]

end Fortune.Template
