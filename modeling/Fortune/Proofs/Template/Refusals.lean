import Fortune.Proofs.Decimal.Doubling
import Fortune.Proofs.Decimal.Integer
import Fortune.Proofs.Random.Plan
import Fortune.Proofs.Template.Resolver

/-!
Refusals of calls. Each function first checks its arguments, and then has a plan of what it draws;
so a call that is refused has drawn nothing.
-/
namespace Fortune.Template
open Decimal

def velocityPlan (power maxPitch : Float) : Plan Point :=
  .ask (.real (-180) 180) fun yaw =>
    let launch (deviation : Float) : Plan Point :=
      .done ((heading (radians yaw) (radians (deviation - 90))).scale power)
    if 0 < maxPitch then .ask (.real (-maxPitch) maxPitch) launch else launch 0

def argumentPlan (arguments : List (List Char)) : Except Error (Plan (List Char)) :=
  if arguments.isEmpty then .error (.malformedCall .random .noArguments)
  else .ok (.ask (.index arguments.length) fun i => .done (arguments.getD i []))

def betweenPlan : List (List Char) → Except Error (Plan (List Char))
  | [first, second] => do
    let a ← bound first
    let b ← bound second
    .ok (.ask (.integer (min a b) (max a b)) fun n => .done (intText n))
  | arguments => .error (.malformedCall .randomBetween (.notTwoArguments arguments.length))

def velocityTextPlan : List (List Char) → Except Error (Plan (List Char))
  | [] => .ok ((velocityPlan defaultPower defaultPitch).map (·.text.toList))
  | [first, second] => do
    let power ← measure first
    let maxPitch ← measure second
    if (2 * maxPitch).isFinite then .ok ((velocityPlan power maxPitch).map (·.text.toList))
    else .error (.malformedCall .randomVelocity (.pitchOutOfRange maxPitch))
  | _ => .ok (.done ['0'])

namespace Function

/-- What the function draws, or why it does not. -/
def plan (f : Function) (arguments : List (List Char)) : Except Error (Plan (List Char)) :=
  match f with
  | .random => argumentPlan arguments
  | .randomBetween => betweenPlan arguments
  | .randomVelocity => velocityTextPlan arguments

/-- The arguments that the function does not take. -/
def Refuses : Function → List (List Char) → Prop
  | .random, arguments => arguments = []
  | .randomBetween, arguments => ¬∃ first second a b, arguments = [first, second] ∧
      int64? first = some a ∧ int64? second = some b
  | .randomVelocity, arguments => ∃ first second, arguments = [first, second] ∧
      (finite? first = none ∨ finite? second = none ∨
        ∃ maxPitch, finite? second = some maxPitch ∧ (2 * maxPitch).isFinite = false)

end Function

/-- A plan is carried out; the lack of one is a failure. -/
def enact {α : Type} (checked : Except Error (Plan α)) : Resolver α := do
  let plan ← checked
  plan.run

theorem enact_bind {α β : Type} (x : Except Error α) (f : α → Except Error (Plan β)) :
    enact (x >>= f) = (do enact (f (← x))) := by
  cases x <;> rfl

theorem run_velocityPlan (power maxPitch : Float) :
    (velocityPlan power maxPitch).run = drawVelocity power maxPitch := by
  unfold velocityPlan drawVelocity
  rw [Plan.run]
  refine bind_congr fun yaw => ?_
  dsimp only
  split
  · rfl
  · rfl

theorem enact_argumentPlan (arguments : List (List Char)) :
    enact (argumentPlan arguments) = drawArgument arguments := by
  unfold argumentPlan drawArgument
  split
  · rfl
  · rfl

theorem enact_betweenPlan (arguments : List (List Char)) :
    enact (betweenPlan arguments) = drawBetween arguments := by
  match arguments with
  | [] => rfl
  | [_] => rfl
  | [first, second] =>
      rw [betweenPlan, drawBetween, enact_bind]
      refine bind_congr fun a => ?_
      rw [enact_bind]
      rfl
  | _ :: _ :: _ :: _ => rfl

theorem enact_velocityPlan (power maxPitch : Float) :
    enact (.ok ((velocityPlan power maxPitch).map (·.text.toList))) =
      (do return (← drawVelocity power maxPitch).text.toList : Resolver (List Char)) := by
  change (liftM ((velocityPlan power maxPitch).map _).run : Resolver (List Char)) = _
  rw [Plan.run_map, run_velocityPlan]
  rfl

theorem enact_velocityTextPlan (arguments : List (List Char)) :
    enact (velocityTextPlan arguments) = drawVelocityText arguments := by
  match arguments with
  | [] => exact enact_velocityPlan defaultPower defaultPitch
  | [_] => rfl
  | [first, second] =>
      rw [velocityTextPlan, drawVelocityText, enact_bind]
      refine bind_congr fun power => ?_
      rw [enact_bind]
      refine bind_congr fun maxPitch => ?_
      split
      · exact enact_velocityPlan power maxPitch
      · rfl
  | _ :: _ :: _ :: _ => rfl

/-- Each function is its check and then its plan. -/
theorem apply_eq_enact (f : Function) (arguments : List (List Char)) :
    f.apply arguments = enact (f.plan arguments) := by
  cases f with
  | random => exact (enact_argumentPlan arguments).symm
  | randomBetween => exact (enact_betweenPlan arguments).symm
  | randomVelocity => exact (enact_velocityTextPlan arguments).symm

section Checks

variable {argument : List Char}

theorem bound_of_some {n : Int} (h : int64? argument = some n) : bound argument = .ok n := by
  rw [bound, h]

theorem bound_of_none (h : int64? argument = none) : bound argument =
    .error (.malformedCall .randomBetween (.notInteger (String.ofList argument))) := by
  rw [bound, h]

theorem measure_of_some {x : Float} (h : finite? argument = some x) : measure argument = .ok x := by
  rw [measure, h]

theorem measure_of_none (h : finite? argument = none) : measure argument =
    .error (.malformedCall .randomVelocity (.notFinite (String.ofList argument))) := by
  rw [measure, h]

end Checks

theorem plan_of_refuses {f : Function} {arguments : List (List Char)}
    (refused : f.Refuses arguments) :
    ∃ fault, f.plan arguments = .error (.malformedCall f fault) := by
  cases f with
  | random =>
      cases refused
      exact ⟨_, rfl⟩
  | randomBetween =>
      match arguments with
      | [] => exact ⟨_, rfl⟩
      | [_] => exact ⟨_, rfl⟩
      | _ :: _ :: _ :: _ => exact ⟨_, rfl⟩
      | [first, second] =>
          change ∃ fault, betweenPlan [first, second] = _
          cases ha : int64? first with
          | none =>
              rw [betweenPlan, bound_of_none ha]
              exact ⟨_, rfl⟩
          | some a =>
              cases hb : int64? second with
              | none =>
                  rw [betweenPlan, bound_of_some ha, bound_of_none hb]
                  exact ⟨_, rfl⟩
              | some b => exact absurd ⟨first, second, a, b, rfl, ha, hb⟩ refused
  | randomVelocity =>
      obtain ⟨first, second, rfl, why⟩ := refused
      change ∃ fault, velocityTextPlan [first, second] = _
      cases hp : finite? first with
      | none =>
          rw [velocityTextPlan, measure_of_none hp]
          exact ⟨_, rfl⟩
      | some power =>
          cases hm : finite? second with
          | none =>
              rw [velocityTextPlan, measure_of_some hp, measure_of_none hm]
              exact ⟨_, rfl⟩
          | some maxPitch =>
              have unbounded : ¬(2 * maxPitch).isFinite = true := by
                rcases why with why | why | ⟨_, same, unbounded⟩
                · rw [hp] at why
                  cases why
                · rw [hm] at why
                  cases why
                · cases hm.symm.trans same
                  rw [unbounded]
                  decide
              rw [velocityTextPlan, measure_of_some hp, measure_of_some hm]
              exact ⟨_, if_neg unbounded⟩

/-- The bounds of the pitch are a number above zero and its opposite, and their distance is the
double that has been checked. -/
theorem velocityPlan_proper {power maxPitch : Float} (finite : maxPitch.isFinite = true)
    (bounded : (2 * maxPitch).isFinite = true) :
    (velocityPlan power maxPitch).Within Range.Proper := by
  have turn : (Range.real (-180) 180).Proper := by
    refine ⟨?_, ?_, ?_, ?_⟩ <;> decide +kernel
  refine ⟨turn, fun yaw => ?_⟩
  dsimp only
  split
  · rename_i above
    refine ⟨⟨neg_lt_self finite above, neg_isFinite finite above, finite, ?_⟩, fun _ => trivial⟩
    rw [sub_neg_self finite above]
    exact bounded
  · trivial

theorem plan_of_not_refuses {f : Function} {arguments : List (List Char)}
    (accepted : ¬f.Refuses arguments) :
    ∃ plan, f.plan arguments = .ok plan ∧ plan.Within Range.Proper := by
  cases f with
  | random =>
      have filled : ¬arguments.isEmpty = true := mt List.isEmpty_iff.mp accepted
      exact ⟨_, if_neg filled, List.length_pos_iff.mpr accepted, fun _ => trivial⟩
  | randomBetween =>
      obtain ⟨first, second, a, b, rfl, ha, hb⟩ := not_not.mp accepted
      have rangeA := int64?_range ha
      have rangeB := int64?_range hb
      change ∃ plan, betweenPlan [first, second] = _ ∧ _
      rw [betweenPlan, bound_of_some ha, bound_of_some hb]
      exact ⟨_, rfl, ⟨by omega, by omega, by omega⟩, fun _ => trivial⟩
  | randomVelocity =>
      match arguments with
      | [] =>
          refine ⟨_, rfl, (velocityPlan_proper ?_ ?_).map _⟩
          · decide +kernel
          · decide +kernel
      | [_] => exact ⟨_, rfl, trivial⟩
      | _ :: _ :: _ :: _ => exact ⟨_, rfl, trivial⟩
      | [first, second] =>
          change ∃ plan, velocityTextPlan [first, second] = _ ∧ _
          cases hp : finite? first with
          | none => exact absurd ⟨first, second, rfl, .inl hp⟩ accepted
          | some power =>
              cases hm : finite? second with
              | none => exact absurd ⟨first, second, rfl, .inr (.inl hm)⟩ accepted
              | some maxPitch =>
                  have bounded : (2 * maxPitch).isFinite = true := by
                    by_contra unbounded
                    apply accepted
                    have infinite := Bool.eq_false_of_not_eq_true unbounded
                    exact ⟨first, second, rfl, .inr (.inr ⟨maxPitch, hm, infinite⟩)⟩
                  have finite := (Option.filter_eq_some_iff.mp hm).2
                  rw [velocityTextPlan, measure_of_some hp, measure_of_some hm]
                  exact ⟨_, if_pos bounded, (velocityPlan_proper finite bounded).map _⟩

theorem draw_enact_ok (c : Context) (plan : Plan (List Char)) :
    ∃ text last, c.draw (enact (.ok plan)) = (.ok text, last) := ⟨_, _, rfl⟩

/-- A call of a function, in whatever context, fails with a complaint about that function if its
arguments are refused, and leaves the context alone. Otherwise it has a result, for which the source
was asked for proper ranges only. -/
theorem calls_exact (f : Function) (arguments : List (List Char)) (c : Context) :
    (∀ e last, c.draw (f.apply arguments) = (.error e, last) →
      last = c ∧ ∃ fault, e = .malformedCall f fault) ∧
    ((∃ e last, c.draw (f.apply arguments) = (.error e, last)) ↔ f.Refuses arguments) ∧
    (¬f.Refuses arguments → ∃ text last, c.draw (f.apply arguments) = (.ok text, last)) ∧
    (arguments.length ≠ 0 → arguments.length ≠ 2 →
      c.draw (Function.randomVelocity.apply arguments) = (.ok ['0'], c)) ∧
    f.apply arguments = enact (f.plan arguments) ∧
    ∀ plan, f.plan arguments = .ok plan → ∀ range ∈ plan.asked c.random, range.Proper := by
  have idle (some : arguments.length ≠ 0) (other : arguments.length ≠ 2) :
      c.draw (Function.randomVelocity.apply arguments) = (.ok ['0'], c) := by
    match arguments with
    | [] => exact absurd rfl some
    | [_] => rfl
    | [_, _] => exact absurd rfl other
    | _ :: _ :: _ :: _ => rfl
  rw [apply_eq_enact f]
  by_cases refused : f.Refuses arguments
  · obtain ⟨fault, failed⟩ := plan_of_refuses refused
    rw [failed]
    refine ⟨?_, ⟨fun _ => refused, fun _ => ⟨_, c, rfl⟩⟩, fun accepted => absurd refused accepted,
      idle, rfl, fun plan made => by cases made⟩
    intro e last h
    cases h
    exact ⟨rfl, fault, rfl⟩
  · obtain ⟨plan, made, proper⟩ := plan_of_not_refuses refused
    obtain ⟨text, last, drawn⟩ := draw_enact_ok c plan
    rw [made, drawn]
    refine ⟨fun e last h => (by cases h), ⟨?_, fun h => absurd h refused⟩,
      fun _ => ⟨text, last, rfl⟩, idle, rfl, ?_⟩
    · rintro ⟨e, last, h⟩
      cases h
    · intro plan' same
      cases same
      exact proper.asked c.random

/-- A pitch that is finite while its double is not; one argument, where none or two are wanted; and
bounds the wrong way round. -/
theorem calls_of_three :
    let c := Context.ofSeed ⟨⟨0, 64, 0⟩, none⟩ 1
    (∃ e, c.draw (Function.randomVelocity.apply [['1'], "1e308".toList]) = (.error e, c)) ∧
    c.draw (Function.randomVelocity.apply [['1']]) = (.ok ['0'], c) ∧
    ∃ text last, c.draw (Function.randomBetween.apply [['9'], ['-', '3']]) = (.ok text, last) := by
  intro c
  refine ⟨?_, ?_, ?_⟩
  · obtain ⟨kept, refused, _⟩ := calls_exact .randomVelocity [['1'], "1e308".toList] c
    have unbounded :
        finite? "1e308".toList = some 1e308 ∧ (2 * 1e308 : Float).isFinite = false := by
      decide +kernel
    obtain ⟨e, last, failed⟩ := refused.mpr ⟨_, _, rfl, .inr (.inr ⟨1e308, unbounded⟩)⟩
    obtain ⟨rfl, _⟩ := kept e last failed
    exact ⟨e, failed⟩
  · exact (calls_exact .random [['1']] c).2.2.2.1 (by decide) (by decide)
  · apply (calls_exact .randomBetween [['9'], ['-', '3']] c).2.2.1
    exact not_not.mpr ⟨_, _, 9, -3, rfl, by decide, by decide⟩

end Fortune.Template
