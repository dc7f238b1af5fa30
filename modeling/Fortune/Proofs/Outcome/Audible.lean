import Fortune.Host
import Fortune.Proofs.Decimal.Finite
import Fortune.Proofs.Outcome.WellFormed
import Mathlib.Analysis.InnerProductSpace.PiL2

/-!
Who hears a sound, in exact fractions. The squares that are compared forget the sign of the range,
so a range below zero carries as far as the same range above it; everywhere else the distance is
compared with the range.
-/
namespace Fortune
open Decimal

/-- The point of space with these coordinates. -/
noncomputable def Vec3.toSpace (v : Vec3 Rat) : EuclideanSpace ℝ (Fin 3) :=
  !₂[(v.x : ℝ), (v.y : ℝ), (v.z : ℝ)]

theorem Vec3.dist_sq (a b : Vec3 Rat) :
    dist a.toSpace b.toSpace ^ 2 = (a.squaredDistance b : ℝ) := by
  rw [EuclideanSpace.dist_eq, Real.sq_sqrt (Finset.sum_nonneg fun i _ => sq_nonneg _),
    Fin.sum_univ_three]
  simp [toSpace, squaredDistance, Real.dist_eq, pow_two]

/-! Ranges. -/

theorem audible_iff_abs {source listener : Vec3 Rat} {range : Rat} :
    audible source listener range = true ↔
      dist source.toSpace listener.toSpace ≤ |(range : ℝ)| := by
  rw [audible, decide_eq_true_eq, ← abs_of_nonneg (dist_nonneg (x := source.toSpace)), ← sq_le_sq,
    Vec3.dist_sq, pow_two]
  norm_cast

theorem audible_mono {source listener : Vec3 Rat} {near far : Rat} (wider : |near| ≤ |far|)
    (heard : audible source listener near = true) : audible source listener far = true := by
  have wider' : |(near : ℝ)| ≤ |(far : ℝ)| := by exact_mod_cast wider
  exact audible_iff_abs.mpr ((audible_iff_abs.mp heard).trans wider')

/-- Without a fixed range a sound carries sixteen blocks or more. -/
theorem le_audibleRange (volume : Rat) : 16 ≤ audibleRange none volume := by
  unfold audibleRange
  dsimp only
  split <;> linarith

theorem audibleRange_mono {volume louder : Rat} (more : volume ≤ louder) :
    audibleRange none volume ≤ audibleRange none louder := by
  unfold audibleRange
  dsimp only
  split <;> split <;> linarith

theorem audibleRange_neg_iff {fixed : Option Rat} {volume : Rat} :
    audibleRange fixed volume < 0 ↔ ∃ range, fixed = some range ∧ range < 0 := by
  cases fixed with
  | none =>
      have wide := le_audibleRange volume
      constructor
      · intro below
        linarith
      · rintro ⟨_, there, _⟩
        cases there
  | some range =>
      constructor
      · exact fun below => ⟨range, rfl, below⟩
      · rintro ⟨_, same, below⟩
        cases same
        exact below

namespace Outcome

/-- What a sound asks of a host. -/
theorem execute_sound {o : Outcome} {s : Sound} (sounds : o.action = .sound s) (c : Context)
    (h : Host) :
    ∃ seed, (o.execute c h).2 = h.receive [.sound
      { sound := s.event.id, pos := o.position c.toScene, volume := s.volume, pitch := s.pitch
        range := audibleRange s.event.range s.volume, seed }] := by
  refine ⟨(c.draw Draw.signed64).1, ?_⟩
  unfold execute perform
  rw [sounds]
  rfl

/-- Volume and range of an outcome's sound are finite, so they have exact values. -/
theorem exists_exact {d : Definition} {c last : Context} {o : Outcome} {s : Sound}
    (resolved : resolve d c = (.ok o, last)) (sounds : o.action = .sound s) :
    ∃ (volume : Rat) (fixed : Option Rat), (Binary64.ofFloat s.volume).toRat? = some volume ∧
      s.event.range.map (fun x => (Binary64.ofFloat x).toRat?) = fixed.map some := by
  obtain ⟨_, _, read⟩ := resolve_eq_ok_iff.mp resolved
  have fit := (ofDocument_wellFormed read).2.2.action
  rw [sounds] at fit
  obtain ⟨volume, loud⟩ := Binary64.exists_toRat? fit.volume
  cases range : s.event.range with
  | none => exact ⟨volume, none, loud, rfl⟩
  | some x =>
      obtain ⟨fixed, far⟩ := Binary64.exists_toRat? (fit.range x range)
      exact ⟨volume, some fixed, loud, congrArg some far⟩

/-- What a host is asked to play when an outcome's sound happens is heard, by the rule that is read
in exact fractions below. Within a range that is not below zero this is at a distance up to the
range. Below zero, which only a fixed range can be, it is at a distance up to the range without its
sign, although no distance is within the range. Without a fixed range a higher volume takes the
sound from nobody. -/
theorem audible_exact {d : Definition} {c last : Context} {o : Outcome} {s : Sound}
    (resolved : resolve d c = (.ok o, last)) (sounds : o.action = .sound s) :
    (∀ (now : Context) (host : Host), ∃ emission,
      (o.execute now host).2 = host.receive [.sound emission] ∧
      emission.pos = o.position now.toScene ∧ emission.volume = s.volume ∧
      emission.range = audibleRange s.event.range s.volume ∧
      ∀ listener, emission.audibleAt listener = audible emission.pos listener emission.range) ∧
    ∃ (volume : Rat) (fixed : Option Rat), (Binary64.ofFloat s.volume).toRat? = some volume ∧
      s.event.range.map (fun x => (Binary64.ofFloat x).toRat?) = fixed.map some ∧
      ∀ source listener : Vec3 Rat,
        let range := audibleRange fixed volume
        let away := dist source.toSpace listener.toSpace
        (0 ≤ range → (audible source listener range = true ↔ away ≤ range)) ∧
        (range < 0 → (audible source listener range = true ↔ away ≤ -range) ∧ range < away) ∧
        (range < 0 ↔ ∃ below, fixed = some below ∧ below < 0) ∧
        (fixed = none → ∀ louder, volume ≤ louder → audible source listener range = true →
          audible source listener (audibleRange none louder) = true) := by
  refine ⟨?_, ?_⟩
  · intro now host
    obtain ⟨seed, asked⟩ := execute_sound sounds now host
    exact ⟨_, asked, rfl, rfl, rfl, fun _ => rfl⟩
  · obtain ⟨volume, fixed, loud, far⟩ := exists_exact resolved sounds
    refine ⟨volume, fixed, loud, far, ?_⟩
    intro source listener range away
    refine ⟨?_, ?_, audibleRange_neg_iff, ?_⟩
    · intro above
      have above' : (0 : ℝ) ≤ range := by exact_mod_cast above
      rw [audible_iff_abs, abs_of_nonneg above']
    · intro below
      have below' : (range : ℝ) < 0 := by exact_mod_cast below
      rw [audible_iff_abs, abs_of_neg below']
      exact ⟨Iff.rfl, below'.trans_le dist_nonneg⟩
    · rintro rfl louder more heard
      have wide : 0 ≤ range := le_trans (by norm_num) (le_audibleRange volume)
      have wider : range ≤ audibleRange none louder := audibleRange_mono more
      exact audible_mono (abs_le_abs_of_nonneg wide wider) heard

/-- A sound at twice the volume is heard up to thirty-two blocks away. -/
theorem audible_of_volume :
    let document : Document :=
      .object [("sound_event", .string "bell"), ("type", .string "sound"), ("volume", .string "2")]
    let d : Definition :=
      { id := ⟨"luckbox", "bell"⟩, kind := .sound, luck := none, chance := none, delay := none
        pos := none, document }
    let c : Context := ⟨{ block := ⟨0, 64, 0⟩ }, ⟨fun _ => 0, 0⟩⟩
    let s : Sound := { event := { id := ⟨"minecraft", "bell"⟩ }, volume := 2 }
    let o : Outcome :=
      { id := ⟨"luckbox", "bell"⟩, luck := 0, chance := 1, delay := 0, pos := none
        action := .sound s }
    resolve d c = (.ok o, c) ∧ o.action = .sound s ∧
      ∀ source listener : Vec3 Rat, audible source listener 32 = true ↔
        dist source.toSpace listener.toSpace ≤ 32 := by
  intro document d c s o
  have whole := Document.draw_object
    (Document.draw_member "sound_event" (Document.draw_callFree "bell" "bell" c rfl rfl)
      (Document.draw_member "type" (Document.draw_callFree "sound" "sound" c rfl rfl)
        (Document.draw_member "volume" (Document.draw_callFree "2" "2" c rfl rfl)
          (Document.draw_bare c))))
  have resolved : resolve d c = (.ok o, c) := resolve_eq_ok_iff.mpr ⟨_, whole, rfl⟩
  obtain ⟨_, volume, fixed, loud, far, heard⟩ := audible_exact resolved rfl
  refine ⟨resolved, rfl, fun source listener => ?_⟩
  have value : (Binary64.ofFloat 2).toRat? = some 2 := by decide +kernel
  have two : volume = 2 := Option.some.inj (loud.symm.trans value)
  have free : fixed = none := Option.map_eq_none_iff.mp far.symm
  have range : audibleRange fixed volume = 32 := by
    rw [two, free]
    decide +kernel
  have within := (heard source listener).1
  rw [range] at within
  exact_mod_cast within (by norm_num)

/-- A range below zero is let through, and a listener farther away than the range hears the sound,
in floats as in fractions. -/
theorem audible_beyond_range :
    let document : Document :=
      .object [("pos", .string "0,0,0"),
        ("sound_event", .object [("range", .string "-4"), ("sound_id", .string "bell")]),
        ("type", .string "sound")]
    let d : Definition :=
      { id := ⟨"luckbox", "bell"⟩, kind := .sound, luck := none, chance := none, delay := none
        pos := some "0,0,0", document }
    let c : Context := ⟨{ block := ⟨0, 64, 0⟩ }, ⟨fun _ => 0, 0⟩⟩
    let s : Sound := { event := { id := ⟨"minecraft", "bell"⟩, range := some (-4) } }
    let o : Outcome :=
      { id := ⟨"luckbox", "bell"⟩, luck := 0, chance := 1, delay := 0, pos := some ⟨0, 0, 0⟩
        action := .sound s }
    Definition.decode ⟨"luckbox", "bell"⟩ document = .ok d ∧ resolve d c = (.ok o, c) ∧
      (∃ emission, (o.execute c {}).2.events = [.sound emission] ∧
        emission.audibleAt ⟨3, 0, 0⟩ = true) ∧
      (Binary64.ofFloat (-4)).toRat? = some (-4) ∧
      audible ⟨0, 0, 0⟩ ⟨3, 0, 0⟩ (audibleRange (some (-4 : Rat)) 1) = true ∧
      ((-4 : Rat) : ℝ) < dist (Vec3.toSpace ⟨0, 0, 0⟩) (Vec3.toSpace ⟨3, 0, 0⟩) := by
  intro document d c s o
  have event := Document.draw_object
    (Document.draw_member "range" (Document.draw_callFree "-4" "-4" c rfl rfl)
      (Document.draw_member "sound_id" (Document.draw_callFree "bell" "bell" c rfl rfl)
        (Document.draw_bare c)))
  have whole := Document.draw_object
    (Document.draw_member "pos" (Document.draw_callFree "0,0,0" "0,0,0" c rfl rfl)
      (Document.draw_member "sound_event" event
        (Document.draw_member "type" (Document.draw_callFree "sound" "sound" c rfl rfl)
          (Document.draw_bare c))))
  have resolved : resolve d c = (.ok o, c) := resolve_eq_ok_iff.mpr ⟨_, whole, rfl⟩
  obtain ⟨seed, asked⟩ := @execute_sound o s rfl c {}
  have away : (0 : ℝ) ≤ dist (Vec3.toSpace ⟨0, 0, 0⟩) (Vec3.toSpace ⟨3, 0, 0⟩) := dist_nonneg
  have heard : audible (⟨0, 0, 0⟩ : Point) ⟨3, 0, 0⟩ (-4) = true := by decide +kernel
  refine ⟨rfl, resolved, ⟨_, congrArg Host.events asked, heard⟩, by rfl, by decide +kernel, ?_⟩
  exact lt_of_lt_of_le (by norm_num) away

end Outcome
end Fortune
