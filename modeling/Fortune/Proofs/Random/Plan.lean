import Fortune.Random.Range

/-!
Plans of drawing. A plan asks for one sample after another from ranges, which may depend on the
samples before, and ends with a result. What the source is asked for in a run is so laid open, and
a range that is empty or unbounded can be excluded beforehand.
-/
namespace Fortune

/-- What a source can be asked for. -/
inductive Range where
  | index (size : Nat)
  | integer (lowest highest : Int)
  | real (lowest highest : Float)

namespace Range

abbrev Sample : Range → Type
  | .index _ => Nat
  | .integer _ _ => Int
  | .real _ _ => Float

def sample : (range : Range) → Draw range.Sample
  | .index size => Draw.index size
  | .integer lowest highest => Draw.integer lowest highest
  | .real lowest highest => Draw.real lowest highest

/-- There is something in the range, and it has an end on either side; the width of a range of
floats is finite too. -/
def Proper : Range → Prop
  | .index size => 0 < size
  | .integer lowest highest => least64 ≤ lowest ∧ lowest ≤ highest ∧ highest ≤ greatest64
  | .real lowest highest => lowest < highest ∧ lowest.isFinite = true ∧ highest.isFinite = true ∧
      (highest - lowest).isFinite = true

end Range

inductive Plan (α : Type) where
  | done (a : α)
  | ask (range : Range) (next : range.Sample → Plan α)

namespace Plan

variable {α β : Type}

def run : Plan α → Draw α
  | .done a => pure a
  | .ask range next => do (next (← range.sample)).run

/-- The ranges from which the run takes samples. -/
def asked : Plan α → Source → List Range
  | .done _, _ => []
  | .ask range next, source =>
    let (sample, rest) := range.sample source
    range :: (next sample).asked rest

/-- Whatever the samples are, the plan asks for such ranges only. -/
def Within (such : Range → Prop) : Plan α → Prop
  | .done _ => True
  | .ask range next => such range ∧ ∀ sample, (next sample).Within such

theorem Within.asked {such : Range → Prop} {plan : Plan α} (within : plan.Within such)
    (source : Source) : ∀ range ∈ plan.asked source, such range := by
  induction plan generalizing source with
  | done a => exact List.forall_mem_nil _
  | ask range next ih =>
      obtain ⟨here, later⟩ := within
      exact List.forall_mem_cons.mpr ⟨here, ih _ (later _) _⟩

def map (f : α → β) : Plan α → Plan β
  | .done a => .done (f a)
  | .ask range next => .ask range fun sample => (next sample).map f

theorem run_map (f : α → β) (plan : Plan α) : (plan.map f).run = do return f (← plan.run) := by
  induction plan with
  | done a => rfl
  | ask range next ih =>
      rw [map, run, run, bind_assoc]
      simp only [ih]

theorem Within.map {such : Range → Prop} {plan : Plan α} (within : plan.Within such)
    (f : α → β) : (plan.map f).Within such := by
  induction plan with
  | done a => trivial
  | ask range next ih => exact ⟨within.1, fun sample => ih sample (within.2 sample)⟩

end Plan
end Fortune
