import Fortune.Ladder
import Fortune.Random.Range
import Fortune.Registry.Snapshot

/-! The registry: the active snapshot, looked up by identifier and drawn from by luck. -/
namespace Fortune

structure Registry where
  snapshot : Snapshot := {}
  reserved : String := defaultReserved

namespace Registry

def install (r : Registry) (s : Snapshot) : Registry := { r with snapshot := s }

def load (r : Registry) (documents : List (Identifier × Document)) : Registry × LoadReport :=
  let (s, report) := Snapshot.decode r.reserved documents
  (r.install s, report)

def randomIds (r : Registry) : List Identifier := r.snapshot.random.map Prod.fst

def nonrandomIds (r : Registry) : List Identifier := r.snapshot.nonrandom.map Prod.fst

def size (r : Registry) : Nat := r.snapshot.random.length

def ladder (r : Registry) (bias : Int) : Ladder Float :=
  Ladder.ofEntries
    (r.snapshot.random.map fun (_, d) => ⟨d.effectiveLuck, d.effectiveChance⟩) bias

/-- The definition that a draw from the unit interval picks. -/
def selectWith (r : Registry) (bias : Int) (draw : Float) : Except Outcome.Error Definition :=
  match (r.ladder bias).pick draw with
  | none => .error (.registryEmpty (some .random))
  | some i =>
    match r.snapshot.random[i]? with
    | some (_, d) => .ok d
    | none => .error (.registryEmpty (some .random))

/-- Draws a definition. Nothing is drawn from an empty partition. -/
def select (r : Registry) (bias : Int) : Draw (Except Outcome.Error Definition) :=
  if r.size = 0 then return .error (.registryEmpty (some .random))
  else return r.selectWith bias (← Draw.unit)

/-- Draws definitions behind those already drawn, which stand latest first. Stops at a failure. -/
def selectMore (r : Registry) (bias : Int) :
    Nat → List Definition → Draw (Except Outcome.Error (List Definition))
  | 0, drawn => return .ok drawn.reverse
  | count + 1, drawn => do
    match ← r.select bias with
    | .ok d => r.selectMore bias count (d :: drawn)
    | .error e => return .error e

def selectMany (r : Registry) (bias : Int) (count : Nat) :
    Draw (Except Outcome.Error (List Definition)) :=
  r.selectMore bias count []

def lookup (r : Registry) (id : Identifier) : Except Outcome.Error Definition :=
  if r.snapshot.size = 0 then .error (.registryEmpty none)
  else
    match r.snapshot.find? id with
    | some d => .ok d
    | none => .error (.unknownIdentifier id)

def shares (r : Registry) (bias : Int) : List (Identifier × Float) :=
  r.randomIds.zip (r.ladder bias).shares

end Registry
end Fortune
