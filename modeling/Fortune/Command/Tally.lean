import Fortune.Command.Start
import Fortune.Command.Table

/-!
Tallies: draws from a pack, counted for each definition and set beside the share that its weight
promises.
-/
namespace Fortune.Command
open Decimal

structure Draws where
  pack : PackChoice := {}
  luck : Int := 0
  count : Nat := 1000
  seed : UInt64 := 42
deriving DecidableEq, Repr

structure TallyRow where
  definition : Definition
  share : Float
  hits : Nat
deriving Repr

structure Tally where
  draws : Draws
  rows : List TallyRow
deriving Repr

namespace Tally

/-- The rows of a registry after some definitions came up. -/
def rowsOf (r : Registry) (luck : Int) (drawn : List Definition) : List TallyRow :=
  let ids := drawn.map Definition.id
  List.zipWith (fun (id, definition) (_, share) => ⟨definition, share, ids.count id⟩)
    r.snapshot.random (r.shares luck)

def ofDraws (draws : Draws) (data : Option Tree) : Except Failure Tally := do
  let (engine, _) ← draws.pack.load draws.seed data
  let drawn ← (engine.selectMany draws.luck draws.count).1.mapError .outcome
  return ⟨draws, rowsOf engine.registry draws.luck drawn⟩

def observed (hits count : Nat) : Float :=
  if count = 0 then 0 else Float.ofNat hits / Float.ofNat count

def percent (x : Float) : String := String.ofList (tenthsText (x * 100)) ++ "%"

def header : List String := ["Outcome", "Luck", "Chance", "Expected", "Observed"]

def cells (count : Nat) (row : TallyRow) : List String :=
  let d := row.definition
  [d.id.text, String.ofList (intText d.effectiveLuck), String.ofList (floatText d.effectiveChance),
    percent row.share,
    percent (observed row.hits count) ++ " (" ++ String.ofList (natText row.hits) ++ ")"]

def title (draws : Draws) : String :=
  "  Draws (" ++ String.ofList (natText draws.count) ++ " draws, luck=" ++
    String.ofList (intText draws.luck) ++ ", seed=" ++
    String.ofList (natText draws.seed.toNat) ++ ")"

def lines (t : Tally) : List String :=
  title t.draws :: "" :: Table.lines header (t.rows.map (cells t.draws.count))

end Tally
end Fortune.Command
