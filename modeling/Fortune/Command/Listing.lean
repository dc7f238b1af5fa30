import Fortune.Command.Start
import Fortune.Command.Table

/-!
The listing of a pack: every definition with its partition, the counts of the load, and every
document left out.
-/
namespace Fortune.Command
open Decimal

/-- What is active after a load, and the report of the load. -/
structure Listing where
  snapshot : Snapshot
  report : LoadReport
deriving Repr

namespace Listing

def ofPack (pack : PackChoice) (data : Option Tree) : Except Failure Listing := do
  let (engine, report) ← pack.load 0 data
  return ⟨engine.registry.snapshot, report⟩

/-- The definitions that draws may bring up, then the others. -/
def rows (l : Listing) : List (Partition × Definition) :=
  l.snapshot.random.map (fun (_, d) => (.random, d)) ++
    l.snapshot.nonrandom.map fun (_, d) => (.nonrandom, d)

def header : List String := ["Outcome", "Partition", "Type", "Luck", "Chance", "Delay"]

/-- A delay that is not known beforehand is a hyphen. -/
def cells : Partition × Definition → List String
  | (p, d) =>
    [d.id.text, p.name, d.kind.name, String.ofList (intText d.effectiveLuck),
      String.ofList (floatText d.effectiveChance),
      match d.delay with
      | some delay => String.ofList (natText delay)
      | none => "-"]

def summary (r : LoadReport) : String :=
  "  " ++ String.ofList (natText (r.random + r.nonrandom)) ++ " outcomes (" ++
    String.ofList (natText r.random) ++ " random, " ++
    String.ofList (natText r.nonrandom) ++ " nonrandom)"

def skippedLines (r : LoadReport) : List String :=
  if r.skipped.isEmpty then []
  else
    ("  " ++ String.ofList (natText r.skipped.length) ++ " skipped") ::
      r.skipped.map fun s => "    " ++ s.id.text ++ " " ++ s.error.message

def lines (l : Listing) : List String :=
  if l.snapshot.size = 0 then ["  No outcomes found."]
  else Table.lines header (l.rows.map cells) ++ ["", summary l.report] ++ skippedLines l.report

end Listing
end Fortune.Command
