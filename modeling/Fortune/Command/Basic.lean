import Fortune.Command.Listing
import Fortune.Command.Resolution
import Fortune.Command.Tally
import Fortune.Command.Trial

/-! The commands. -/
namespace Fortune

inductive Command where
  | list (pack : Command.PackChoice)
  | draw (draws : Command.Draws)
  | resolve (resolution : Command.Resolution)
  | run (trial : Command.Trial)
deriving DecidableEq, Repr

namespace Command

def directory? : Command → Option String
  | .list pack => some pack.path
  | .draw draws => some draws.pack.path
  | .resolve _ => none
  | .run trial => some trial.pack.path

def reportOf : Except Failure (List String) → Report
  | .ok lines => .success lines
  | .error why => .failure [] why

/-- Carries a command out, given what the entry `data` of its directory is and a number for the
player. -/
def perform (data : Option Tree) (uuid : Uuid) : Command → Report
  | .list pack => reportOf ((Listing.ofPack pack data).map Listing.lines)
  | .draw draws => reportOf ((Tally.ofDraws draws data).map Tally.lines)
  | .resolve resolution => reportOf ((resolution.text uuid).map fun text => [text])
  | .run trial =>
    match trial.run data uuid with
    | (lines, none) => .success (lines.map TrialLine.text)
    | (lines, some why) => .failure (lines.map TrialLine.text) why

end Command
end Fortune
