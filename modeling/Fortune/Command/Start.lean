import Fortune.Command.Report
import Fortune.Engine

/-! What commands begin with: an engine that holds a pack, and a context put together from texts. -/
namespace Fortune.Command

/-- Where a pack lies, and the path that reserves its outcomes for access by identifier. -/
structure PackChoice where
  path : String := "."
  reserved : String := defaultReserved
deriving DecidableEq, Repr

/-- An engine loaded with the pack, given what the entry `data` of its directory is. -/
def PackChoice.load (pack : PackChoice) (seed : UInt64) (data : Option Tree) :
    Except Failure (Engine × LoadReport) := do
  let documents ← (Pack.documents pack.path data).mapError .pack
  return (Engine.ofSettings ⟨seed, pack.reserved⟩).load documents

/-- A player by name, who stands at a given place or else in the middle of the block. -/
structure Player where
  name : String
  pos : Option String := none
deriving DecidableEq, Repr

def Player.actor (p : Player) (block : Block) (uuid : Uuid) : Except Failure Actor :=
  match p.pos with
  | none => return { name := p.name, uuid, pos := block.center }
  | some text => return { name := p.name, uuid, pos := ← (Point.parse text).mapError .position }

/-- A context in the block that holds the point of a text. -/
def contextAt (pos : String) (player : Option Player) (uuid : Uuid) (seed : UInt64) :
    Except Failure Context := do
  let block := Block.containing (← (Point.parse pos).mapError .position)
  let actor ← player.mapM fun p => p.actor block uuid
  return Context.ofSeed { block, actor } seed

end Fortune.Command
