import Fortune.Position
import Fortune.Random.Range
import Fortune.Text.Hexadecimal

/-!
The circumstances of an outcome: a block, perhaps an actor, and a random source. Only the source
changes while an outcome is resolved.
-/
namespace Fortune

structure Uuid where
  bits : BitVec 128
deriving DecidableEq, Repr

namespace Uuid
open Text (hexDigit hexValue?)

/-- The 32 digits, most significant first. -/
def digits (u : Uuid) : List Char :=
  (List.range 32).map fun i => hexDigit ((u.bits >>> (4 * (31 - i))).toNat % 16)

/-- The text in five groups of 8, 4, 4, 4 and 12 digits with hyphens between. -/
def text (u : Uuid) : String :=
  let d := u.digits
  String.ofList (d.take 8 ++ '-' :: (d.drop 8).take 4 ++ '-' :: (d.drop 12).take 4 ++
    '-' :: (d.drop 16).take 4 ++ '-' :: d.drop 20)

/-- Reads 32 hexadecimal digits; hyphens are passed over. -/
def parse? (text : String) : Option Uuid := do
  let values ← (text.toList.filter (· != '-')).mapM hexValue?
  if values.length == 32 then
    return ⟨BitVec.ofNat 128 (values.foldl (fun n d => 16 * n + d) 0)⟩
  else none

/-- Random bits as a number marked as random: its thirteenth digit is 4, and the seventeenth is one
of 8, 9, a and b. -/
def ofRandom (bits : BitVec 128) : Uuid :=
  let cleared := bits &&& ~~~((0xF : BitVec 128) <<< 76 ||| (0x3 : BitVec 128) <<< 62)
  ⟨cleared ||| (0x4 : BitVec 128) <<< 76 ||| (0x2 : BitVec 128) <<< 62⟩

end Uuid

/-- The one who set an outcome off, usually a player. Angles are in degrees. -/
structure Actor where
  name : String
  uuid : Uuid
  pos : Point
  yaw : Float := 0
  pitch : Float := 0
deriving Repr

def Actor.block (a : Actor) : Block := Block.containing a.pos

structure Scene where
  block : Block
  actor : Option Actor := none
deriving Repr

namespace Scene

def center (s : Scene) : Point := s.block.center

/-- Where the actor is; without one, the middle of the block. -/
def standpoint (s : Scene) : Point :=
  match s.actor with
  | some a => a.pos
  | none => s.center

end Scene

structure Context extends Scene where
  random : Source

namespace Context

/-- A scene whose random source is the one of a seed. -/
def ofSeed (scene : Scene) (seed : UInt64) : Context := ⟨scene, Source.ofSeed seed⟩

def draw {α : Type} (act : Draw α) (c : Context) : α × Context :=
  let (a, random) := act c.random
  (a, { c with random })

end Context

end Fortune
