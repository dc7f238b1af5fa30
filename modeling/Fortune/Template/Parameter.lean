import Fortune.Template.Error

/-!
The names that a placeholder may hold. Without an actor, names of the actor give an empty text, the
actor's place is the block, and distances and angles are zero.
-/
namespace Fortune.Template
open Decimal

/-- What a name stands for in a scene. -/
inductive Parameter where
  | text (value : Scene → String)
  | real (value : Scene → Float)
  | integer (value : Scene → Int)
  | drawn (value : Draw Int)

/-- The actor's value, or a default without one. -/
def ofActor {α : Type} (default : α) (value : Actor → α) (s : Scene) : α :=
  match s.actor with
  | some a => value a
  | none => default

def standingBlock (s : Scene) : Block := ofActor s.block Actor.block s

/-- The largest random colour; white alone is never drawn. -/
def greatestColor : Int := 0xFFFFFF - 1

namespace Parameter

def texts : List (String × Parameter) :=
  [("playerName", .text (ofActor "" Actor.name)),
   ("playerUUID", .text (ofActor "" fun a => a.uuid.text))]

def reals : List (String × Parameter) :=
  [("playerVecX", .real fun s => s.standpoint.x),
   ("playerVecY", .real fun s => s.standpoint.y),
   ("playerVecZ", .real fun s => s.standpoint.z),
   ("playerX", .real fun s => s.standpoint.x),
   ("playerY", .real fun s => s.standpoint.y),
   ("playerZ", .real fun s => s.standpoint.z),
   ("blockVecX", .real fun s => s.center.x),
   ("blockVecY", .real fun s => s.center.y),
   ("blockVecZ", .real fun s => s.center.z),
   ("blockX", .real fun s => s.center.x),
   ("blockY", .real fun s => s.center.y),
   ("blockZ", .real fun s => s.center.z),
   ("playerDistance", .real fun s => ofActor 0 (fun a => Point.distance a.pos s.center) s),
   ("playerSquaredDistance", .real fun s => ofActor 0 (fun a => a.pos.squaredDistance s.center) s),
   ("playerPitch", .real (ofActor 0 Actor.pitch)),
   ("playerYaw", .real (ofActor 0 Actor.yaw))]

def integers : List (String × Parameter) :=
  [("playerPosX", .integer fun s => (standingBlock s).x),
   ("playerPosY", .integer fun s => (standingBlock s).y),
   ("playerPosZ", .integer fun s => (standingBlock s).z),
   ("blockPosX", .integer fun s => s.block.x),
   ("blockPosY", .integer fun s => s.block.y),
   ("blockPosZ", .integer fun s => s.block.z),
   ("randomRGBColor", .drawn (Draw.integer 0 greatestColor))]

/-- The parameter of a name: texts before reals before integers. -/
def named? (name : String) : Option Parameter :=
  (texts ++ reals ++ integers).lookup name

def value (p : Parameter) (s : Scene) : Draw (List Char) :=
  match p with
  | .text f => return (f s).toList
  | .real f => return floatText (f s)
  | .integer f => return intText (f s)
  | .drawn act => return intText (← act)

def lookup? (name : String) (s : Scene) : Draw (Option (List Char)) :=
  match named? name with
  | none => return none
  | some p => return some (← p.value s)

end Parameter
end Fortune.Template
