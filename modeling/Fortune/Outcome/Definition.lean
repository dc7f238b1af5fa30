import Fortune.Document.Scalar
import Fortune.Document.Writer
import Fortune.Outcome.Error

/-!
Definitions: documents that have passed the checks of loading. Luck, chance and delay are read ahead
where they are plain numbers; where they are templates they are left out here and their defaults
stand in until the definition is resolved.
-/
namespace Fortune
open Document (member? asInt32? asFloat? asNat32?)

/-- An outcome as it was loaded, templates unresolved. -/
structure Definition where
  id : Identifier
  kind : Kind
  luck : Option Int
  chance : Option Float
  delay : Option Nat
  pos : Option String
  document : Document
deriving Repr, BEq

namespace Definition

def defaultLuck : Int := 0

def defaultChance : Float := 1

def effectiveLuck (d : Definition) : Int := d.luck.getD defaultLuck

/-- The chance that counts for selection. It may be zero or negative here. -/
def effectiveChance (d : Definition) : Float := d.chance.getD defaultChance

def membersOf : Document → Except Malformation (List (String × Document))
  | .object members => .ok members
  | _ => .error .notObject

def kindOf (members : List (String × Document)) : Except Malformation Kind :=
  match member? "type" members with
  | some (.string tag) =>
    match Kind.ofTag? tag with
    | some kind => .ok kind
    | none => .error (.unknownType tag)
  | some _ => .error .typeNotString
  | none => .error (.missing "type")

def checkPayload (kind : Kind) (members : List (String × Document)) : Except Malformation Unit :=
  match kind with
  | .effect =>
    match member? "status_effect" members with
    | some (.object effect) =>
      if (member? "id" effect).isSome then .ok () else .error .effectWithoutId
    | some _ => .error .effectNotObject
    | none => .error (.missing "status_effect")
  | .sound =>
    match member? "sound_event" members with
    | some (.string _) => .ok ()
    | some (.object event) =>
      if (member? "sound_id" event).isSome then .ok () else .error .soundUnfit
    | some _ => .error .soundUnfit
    | none => .error (.missing "sound_event")

/-- A coordinate as it stands: a string without its quotes, anything else as it is written. -/
def coordinateText : Document → List Char
  | .string s => s.toList
  | other => other.write

/-- The position as one text. An array needs three items. -/
def posText (members : List (String × Document)) : Except Malformation (Option String) :=
  match member? "pos" members with
  | none => .ok none
  | some .null => .ok none
  | some (.string s) => .ok (some s)
  | some (.array [x, y, z]) =>
    .ok (some (String.ofList
      (Point.joined (coordinateText x) (coordinateText y) (coordinateText z))))
  | some _ => .error .posUnfit

def ofDocument (id : Identifier) (document : Document) : Except Malformation Definition := do
  let members ← membersOf document
  let kind ← kindOf members
  checkPayload kind members
  let pos ← posText members
  return {
    id, kind, pos, document
    luck := (member? "luck" members).bind asInt32?
    chance := (member? "chance" members).bind asFloat?
    delay := (member? "delay" members).bind asNat32? }

def decode (id : Identifier) (document : Document) : Except Outcome.Error Definition :=
  (ofDocument id document).mapError (.malformed id)

end Definition
end Fortune
