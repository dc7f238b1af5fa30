import Fortune.Document.Scalar
import Fortune.Outcome.Error

/-!
Sounds and how far they carry. Range and audibility are generic in the number type: they run on
floats and can be read on exact fractions.
-/
namespace Fortune
open Document (member? asFloat?)

/-- How far a sound carries: a fixed range, or sixteen blocks times the volume if that is above
one. -/
def audibleRange {α : Type} [LT α] [DecidableLT α] [Mul α] [OfNat α 1] [OfNat α 16]
    (fixed : Option α) (volume : α) : α :=
  match fixed with
  | some range => range
  | none => 16 * (if 1 < volume then volume else 1)

/-- A listener hears a sound when the square of the distance is within the square of the range. -/
def audible {α : Type} [Add α] [Sub α] [Mul α] [LE α] [DecidableLE α]
    (source listener : Vec3 α) (range : α) : Bool :=
  source.squaredDistance listener ≤ range * range

structure SoundEvent where
  id : Identifier
  range : Option Float := none
deriving Repr, BEq

structure Sound where
  event : SoundEvent
  volume : Float := 1
  pitch : Float := 1
deriving Repr, BEq

/-- A sound as the host plays it. The seed varies it among listeners. -/
structure Emission where
  sound : Identifier
  pos : Point
  volume : Float
  pitch : Float
  range : Float
  seed : Int64
deriving Repr

def Emission.audibleAt (e : Emission) (listener : Point) : Bool :=
  audible e.pos listener e.range

namespace SoundEvent

def audibleRange (e : SoundEvent) (volume : Float) : Float := Fortune.audibleRange e.range volume

def ofValue : Document → Except Malformation SoundEvent
  | .string s => return ⟨← (Identifier.parse s).mapError .soundId, none⟩
  | .object event =>
    match member? "sound_id" event with
    | some (.string s) => do
      let range ←
        match member? "range" event with
        | none => pure none
        | some .null => pure none
        | some d =>
          match asFloat? d with
          | some x => pure (some x)
          | none => throw .soundRangeNotNumber
      return ⟨← (Identifier.parse s).mapError .soundId, range⟩
    | _ => .error .soundIdNotString
  | _ => .error .soundInvalid

end SoundEvent

namespace Sound

def numberField (members : List (String × Document)) (key : String) : Except Malformation Float :=
  match member? key members with
  | none => .ok 1
  | some d =>
    match asFloat? d with
    | some x => .ok x
    | none => .error (.notNumber key)

def ofOutcome (members : List (String × Document)) : Except Malformation Sound := do
  let event ←
    match member? "sound_event" members with
    | some value => SoundEvent.ofValue value
    | none => throw (.missing "sound_event")
  let volume ← numberField members "volume"
  let pitch ← numberField members "pitch"
  return { event, volume, pitch }

end Sound
end Fortune
