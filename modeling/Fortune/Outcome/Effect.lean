import Fortune.Document.Scalar
import Fortune.Outcome.Error

/-! Status effects. -/
namespace Fortune
open Document (member? asInt32? asBool?)

/-- The level of an effect is one above its amplifier; the duration is in ticks. -/
structure StatusEffect where
  id : Identifier
  duration : Int := 1
  amplifier : Int := 0
  ambient : Bool := false
  showParticles : Bool := true
  showIcon : Bool := true
deriving DecidableEq, Repr

namespace StatusEffect

def integerField (members : List (String × Document)) (key : String) (default : Int) :
    Except Malformation Int :=
  match member? key members with
  | none => .ok default
  | some d =>
    match asInt32? d with
    | some n => .ok n
    | none => .error (.effectNotInteger key)

def flagField (members : List (String × Document)) (key : String) (default : Bool) :
    Except Malformation Bool :=
  match member? key members with
  | none => .ok default
  | some d =>
    match asBool? d with
    | some b => .ok b
    | none => .error (.effectNotBoolean key)

def ofMembers (members : List (String × Document)) : Except Malformation StatusEffect := do
  let id ←
    match member? "id" members with
    | some (.string s) => (Identifier.parse s).mapError .effectId
    | _ => throw .effectIdNotString
  let duration ← integerField members "duration" 1
  let amplifier ← integerField members "amplifier" 0
  let ambient ← flagField members "ambient" false
  let showParticles ← flagField members "show_particles" true
  let showIcon ← flagField members "show_icon" true
  return { id, duration, amplifier, ambient, showParticles, showIcon }

def ofOutcome (members : List (String × Document)) : Except Malformation StatusEffect :=
  match member? "status_effect" members with
  | some (.object effect) => ofMembers effect
  | _ => .error (.missing "status_effect")

end StatusEffect
end Fortune
