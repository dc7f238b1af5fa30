import Fortune.Identifier
import Fortune.Template.Error

/-! What can go wrong between a document and an outcome. -/
namespace Fortune

/-- What an outcome does: give the actor a status effect, or play a sound. -/
inductive Kind where
  | effect
  | sound
deriving DecidableEq, Repr

namespace Kind

def name : Kind → String
  | .effect => "effect"
  | .sound => "sound"

def ofTag? (tag : String) : Option Kind :=
  let name := (tag.toList.reverse.takeWhile (· != ':')).reverse
  if name == Kind.effect.name.toList then some .effect
  else if name == Kind.sound.name.toList then some .sound
  else none

end Kind

/-- The two parts of a registry: outcomes that draws may bring up, and outcomes reached only by
their identifier. -/
inductive Partition where
  | random
  | nonrandom
deriving DecidableEq, Repr

def Partition.name : Partition → String
  | .random => "random"
  | .nonrandom => "nonrandom"

inductive Malformation where
  | notObject
  | missing (field : String)
  | typeNotString
  | unknownType (tag : String)
  | effectNotObject
  | effectWithoutId
  | soundUnfit
  | posUnfit
  | delayNotNatural
  | posNotVector (error : Point.Error)
  | posNotNumbers
  | posInvalid
  | effectIdNotString
  | effectId (error : Identifier.Error)
  | effectNotInteger (field : String)
  | effectNotBoolean (field : String)
  | soundIdNotString
  | soundId (error : Identifier.Error)
  | soundRangeNotNumber
  | soundInvalid
  | notNumber (field : String)
deriving DecidableEq, Repr

def Malformation.message : Malformation → String
  | .notObject => "expected a JSON object"
  | .missing field => "missing '" ++ field ++ "'"
  | .typeNotString => "'type' must be a string"
  | .unknownType tag => "unknown type '" ++ tag ++ "'"
  | .effectNotObject => "'status_effect' must be an object"
  | .effectWithoutId => "'status_effect' is missing 'id'"
  | .soundUnfit => "'sound_event' must be an id or an object with 'sound_id'"
  | .posUnfit => "'pos' must be an \"x,y,z\" string or a 3-element array"
  | .delayNotNatural => "'delay' must be a non-negative integer"
  | .posNotVector error => "'pos': " ++ error.message
  | .posNotNumbers => "'pos' must have three numbers"
  | .posInvalid => "invalid 'pos'"
  | .effectIdNotString => "status effect needs a string 'id'"
  | .effectId error => "status effect id: " ++ error.message
  | .effectNotInteger field => "status effect '" ++ field ++ "' must be an integer"
  | .effectNotBoolean field => "status effect '" ++ field ++ "' must be a boolean"
  | .soundIdNotString => "sound event needs a string 'sound_id'"
  | .soundId error => "sound id: " ++ error.message
  | .soundRangeNotNumber => "sound event 'range' must be a number"
  | .soundInvalid => "invalid 'sound_event'"
  | .notNumber field => "'" ++ field ++ "' must be a number"

inductive Outcome.Error where
  /-- Nothing is loaded in a partition, or anywhere. -/
  | registryEmpty (partition : Option Partition)
  | unknownIdentifier (id : Identifier)
  | malformed (id : Identifier) (why : Malformation)
  | template (error : Template.Error)
deriving Repr

def Outcome.Error.message : Outcome.Error → String
  | .registryEmpty none => "no outcomes loaded"
  | .registryEmpty (some p) => "no outcomes loaded in the " ++ p.name ++ " partition"
  | .unknownIdentifier id => "outcome '" ++ id.text ++ "' does not exist"
  | .malformed id why => "malformed outcome '" ++ id.text ++ "': " ++ why.message
  | .template error => error.message

end Fortune
