import Fortune.Template.Error

/-!
The functions that a template may call. Arguments are checked before anything is drawn, so a call
that fails draws nothing.
-/
namespace Fortune.Template
open Decimal

/-- Launch power and largest deviation in degrees of a velocity without arguments. -/
def defaultPower : Float := 0.9

def defaultPitch : Float := 15

/-- Degrees to radians; the factor is rounded first. -/
def radians (degrees : Float) : Float := degrees * (3.141592653589793 / 180)

/-- A direction by its two angles in radians; a pitch of minus a right angle points up. -/
def heading (yaw pitch : Float) : Point :=
  ⟨-yaw.sin * pitch.cos, -pitch.sin, yaw.cos * pitch.cos⟩

/-- A velocity of a given power that deviates from straight up by at most `maxPitch` degrees. -/
def drawVelocity (power maxPitch : Float) : Draw Point := do
  let yaw := radians (← Draw.real (-180) 180)
  let deviation ← if 0 < maxPitch then Draw.real (-maxPitch) maxPitch else pure 0
  let pitch := radians (deviation - 90)
  return (heading yaw pitch).scale power

/-- One of the arguments, each as likely as the others. -/
def drawArgument (arguments : List (List Char)) : Resolver (List Char) :=
  if arguments.isEmpty then throw (.malformedCall .random .noArguments)
  else return arguments.getD (← Draw.index arguments.length) []

def bound (argument : List Char) : Except Error Int :=
  match int64? argument with
  | some n => .ok n
  | none => .error (.malformedCall .randomBetween (.notInteger (String.ofList argument)))

/-- An integer between two bounds, both included and in either order. -/
def drawBetween : List (List Char) → Resolver (List Char)
  | [first, second] => do
    let a ← (bound first : Except Error Int)
    let b ← (bound second : Except Error Int)
    return intText (← Draw.integer (min a b) (max a b))
  | arguments =>
    throw (.malformedCall .randomBetween (.notTwoArguments arguments.length))

def measure (argument : List Char) : Except Error Float :=
  match finite? argument with
  | some x => .ok x
  | none => .error (.malformedCall .randomVelocity (.notFinite (String.ofList argument)))

/-- A velocity as a vector text: of default power and pitch, or of given ones. With any other
number of arguments it is `0`. -/
def drawVelocityText : List (List Char) → Resolver (List Char)
  | [] => return (← drawVelocity defaultPower defaultPitch).text.toList
  | [first, second] => do
    let power ← (measure first : Except Error Float)
    let maxPitch ← (measure second : Except Error Float)
    if (2 * maxPitch).isFinite then
      return (← drawVelocity power maxPitch).text.toList
    else throw (.malformedCall .randomVelocity (.pitchOutOfRange maxPitch))
  | _ => return ['0']

def Function.apply (f : Function) (arguments : List (List Char)) : Resolver (List Char) :=
  match f with
  | .random => drawArgument arguments
  | .randomBetween => drawBetween arguments
  | .randomVelocity => drawVelocityText arguments

end Fortune.Template
