import Fortune.Arithmetic.Token
import Fortune.Scene

/-! What can go wrong in a template, and the computations in which it goes wrong. -/
namespace Fortune.Template

inductive Function where
  | random
  | randomBetween
  | randomVelocity
deriving DecidableEq, Repr

namespace Function

def name : Function → String
  | .random => "random"
  | .randomBetween => "randomBetween"
  | .randomVelocity => "randomVelocity"

/-- All functions, in the order in which their names are tried. -/
def all : List Function := [.random, .randomBetween, .randomVelocity]

def named? (name : String) : Option Function := all.find? fun f => f.name == name

end Function

inductive CallFault where
  | noArguments
  | notTwoArguments (found : Nat)
  | notInteger (argument : String)
  | notFinite (argument : String)
  | pitchOutOfRange (pitch : Float)
deriving Repr

def CallFault.message : CallFault → String
  | .noArguments => "expected at least 1 argument"
  | .notTwoArguments found =>
    "expected 2 arguments, found " ++ String.ofList (Decimal.natText found)
  | .notInteger argument => "'" ++ argument ++ "' is not an integer"
  | .notFinite argument => "'" ++ argument ++ "' is not a finite number"
  | .pitchOutOfRange pitch =>
    "maximum pitch " ++ String.ofList (Decimal.floatText pitch) ++ " is out of range"

inductive Error where
  | unknownParameter (name : String)
  | malformedCall (function : Function) (fault : CallFault)
  | arithmetic (expression : String) (fault : Arithmetic.Fault)
  /-- Calls kept bringing up new calls until the limit on passes was reached. -/
  | endlessCalls
deriving Repr

def Error.message : Error → String
  | .unknownParameter name => "unknown parameter: " ++ name
  | .malformedCall function fault =>
    "malformed call to " ++ function.name ++ "(): " ++ fault.message
  | .arithmetic expression fault =>
    "cannot evaluate \"" ++ expression ++ "\": " ++ fault.message
  | .endlessCalls => "calls expand without end"

/-- A computation that draws random words and may fail. Words drawn before a failure stay drawn. -/
abbrev Resolver := ExceptT Error Draw

end Fortune.Template
