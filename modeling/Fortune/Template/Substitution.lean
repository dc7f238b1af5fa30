import Fortune.Arithmetic.Expression
import Fortune.Template.Parameter

/-!
The passes over a text without calls: placeholders get their values, numerals lose their quotes,
arithmetic chains are computed, and numerals lose their quotes again. Each pass is one scan from
left to right; what it puts in is not scanned again by the same pass.
-/
namespace Fortune.Template
open Text

def placeholder? : Recogniser (List Char)
  | _, '\x7b' :: rest =>
    let name := rest.takeWhile isWord
    match rest.dropWhile isWord with
    | '\x7d' :: _ => if name.isEmpty then none else some (name, '\x7b' :: name ++ ['\x7d'])
    | _ => none
  | _, _ => none

def quotedNumeral? : Recogniser SignedNumeral
  | _, '"' :: rest =>
    match SignedNumeral.scan rest with
    | some (n, '"' :: _) => some (n, '"' :: n.text ++ ['"'])
    | _ => none
  | _, _ => none

def isOperator (c : Char) : Bool := c == '*' || c == '/' || c == '+' || c == '-'

/-- The longest sequence of an operator and a signed numeral, again and again, at the front of a
text. Each round takes at least two characters; `fuel` bounds the rounds. -/
def chainTail : Nat → List Char → List Char
  | fuel + 1, c :: rest =>
    if isOperator c then
      match SignedNumeral.scan rest with
      | some (n, more) => c :: n.text ++ chainTail fuel more
      | none => []
    else []
  | _, _ => []

/-- Two or more signed numerals with operators between. -/
def chainText? (text : List Char) : Option (List Char) :=
  match SignedNumeral.scan text with
  | none => none
  | some (n, rest) =>
    let tail := chainTail rest.length rest
    if tail.isEmpty then none else some (n.text ++ tail)

/-- A chain, found together with whether it touches a letter, digit, underscore or point and so is
part of something longer. -/
def chain? : Recogniser Bool := fun before text =>
  (chainText? text).map fun lexeme =>
    (before.any isToken || (text.drop lexeme.length).head?.any isToken, lexeme)

def fill (scene : Scene) (text : List Char) : Resolver (List Char) :=
  replaceFound (fun name _ => do
    match ← Parameter.lookup? (String.ofList name) scene with
    | some value => return value
    | none => throw (.unknownParameter (String.ofList name))) (pieces placeholder? text)

/-- Takes the quotes off numerals. -/
def unquote (text : List Char) : List Char :=
  Id.run (replaceFound (fun n _ => pure n.text) (pieces quotedNumeral? text))

def compute (text : List Char) : Except Error (List Char) :=
  replaceFound (fun glued lexeme =>
    if glued then pure lexeme
    else
      match Arithmetic.evaluate lexeme with
      | .ok value => pure (Decimal.floatText value)
      | .error fault => throw (.arithmetic (String.ofList lexeme) fault)) (pieces chain? text)

/-- All passes, in their order. -/
def substitute (scene : Scene) (text : List Char) : Resolver (List Char) := do
  let filled ← fill scene text
  let computed ← (compute (unquote filled) : Except Error (List Char))
  return unquote computed

end Fortune.Template
