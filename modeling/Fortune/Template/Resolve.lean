import Fortune.Template.Function
import Fortune.Template.Substitution

/-!
Templates. Calls are expanded innermost first, pass after pass, until none is left; then the rest is
substituted. A pass replaces every innermost call of the text once.
-/
namespace Fortune.Template
open Text

structure Call where
  function : Function
  inside : List Char
deriving DecidableEq, Repr

def isParenthesis (c : Char) : Bool := c == '(' || c == ')'

/-- A call of a given function at the front of a text. There are no parentheses inside it. -/
def callOf? (f : Function) (text : List Char) : Option (Call × List Char) :=
  let name := f.name.toList
  if name.isPrefixOf text then
    match text.drop name.length with
    | '(' :: rest =>
      let inside := rest.takeWhile (!isParenthesis ·)
      match rest.dropWhile (!isParenthesis ·) with
      | ')' :: _ => some (⟨f, inside⟩, name ++ '(' :: inside ++ [')'])
      | _ => none
    | _ => none
  else none

/-- An innermost call whose name does not go on from the word before it. -/
def call? : Recogniser Call := fun before text =>
  if before.any isWord then none else Function.all.findSome? fun f => callOf? f text

/-- Arguments are separated by commas, trimmed and substituted; blank insides hold none. -/
def Call.arguments (scene : Scene) (c : Call) : Resolver (List (List Char)) :=
  if (trim c.inside).isEmpty then return []
  else (c.inside.splitOn ',').mapM fun argument => substitute scene (trim argument)

def Call.result (scene : Scene) (c : Call) : Resolver (List Char) := do
  c.function.apply (← c.arguments scene)

def hasCall (text : List Char) : Bool := (pieces call? text).any Piece.isFound

/-- Replaces every innermost call once. -/
def expandOnce (scene : Scene) (text : List Char) : Resolver (List Char) :=
  replaceFound (fun call _ => call.result scene) (pieces call? text)

/-- Replaces calls until none is left, in fewer than `passes` passes. -/
def expand (scene : Scene) : (passes : Nat) → List Char → Resolver (List Char)
  | 0, _ => throw .endlessCalls
  | passes + 1, text =>
    if hasCall text then do expand scene passes (← expandOnce scene text) else return text

/-- The passes granted to a text. A text whose values bring in no calls needs at most one pass for
each of its opening parentheses; the rest is for values that do. -/
def passLimit (text : List Char) : Nat := text.length + 1048576

def resolveText (scene : Scene) (text : List Char) : Resolver (List Char) := do
  substitute scene (← expand scene (passLimit text) text)

def resolve (template : String) (context : Context) : Except Error String × Context :=
  let act : Resolver String := do
    return String.ofList (← resolveText context.toScene template.toList)
  context.draw act

end Fortune.Template
