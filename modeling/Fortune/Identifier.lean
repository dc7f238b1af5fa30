/-!
Namespaced identifiers such as `luckbox:nonrandom/thunder`. A text without a colon lies in the
namespace `minecraft`. Identifiers are ordered by namespace, then path, both bytewise.
-/
namespace Fortune

structure Identifier where
  scope : String
  path : String
deriving DecidableEq, Repr

namespace Identifier

/-- Why a namespace and a path make no identifier. -/
inductive Fault where
  | emptyScope
  | emptyPath
  | scopeChar (c : Char)
  | pathChar (c : Char)
deriving DecidableEq, Repr

structure Error where
  input : String
  fault : Fault
deriving DecidableEq, Repr

def Fault.message : Fault → String
  | .emptyScope => "empty namespace"
  | .emptyPath => "empty path"
  | .scopeChar c => "'" ++ c.toString ++ "' is not allowed in a namespace"
  | .pathChar c => "'" ++ c.toString ++ "' is not allowed in a path"

def Error.message (e : Error) : String :=
  "invalid identifier \"" ++ e.input ++ "\": " ++ e.fault.message

def isScopeChar (c : Char) : Bool :=
  ('a' ≤ c && c ≤ 'z') || ('0' ≤ c && c ≤ '9') || c == '_' || c == '.' || c == '-'

/-- A path may also hold slashes. -/
def isPathChar (c : Char) : Bool := isScopeChar c || c == '/'

/-- Both parts are non-empty and keep to their alphabets. -/
def Valid (id : Identifier) : Prop :=
  id.scope ≠ "" ∧ id.path ≠ "" ∧ (∀ c ∈ id.scope.toList, isScopeChar c = true) ∧
    ∀ c ∈ id.path.toList, isPathChar c = true

/-- The first fault of the two parts: emptiness before characters, namespace before path. -/
def fault? (scope path : String) : Option Fault :=
  if scope.isEmpty then some .emptyScope
  else if path.isEmpty then some .emptyPath
  else
    match scope.toList.find? (!isScopeChar ·), path.toList.find? (!isPathChar ·) with
    | some c, _ => some (.scopeChar c)
    | none, some c => some (.pathChar c)
    | none, none => none

def ofParts (scope path : String) : Except Error Identifier :=
  match fault? scope path with
  | some fault => .error ⟨scope ++ ":" ++ path, fault⟩
  | none => .ok ⟨scope, path⟩

def defaultScope : String := "minecraft"

def parse (text : String) : Except Error Identifier :=
  match text.toList.span (· != ':') with
  | (scope, ':' :: path) => ofParts (String.ofList scope) (String.ofList path)
  | _ => ofParts defaultScope text

def text (id : Identifier) : String := id.scope ++ ":" ++ id.path

/-- Namespaces decide, paths break their ties. -/
def before (a b : Identifier) : Bool :=
  decide (a.scope < b.scope) || (a.scope == b.scope && decide (a.path < b.path))

instance : LT Identifier := ⟨fun a b => a.before b = true⟩

instance : DecidableLT Identifier := fun a b => inferInstanceAs (Decidable (a.before b = true))

end Identifier
end Fortune
