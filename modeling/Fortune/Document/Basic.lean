import Fortune.Keyed

/-!
Documents: the values of JSON. The members of an object stand in increasing order of their keys, one
for each key; `Ordered` says so, and reading keeps to it.
-/
namespace Fortune

/-- A number of a document. Integers of 64 bits, signed or not, stay exact. -/
inductive Number where
  | integer (n : Int)
  | real (x : Float)
deriving Repr, BEq

inductive Document where
  | null
  | bool (b : Bool)
  | number (n : Number)
  | string (s : String)
  | array (items : List Document)
  | object (members : List (String × Document))
deriving Repr

namespace Document

mutual

/-- Equality of documents; numbers by value, an integer never like a float. -/
def same : Document → Document → Bool
  | .null, .null => true
  | .bool a, .bool b => a == b
  | .number a, .number b => a == b
  | .string a, .string b => a == b
  | .array as, .array bs => sameItems as bs
  | .object as, .object bs => sameMembers as bs
  | _, _ => false

def sameItems : List Document → List Document → Bool
  | [], [] => true
  | a :: as, b :: bs => a.same b && sameItems as bs
  | _, _ => false

def sameMembers : List (String × Document) → List (String × Document) → Bool
  | [], [] => true
  | (k, a) :: as, (l, b) :: bs => k == l && a.same b && sameMembers as bs
  | _, _ => false

end

instance : BEq Document := ⟨same⟩

mutual

/-- The members of every object inside stand in increasing order of their keys. -/
def Ordered : Document → Prop
  | .array items => OrderedItems items
  | .object members => Keyed.Increasing members ∧ OrderedMembers members
  | _ => True

def OrderedItems : List Document → Prop
  | [] => True
  | item :: rest => item.Ordered ∧ OrderedItems rest

def OrderedMembers : List (String × Document) → Prop
  | [] => True
  | (_, item) :: rest => item.Ordered ∧ OrderedMembers rest

end

end Document
end Fortune
