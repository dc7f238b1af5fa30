import Fortune.Outcome.Definition

/-!
Snapshots: one generation of loaded definitions in two partitions, each in the order of identifiers.
Documents that make no definition are reported and left out; of several documents of one identifier
the last that makes one counts.
-/
namespace Fortune

structure Skipped where
  id : Identifier
  error : Outcome.Error
deriving Repr

structure LoadReport where
  random : Nat
  nonrandom : Nat
  skipped : List Skipped
deriving Repr

structure Snapshot where
  random : List (Identifier × Definition) := []
  nonrandom : List (Identifier × Definition) := []
deriving Repr, BEq

/-- The path that reserves a definition for access by identifier begins so. -/
def defaultReserved : String := "nonrandom/"

namespace Snapshot

/-- Where an identifier belongs: its path begins with the reserved text, or it is drawn. -/
def partitionOf (reserved : String) (id : Identifier) : Partition :=
  if reserved.toList.isPrefixOf id.path.toList then .nonrandom else .random

def insert (reserved : String) (s : Snapshot) (d : Definition) : Snapshot :=
  match partitionOf reserved d.id with
  | .random => { s with random := Keyed.insert d.id d s.random }
  | .nonrandom => { s with nonrandom := Keyed.insert d.id d s.nonrandom }

/-- The definitions that some documents make, and the documents that make none, in order. -/
def sort (documents : List (Identifier × Document)) : List Definition × List Skipped :=
  documents.foldr (fun (id, document) (made, skipped) =>
    match Definition.decode id document with
    | .ok d => (d :: made, skipped)
    | .error e => (made, ⟨id, e⟩ :: skipped)) ([], [])

def decode (reserved : String) (documents : List (Identifier × Document)) :
    Snapshot × LoadReport :=
  let (made, skipped) := sort documents
  let s := made.foldl (insert reserved) {}
  (s, ⟨s.random.length, s.nonrandom.length, skipped⟩)

def find? (s : Snapshot) (id : Identifier) : Option Definition :=
  match Keyed.find? id s.nonrandom with
  | some d => some d
  | none => Keyed.find? id s.random

def size (s : Snapshot) : Nat := s.random.length + s.nonrandom.length

end Snapshot
end Fortune
