import Fortune.Keyed

/-!
Directory trees as plain data. The entries of a directory stand in increasing order of their names,
one for each name, and a name holds no slash; `WellFormed` says so.
-/
namespace Fortune

inductive Tree where
  /-- A file with its text; none if it cannot be read as text. -/
  | file (text : Option String)
  /-- A directory that cannot be listed, and why. -/
  | locked (why : String)
  | directory (entries : List (String × Tree))
deriving Repr

namespace Tree

/-- Fit for an entry: not empty, without slashes, and no way to the same directory or upward. -/
def FitName (name : String) : Prop :=
  name ≠ "" ∧ name ≠ "." ∧ name ≠ ".." ∧ '/' ∉ name.toList

mutual

/-- Every directory inside lists its entries in increasing order under fit names. -/
def WellFormed : Tree → Prop
  | .directory entries => Keyed.Increasing entries ∧ WellFormedEntries entries
  | _ => True

def WellFormedEntries : List (String × Tree) → Prop
  | [] => True
  | (name, t) :: rest => FitName name ∧ t.WellFormed ∧ WellFormedEntries rest

end

def isDirectory : Tree → Bool
  | .file _ => false
  | _ => true

def entry? (name : String) : Tree → Option Tree
  | .directory entries => Keyed.find? name entries
  | _ => none

/-- Puts another tree at a path and makes the directories on the way. -/
def insert : Tree → List String → Tree → Tree
  | _, [], leaf => leaf
  | t, name :: path, leaf =>
    let entries := match t with
      | .directory entries => entries
      | _ => []
    let inner := (Keyed.find? name entries).getD (.directory [])
    .directory (Keyed.insert name (inner.insert path leaf) entries)

/-- The parts of a path between slashes. Empty parts and single dots say nothing. -/
def parts (path : String) : List String :=
  ((path.toList.splitOn '/').map String.ofList).filter fun part => part != "" && part != "."

def follow : List Tree → Tree → List String → Option Tree
  | _, t, [] => some t
  | above, t, ".." :: rest =>
    match above with
    | parent :: above => if t.isDirectory then follow above parent rest else none
    | [] => none
  | above, t, name :: rest =>
    match t.entry? name with
    | some inner => follow (t :: above) inner rest
    | none => none

def at? (t : Tree) (path : String) : Option Tree :=
  if path.toList.head? == some '/' then none else follow [] t (parts path)

end Tree
end Fortune
