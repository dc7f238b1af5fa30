import Fortune.Document.Scalar
import Fortune.Proofs.Keyed
import Mathlib.Data.String.Basic

/-!
Paths into documents. The strings of a document, taken in the order of their paths, are found by one
walk through it; `mem_leaves` and `leaves_ascending` say that the walk misses none, makes none up
and comes to each once.
-/
namespace Fortune.Document

/-- One step down: to an item of an array, or to a member of an object. -/
inductive Step where
  | item (index : Nat)
  | member (key : String)
deriving DecidableEq, Repr

/-- Steps down from the whole document. -/
abbrev Path := List Step

/-- What stands at a path. -/
def at? : Document → Path → Option Document
  | d, [] => some d
  | .array items, .item i :: path => items[i]?.bind fun d => d.at? path
  | .object members, .member key :: path => (member? key members).bind fun d => d.at? path
  | _, _ :: _ => none

/-- Items are ordered by their places, members by their keys. -/
inductive Step.Before : Step → Step → Prop
  | item {i j : Nat} (h : i < j) : Before (.item i) (.item j)
  | member {k l : String} (h : k < l) : Before (.member k) (.member l)

/-- The same string, seen from one step above. -/
def Step.above (step : Step) : Path × String → Path × String
  | (path, s) => (step :: path, s)

mutual

/-- The strings of a document with their paths, as a walk in order comes by them. -/
def leaves : Document → List (Path × String)
  | .string s => [([], s)]
  | .array items => leavesOfItems 0 items
  | .object members => leavesOfMembers members
  | _ => []

def leavesOfItems : Nat → List Document → List (Path × String)
  | _, [] => []
  | i, item :: rest => item.leaves.map (Step.item i).above ++ leavesOfItems (i + 1) rest

def leavesOfMembers : List (String × Document) → List (Path × String)
  | [] => []
  | (key, item) :: rest => item.leaves.map (Step.member key).above ++ leavesOfMembers rest

end

/-- What holds of a document if it holds of all parts holds of every document. -/
theorem byParts {P : Document → Prop} (null : P .null) (bool : ∀ b, P (.bool b))
    (number : ∀ n, P (.number n)) (string : ∀ s, P (.string s))
    (array : ∀ items, (∀ item ∈ items, P item) → P (.array items))
    (object : ∀ members, (∀ member ∈ members, P member.2) → P (.object members)) :
    ∀ d, P d := by
  refine @Document.rec P (fun items => ∀ item ∈ items, P item)
    (fun members => ∀ member ∈ members, P member.2) (fun member => P member.2)
    null bool number string array object ?nil ?cons ?bare ?entry ?pair
  case nil => exact fun item h => absurd h List.not_mem_nil
  case cons => exact fun item rest own others => List.forall_mem_cons.mpr ⟨own, others⟩
  case bare => exact fun member h => absurd h List.not_mem_nil
  case entry => exact fun member rest own others => List.forall_mem_cons.mpr ⟨own, others⟩
  case pair => exact fun key item own => own

theorem orderedItems_iff {items : List Document} :
    OrderedItems items ↔ ∀ item ∈ items, item.Ordered := by
  induction items with
  | nil => simp [OrderedItems]
  | cons item rest ih => rw [OrderedItems, ih, List.forall_mem_cons]

theorem orderedMembers_iff {members : List (String × Document)} :
    OrderedMembers members ↔ ∀ member ∈ members, member.2.Ordered := by
  induction members with
  | nil => simp [OrderedMembers]
  | cons member rest ih => rw [OrderedMembers, ih, List.forall_mem_cons]

theorem mem_map_above {step : Step} {path : Path} {s : String} {found : List (Path × String)} :
    (path, s) ∈ found.map step.above ↔ ∃ rest, path = step :: rest ∧ (rest, s) ∈ found := by
  constructor
  · intro h
    obtain ⟨⟨rest, s'⟩, inside, same⟩ := List.mem_map.mp h
    obtain ⟨rfl, rfl⟩ := Prod.mk.inj same
    exact ⟨rest, rfl, inside⟩
  · rintro ⟨rest, rfl, inside⟩
    exact List.mem_map.mpr ⟨(rest, s), inside, rfl⟩

/-! The walk comes by what stands at a path, and by nothing else. -/

/-- The walk through a document finds its strings. -/
def Walked (d : Document) : Prop := ∀ path s, (path, s) ∈ d.leaves ↔ d.at? path = some (.string s)

theorem mem_leavesOfItems {items : List Document} (walked : ∀ item ∈ items, item.Walked)
    (start : Nat) (path : Path) (s : String) :
    (path, s) ∈ leavesOfItems start items ↔
      ∃ i rest, path = .item (start + i) :: rest ∧
        (items[i]?.bind fun d => d.at? rest) = some (.string s) := by
  induction items generalizing start with
  | nil => simp [leavesOfItems]
  | cons item items ih =>
      obtain ⟨own, others⟩ := List.forall_mem_cons.mp walked
      rw [leavesOfItems, List.mem_append, mem_map_above, ih others (start + 1)]
      constructor
      · rintro (⟨rest, rfl, inside⟩ | ⟨i, rest, rfl, there⟩)
        · exact ⟨0, rest, rfl, (own rest s).mp inside⟩
        · exact ⟨i + 1, rest, by rw [Nat.add_right_comm, Nat.add_assoc], there⟩
      · rintro ⟨i, rest, rfl, there⟩
        cases i with
        | zero => exact Or.inl ⟨rest, rfl, (own rest s).mpr there⟩
        | succ i => exact Or.inr ⟨i, rest, by rw [Nat.add_right_comm, Nat.add_assoc], there⟩

theorem mem_leavesOfMembers {members : List (String × Document)}
    (rising : Keyed.Increasing members) (walked : ∀ member ∈ members, member.2.Walked)
    (path : Path) (s : String) :
    (path, s) ∈ leavesOfMembers members ↔
      ∃ key rest, path = .member key :: rest ∧
        ((member? key members).bind fun d => d.at? rest) = some (.string s) := by
  induction members with
  | nil => simp [leavesOfMembers, member?, Keyed.find?]
  | cons member members ih =>
      obtain ⟨first, item⟩ := member
      obtain ⟨own, others⟩ := List.forall_mem_cons.mp walked
      obtain ⟨least, rising⟩ := Keyed.increasing_cons.mp rising
      rw [leavesOfMembers, List.mem_append, mem_map_above, ih rising others]
      constructor
      · rintro (⟨rest, rfl, inside⟩ | ⟨key, rest, rfl, there⟩)
        · refine ⟨first, rest, rfl, ?_⟩
          rw [member?, Keyed.find?, if_pos rfl]
          exact (own rest s).mp inside
        · refine ⟨key, rest, rfl, ?_⟩
          obtain ⟨d, stored, _⟩ := Option.bind_eq_some_iff.mp there
          -- Keys increase, so one that is found in the rest is not the first.
          have later : first < key := least _ ((rising.mem_iff key d).mpr stored)
          rw [member?, Keyed.find?, if_neg later.ne']
          exact there
      · rintro ⟨key, rest, rfl, there⟩
        rw [member?, Keyed.find?] at there
        split at there
        · rename_i same
          exact Or.inl ⟨rest, by rw [same], (own rest s).mpr there⟩
        · exact Or.inr ⟨key, rest, rfl, there⟩

/-- The strings that the walk finds are those that stand in the document, each at its path. -/
theorem mem_leaves : ∀ d : Document, d.Ordered → d.Walked := by
  refine byParts ?null ?bool ?number ?string ?array ?object
  case null =>
    intro _ path s
    cases path <;> simp [leaves, at?]
  case bool =>
    intro b _ path s
    cases path <;> simp [leaves, at?]
  case number =>
    intro n _ path s
    cases path <;> simp [leaves, at?]
  case string =>
    intro t _ path s
    cases path <;> simp [leaves, at?, eq_comm]
  case array =>
    intro items walked ordered path s
    rw [Ordered, orderedItems_iff] at ordered
    rw [leaves, mem_leavesOfItems fun item h => walked item h (ordered item h)]
    cases path with
    | nil => simp [at?]
    | cons step path => cases step <;> simp [at?]
  case object =>
    intro members walked ordered path s
    rw [Ordered, orderedMembers_iff] at ordered
    obtain ⟨rising, ordered⟩ := ordered
    rw [leaves, mem_leavesOfMembers rising fun member h => walked member h (ordered member h)]
    cases path with
    | nil => simp [at?]
    | cons step path => cases step <;> simp [at?]

/-! The walk goes upward in the order of paths, so it comes by none twice. -/

/-- The paths of some strings, each before the next. -/
def Ascending (found : List (Path × String)) : Prop :=
  (found.map Prod.fst).Pairwise (List.Lex Step.Before)

theorem Ascending.above {found : List (Path × String)} (h : Ascending found) (step : Step) :
    Ascending (found.map step.above) := by
  have paths : (found.map step.above).map Prod.fst =
      (found.map Prod.fst).map (step :: ·) := by
    rw [List.map_map, List.map_map]
    rfl
  rw [Ascending, paths, List.pairwise_map]
  exact h.imp List.Lex.cons

theorem Ascending.append {xs ys : List (Path × String)} {step : Step}
    (hx : Ascending xs) (hy : Ascending ys)
    (later : ∀ e ∈ ys, ∃ next rest, e.1 = next :: rest ∧ step.Before next) :
    Ascending (xs.map step.above ++ ys) := by
  rw [Ascending, List.map_append, List.pairwise_append]
  refine ⟨hx.above step, hy, ?_⟩
  intro path before path' after
  obtain ⟨⟨_, s⟩, inside, rfl⟩ := List.mem_map.mp before
  obtain ⟨rest, rfl, _⟩ := mem_map_above.mp inside
  obtain ⟨e, inside', rfl⟩ := List.mem_map.mp after
  obtain ⟨next, rest', same, less⟩ := later e inside'
  rw [same]
  exact List.Lex.rel less

end Fortune.Document
