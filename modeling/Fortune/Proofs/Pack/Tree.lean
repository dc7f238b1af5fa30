import Fortune.Pack.Tree
import Fortune.Proofs.Keyed
import Mathlib.Data.List.Nodup
import Mathlib.Data.String.Basic

/-!
Paths into directory trees. A walk through a well-formed tree comes by every file and every
directory that cannot be listed, each once, with the path of names that leads there.
-/
namespace Fortune.Tree

def below? : Tree → List String → Option Tree
  | t, [] => some t
  | t, name :: path => (t.entry? name).bind fun inner => inner.below? path

/-- Nothing is listed inside. -/
def IsLeaf : Tree → Prop
  | .directory _ => False
  | _ => True

/-- The same thing, seen from the directory above. -/
def above (name : String) : List String × Tree → List String × Tree
  | (path, t) => (name :: path, t)

mutual

def leaves : Tree → List (List String × Tree)
  | .directory entries => leavesOf entries
  | leaf => [([], leaf)]

def leavesOf : List (String × Tree) → List (List String × Tree)
  | [] => []
  | (name, t) :: rest => t.leaves.map (above name) ++ leavesOf rest

end

theorem leavesOf_eq (entries : List (String × Tree)) :
    leavesOf entries = entries.flatMap fun entry => entry.2.leaves.map (above entry.1) := by
  induction entries with
  | nil => rfl
  | cons entry rest ih => rw [leavesOf, ih, List.flatMap_cons]

theorem byParts {P : Tree → Prop} (file : ∀ text, P (.file text)) (locked : ∀ why, P (.locked why))
    (directory : ∀ entries, (∀ entry ∈ entries, P entry.2) → P (.directory entries)) :
    ∀ t, P t := by
  refine @Tree.rec P (fun entries => ∀ entry ∈ entries, P entry.2) (fun entry => P entry.2)
    file locked directory ?bare ?entry ?pair
  case bare => exact fun entry h => absurd h List.not_mem_nil
  case entry => exact fun entry rest own others => List.forall_mem_cons.mpr ⟨own, others⟩
  case pair => exact fun name t own => own

theorem wellFormedEntries_iff {entries : List (String × Tree)} :
    WellFormedEntries entries ↔ ∀ entry ∈ entries, FitName entry.1 ∧ entry.2.WellFormed := by
  induction entries with
  | nil => simp [WellFormedEntries]
  | cons entry rest ih => rw [WellFormedEntries, ih, List.forall_mem_cons, and_assoc]

theorem WellFormed.entry {entries : List (String × Tree)} (formed : (directory entries).WellFormed)
    {entry : String × Tree} (inside : entry ∈ entries) : FitName entry.1 ∧ entry.2.WellFormed :=
  wellFormedEntries_iff.mp formed.2 entry inside

theorem below?_directory {entries : List (String × Tree)} (rising : Keyed.Increasing entries)
    {name : String} {path : List String} {t : Tree} :
    (directory entries).below? (name :: path) = some t ↔
      ∃ inner, (name, inner) ∈ entries ∧ inner.below? path = some t := by
  simp only [below?, entry?, Option.bind_eq_some_iff, rising.mem_iff]

theorem WellFormed.inner {t inner : Tree} (formed : t.WellFormed) {name : String}
    (entry : t.entry? name = some inner) : inner.WellFormed := by
  cases t with
  | file text => cases entry
  | locked why => cases entry
  | directory entries =>
      have inside : (name, inner) ∈ entries := (formed.1.mem_iff name inner).mpr entry
      exact (formed.entry inside).2

/-- Names on a path are fit for entries. -/
theorem WellFormed.fit {t inner : Tree} {path : List String} (formed : t.WellFormed)
    (leads : t.below? path = some inner) : ∀ name ∈ path, FitName name := by
  induction path generalizing t with
  | nil => exact fun name h => absurd h List.not_mem_nil
  | cons name path ih =>
      cases t with
      | file text => cases leads
      | locked why => cases leads
      | directory entries =>
          obtain ⟨next, inside, rest⟩ := (below?_directory formed.1).mp leads
          obtain ⟨fit, formed⟩ := formed.entry inside
          exact List.forall_mem_cons.mpr ⟨fit, ih formed rest⟩

theorem mem_leavesOf {entries : List (String × Tree)} {path : List String} {leaf : Tree} :
    (path, leaf) ∈ leavesOf entries ↔
      ∃ name t rest, (name, t) ∈ entries ∧ path = name :: rest ∧ (rest, leaf) ∈ t.leaves := by
  rw [leavesOf_eq, List.mem_flatMap]
  constructor
  · rintro ⟨⟨name, t⟩, inside, found⟩
    obtain ⟨⟨rest, leaf'⟩, here, same⟩ := List.mem_map.mp found
    cases same
    exact ⟨name, t, rest, inside, rfl, here⟩
  · rintro ⟨name, t, rest, inside, rfl, here⟩
    exact ⟨(name, t), inside, List.mem_map.mpr ⟨(rest, leaf), here, rfl⟩⟩

theorem IsLeaf.mem_leaves {t leaf : Tree} (closed : t.IsLeaf) {path : List String} :
    (path, leaf) ∈ t.leaves ↔ leaf.IsLeaf ∧ t.below? path = some leaf := by
  have own : t.leaves = [([], t)] := by
    cases t with
    | directory entries => exact closed.elim
    | _ => rfl
  have bare (name : String) : t.entry? name = none := by
    cases t with
    | directory entries => exact closed.elim
    | _ => rfl
  rw [own, List.mem_singleton]
  cases path with
  | nil =>
      constructor
      · rintro ⟨⟩
        exact ⟨closed, rfl⟩
      · rintro ⟨_, ⟨⟩⟩
        rfl
  | cons name path => simp [below?, bare]

/-- The walk comes by the leaves to which paths lead, and by nothing else. -/
theorem mem_leaves (t : Tree) (formed : t.WellFormed) {path : List String} {leaf : Tree} :
    (path, leaf) ∈ t.leaves ↔ leaf.IsLeaf ∧ t.below? path = some leaf := by
  induction t using byParts generalizing path with
  | file text => exact IsLeaf.mem_leaves (t := .file text) trivial
  | locked why => exact IsLeaf.mem_leaves (t := .locked why) trivial
  | directory entries ih =>
      rw [leaves, mem_leavesOf]
      cases path with
      | nil =>
          constructor
          · rintro ⟨name, t, rest, _, same, _⟩
            cases same
          · rintro ⟨closed, same⟩
            cases same
            exact closed.elim
      | cons name path =>
          rw [below?_directory formed.1]
          constructor
          · rintro ⟨_, t, _, inside, same, here⟩
            cases same
            obtain ⟨closed, leads⟩ := (ih _ inside (formed.entry inside).2).mp here
            exact ⟨closed, t, inside, leads⟩
          · rintro ⟨closed, t, inside, leads⟩
            exact ⟨name, t, path, inside, rfl,
              (ih _ inside (formed.entry inside).2).mpr ⟨closed, leads⟩⟩

/-- No path comes twice. -/
theorem nodup_leaves (t : Tree) (formed : t.WellFormed) : (t.leaves.map Prod.fst).Nodup := by
  induction t using byParts with
  | file text => exact List.nodup_singleton _
  | locked why => exact List.nodup_singleton _
  | directory entries ih =>
      have paths (entry : String × Tree) : (entry.2.leaves.map (above entry.1)).map Prod.fst =
          (entry.2.leaves.map Prod.fst).map (entry.1 :: ·) := by
        simp [above, Function.comp_def]
      rw [leaves, leavesOf_eq, List.map_flatMap, List.nodup_flatMap]
      constructor
      · intro entry inside
        rw [paths]
        exact (ih entry inside (formed.entry inside).2).map (List.cons_injective)
      · have distinct := List.pairwise_map.mp formed.1
        refine distinct.imp ?_
        intro entry other less path here there
        dsimp only at here there
        rw [paths] at here there
        obtain ⟨rest, _, rfl⟩ := List.mem_map.mp here
        obtain ⟨rest', _, same⟩ := List.mem_map.mp there
        exact absurd (List.cons.inj same).1 less.ne'

end Fortune.Tree
