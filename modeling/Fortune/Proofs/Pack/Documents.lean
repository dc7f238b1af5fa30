import Fortune.Pack.Documents
import Fortune.Proofs.Identifier
import Fortune.Proofs.Outcome.Definition
import Fortune.Proofs.Pack.Tree
import Fortune.Proofs.Text.Numeral

/-!
Which documents a pack has. Loading walks through the directories `outcomes` and takes what the
files on its way make; a directory that it cannot list ends it.
-/
namespace Fortune.Pack
open Text

/-! Names of files. -/

theorem splitExtension_eq_some_iff {name stem extension : String} :
    splitExtension name = some (stem, extension) ↔
      name = stem ++ "." ++ extension ∧ stem ≠ "" ∧ '.' ∉ extension.toList := by
  unfold splitExtension
  dsimp only
  have whole := List.takeWhile_append_dropWhile (p := (· != '.')) (l := name.toList.reverse)
  constructor
  · intro h
    split at h
    · rename_i before dot
      split at h
      · cases h
      · rename_i some
        cases h
        have plain : ∀ c ∈ name.toList.reverse.takeWhile (· != '.'), (c != '.') = true :=
          List.all_eq_true.mp List.all_takeWhile
        refine ⟨?_, ?_, ?_⟩
        · rw [dot] at whole
          have forward := congrArg List.reverse whole
          rw [List.reverse_reverse] at forward
          rw [← String.toList_inj]
          simpa using forward.symm
        · simpa using some
        · intro inside
          rw [String.toList_ofList, List.mem_reverse] at inside
          exact absurd (plain _ inside) (by decide)
    · cases h
  · rintro ⟨rfl, some, plain⟩
    have reversed : (stem ++ "." ++ extension).toList.reverse =
        extension.toList.reverse ++ '.' :: stem.toList.reverse := by simp
    have all : ∀ c ∈ extension.toList.reverse, (c != '.') = true := by
      intro c inside
      rw [List.mem_reverse] at inside
      rw [bne_iff_ne]
      rintro rfl
      exact plain inside
    have stop : ('.' :: stem.toList.reverse).takeWhile (· != '.') = [] := rfl
    obtain ⟨run, rest⟩ := span_run all stop
    rw [reversed, run, rest]
    simp [some]

theorem documentName?_eq_some_iff {name shown : String} :
    documentName? name = some shown ↔ ∃ stem, name = stem ++ ".json" ∧ stem ≠ "" ∧
      shown = if stem = "." then ".." else stem := by
  have ending (stem : String) : stem ++ "." ++ "json" = stem ++ ".json" := by
    rw [String.append_assoc]
    rfl
  unfold documentName?
  constructor
  · intro h
    split at h
    · rename_i stem cut
      cases h
      obtain ⟨rfl, some, _⟩ := splitExtension_eq_some_iff.mp cut
      exact ⟨stem, ending stem, some, by simp⟩
    · cases h
  · rintro ⟨stem, rfl, some, rfl⟩
    have cut : splitExtension (stem ++ ".json") = .some (stem, "json") :=
      splitExtension_eq_some_iff.mpr ⟨(ending stem).symm, some, by decide⟩
    rw [cut]
    simp

/-! Files on the way. -/

/-- The document file at a path behind the outcomes directory. -/
def documentFile? : List String × Tree → Option DocumentFile
  | (path, .file text) => do
    let name ← path.getLast?
    let stem ← documentName? name
    return ⟨path.dropLast ++ [stem], text⟩
  | _ => none

/-- Every directory on the way can be listed. -/
def Open (leaves : List (List String × Tree)) : Prop := ∀ path why, (path, .locked why) ∉ leaves

theorem documentFile?_file (names : List String) (name : String) (text : Option String) :
    documentFile? (names ++ [name], .file text) =
      (documentName? name).map fun stem => ⟨names ++ [stem], text⟩ := by
  simp only [documentFile?, List.getLast?_concat, List.dropLast_concat]
  rw [Option.map_eq_bind]
  rfl

theorem filesOf_file (path : String) (names : List String) (name : String) (text : Option String) :
    filesOf path names name (.file text) =
      .ok (documentFile? (names ++ [name], .file text)).toList := by
  rw [filesOf, documentFile?_file]
  cases documentName? name <;> rfl

section Walk

open Fortune.Tree (leaves leavesOf above)

theorem open_cons {name : String} {t : Tree} {rest : List (String × Tree)} :
    Open (leavesOf ((name, t) :: rest)) ↔ Open t.leaves ∧ Open (leavesOf rest) := by
  simp only [Open, leavesOf, List.mem_append, not_or, forall_and]
  refine and_congr_left fun _ => ?_
  constructor
  · intro h path why inside
    exact h (name :: path) why (List.mem_map.mpr ⟨_, inside, rfl⟩)
  · intro h path why inside
    obtain ⟨⟨rest, leaf⟩, here, same⟩ := List.mem_map.mp inside
    cases same
    exact h rest why here

theorem filesOfEntries_open {entries : List (String × Tree)} (path : String) (names : List String)
    (each : ∀ entry ∈ entries, Open entry.2.leaves →
      filesOf path names entry.1 entry.2 =
        .ok (entry.2.leaves.filterMap fun leaf =>
          documentFile? (names ++ entry.1 :: leaf.1, leaf.2)))
    (listed : Open (leavesOf entries)) :
    filesOfEntries path names entries =
      .ok ((leavesOf entries).filterMap fun leaf => documentFile? (names ++ leaf.1, leaf.2)) := by
  induction entries with
  | nil => rfl
  | cons entry rest ih =>
      obtain ⟨name, t⟩ := entry
      obtain ⟨own, others⟩ := List.forall_mem_cons.mp each
      obtain ⟨here, there⟩ := open_cons.mp listed
      rw [filesOfEntries, own here, ih others there, leavesOf, List.filterMap_append,
        List.filterMap_map]
      rfl

theorem filesOf_open (t : Tree) (listed : Open t.leaves) (path : String) (names : List String)
    (name : String) :
    filesOf path names name t =
      .ok (t.leaves.filterMap fun leaf => documentFile? (names ++ name :: leaf.1, leaf.2)) := by
  induction t using Tree.byParts generalizing path names name with
  | file text =>
      rw [filesOf_file, Tree.leaves]
      · cases found : documentFile? (names ++ [name], .file text) <;> simp [found]
      · simp
  | locked why => exact absurd (List.mem_singleton.mpr rfl) (listed [] why)
  | directory entries ih =>
      have each := filesOfEntries_open (join path name) (names ++ [name])
        (fun entry inside listed => ih entry inside listed _ _ _) listed
      rw [filesOf, leaves]
      simpa using each

theorem filesOfEntries_locked {entries : List (String × Tree)} {path : String}
    {names : List String}
    (each : ∀ entry ∈ entries, ¬Open entry.2.leaves →
      ∃ place why, filesOf path names entry.1 entry.2 = .error (.unreadable place why))
    (closed : ¬Open (leavesOf entries)) :
    ∃ place why, filesOfEntries path names entries = .error (.unreadable place why) := by
  induction entries with
  | nil => exact absurd (fun path why inside => by cases inside) closed
  | cons entry rest ih =>
      obtain ⟨name, t⟩ := entry
      obtain ⟨own, others⟩ := List.forall_mem_cons.mp each
      by_cases here : Open t.leaves
      · obtain ⟨place, why, fails⟩ := ih others fun there => closed (open_cons.mpr ⟨here, there⟩)
        refine ⟨place, why, ?_⟩
        rw [filesOfEntries, filesOf_open t here, fails]
        rfl
      · obtain ⟨place, why, fails⟩ := own here
        refine ⟨place, why, ?_⟩
        rw [filesOfEntries, fails]
        rfl

theorem filesOf_locked (t : Tree) (closed : ¬Open t.leaves) (path : String) (names : List String)
    (name : String) :
    ∃ place why, filesOf path names name t = .error (.unreadable place why) := by
  induction t using Tree.byParts generalizing path names name with
  | file text => exact absurd (fun path why inside => by simp [leaves] at inside) closed
  | locked why => exact ⟨join path name, why, rfl⟩
  | directory entries ih =>
      rw [filesOf]
      exact filesOfEntries_locked (fun entry inside closed => ih entry inside closed _ _ _) closed

theorem outcomeFiles_open {t : Tree} (listed : Open t.leaves) (path : String) :
    outcomeFiles path t = .ok (t.leaves.filterMap documentFile?) := by
  cases t with
  | file text => rfl
  | locked why => exact absurd (List.mem_singleton.mpr rfl) (listed [] why)
  | directory entries =>
      exact filesOfEntries_open path []
        (fun entry _ listed => filesOf_open entry.2 listed _ _ _) listed

theorem outcomeFiles_locked {t : Tree} (closed : ¬Open t.leaves) (path : String) :
    ∃ place why, outcomeFiles path t = .error (.unreadable place why) := by
  cases t with
  | file text => exact absurd (fun path why inside => by simp [leaves] at inside) closed
  | locked why => exact ⟨path, why, rfl⟩
  | directory entries =>
      exact filesOfEntries_locked (fun entry _ closed => filesOf_locked entry.2 closed _ _ _) closed

/-- Where one name alone counts, the walk through a directory is the walk through its entry. -/
theorem filterMap_leavesOf {β : Type} {entries : List (String × Tree)}
    (rising : Keyed.Increasing entries) {key : String} {g : List String × Tree → Option β}
    (only : ∀ name path leaf, name ≠ key → g (name :: path, leaf) = none) :
    (leavesOf entries).filterMap g =
      match Keyed.find? key entries with
      | none => []
      | some t => t.leaves.filterMap fun leaf => g (key :: leaf.1, leaf.2) := by
  induction entries with
  | nil => rfl
  | cons entry rest ih =>
      obtain ⟨name, t⟩ := entry
      obtain ⟨least, later⟩ := Keyed.increasing_cons.mp rising
      rw [leavesOf, List.filterMap_append, List.filterMap_map, ih later, Keyed.find?]
      by_cases same : key = name
      · subst same
        have absent : Keyed.find? key rest = none := by
          rw [Option.eq_none_iff_forall_ne_some]
          intro inner found
          exact lt_irrefl key (least _ ((later.mem_iff key inner).mpr found))
        rw [absent, List.append_nil, if_pos rfl]
        rfl
      · have nothing : t.leaves.filterMap (g ∘ above name) = [] := by
          rw [List.filterMap_eq_nil_iff]
          exact fun leaf _ => only name leaf.1 leaf.2 (Ne.symm same)
        rw [nothing, List.nil_append, if_neg same]

/-! Namespaces. -/

/-- The document at a path of the pack, with its identifier. -/
def packDocument? : List String × Tree → Option (Identifier × Document)
  | (scope :: folder :: path, leaf) =>
    if folder = "outcomes" then (documentFile? (path, leaf)).bind (document? scope) else none
  | _ => none

/-- The outcomes of a namespace can be listed. -/
def OpenOutcomes (t : Tree) : Prop := ∀ inner, t.entry? "outcomes" = some inner → Open inner.leaves

theorem filterMap_namespace {t : Tree} (formed : t.WellFormed) (scope : String) :
    (t.leaves.filterMap fun leaf => packDocument? (scope :: leaf.1, leaf.2)) =
      match t.entry? "outcomes" with
      | none => []
      | some inner => (inner.leaves.filterMap documentFile?).filterMap (document? scope) := by
  cases t with
  | file text => rfl
  | locked why => rfl
  | directory entries =>
      have only (name : String) (path : List String) (leaf : Tree) (apart : name ≠ "outcomes") :
          packDocument? (scope :: name :: path, leaf) = none := if_neg apart
      rw [leaves, filterMap_leavesOf formed.1 only, Tree.entry?]
      cases Keyed.find? "outcomes" entries with
      | none => rfl
      | some inner =>
          dsimp only
          rw [List.filterMap_filterMap]
          rfl

theorem namespaceDocuments_open {t : Tree} (formed : t.WellFormed) (listed : OpenOutcomes t)
    (path scope : String) :
    namespaceDocuments path scope t =
      .ok (t.leaves.filterMap fun leaf => packDocument? (scope :: leaf.1, leaf.2)) := by
  rw [filterMap_namespace formed, namespaceDocuments]
  cases entry : t.entry? "outcomes" with
  | none => rfl
  | some inner =>
      dsimp only
      rw [outcomeFiles_open (listed inner entry)]
      rfl

theorem namespaceDocuments_locked {t : Tree} (closed : ¬OpenOutcomes t) (path scope : String) :
    ∃ place why, namespaceDocuments path scope t = .error (.unreadable place why) := by
  simp only [OpenOutcomes, not_forall] at closed
  obtain ⟨inner, entry, closed⟩ := closed
  obtain ⟨place, why, fails⟩ := outcomeFiles_locked closed (join (join path scope) "outcomes")
  refine ⟨place, why, ?_⟩
  rw [namespaceDocuments, entry]
  dsimp only
  rw [fails]
  rfl

theorem documentsOf_open {entries : List (String × Tree)} (path : String)
    (each : ∀ entry ∈ entries, entry.2.WellFormed ∧ OpenOutcomes entry.2) :
    documentsOf path entries = .ok ((leavesOf entries).filterMap packDocument?) := by
  induction entries with
  | nil => rfl
  | cons entry rest ih =>
      obtain ⟨scope, t⟩ := entry
      obtain ⟨⟨formed, listed⟩, others⟩ := List.forall_mem_cons.mp each
      rw [documentsOf, namespaceDocuments_open formed listed, ih others, leavesOf,
        List.filterMap_append, List.filterMap_map]
      rfl

theorem documentsOf_locked {entries : List (String × Tree)} (path : String)
    (formed : ∀ entry ∈ entries, entry.2.WellFormed)
    (closed : ∃ entry ∈ entries, ¬OpenOutcomes entry.2) :
    ∃ place why, documentsOf path entries = .error (.unreadable place why) := by
  induction entries with
  | nil =>
      obtain ⟨entry, inside, _⟩ := closed
      cases inside
  | cons entry rest ih =>
      obtain ⟨scope, t⟩ := entry
      obtain ⟨own, others⟩ := List.forall_mem_cons.mp formed
      by_cases listed : OpenOutcomes t
      · have later : ∃ entry ∈ rest, ¬OpenOutcomes entry.2 := by
          obtain ⟨entry, inside, closed⟩ := closed
          rcases List.mem_cons.mp inside with rfl | inside
          · exact absurd listed closed
          · exact ⟨entry, inside, closed⟩
        obtain ⟨place, why, fails⟩ := ih others later
        refine ⟨place, why, ?_⟩
        rw [documentsOf, namespaceDocuments_open own listed, fails]
        rfl
      · obtain ⟨place, why, fails⟩ := namespaceDocuments_locked listed path scope
        refine ⟨place, why, ?_⟩
        rw [documentsOf, fails]
        rfl

end Walk

end Fortune.Pack
