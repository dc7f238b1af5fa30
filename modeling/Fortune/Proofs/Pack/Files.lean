import Fortune.Proofs.Pack.Documents
import Fortune.Proofs.Text.Separator
import Mathlib.Data.List.Induction

/-!
The files that a pack offers. Each stands for one document, and two files never for documents of one
identifier: names hold no slash, so the path can be read off the identifier.
-/
namespace Fortune

namespace Tree

/-- Something other than dots stands before the extension of every document. -/
def Named (t : Tree) : Prop := ∀ path stem text,
  t.below? (path ++ [stem ++ ".json"]) = some (.file text) → stem ≠ "" → ∃ c ∈ stem.toList, c ≠ '.'

/-- The outcomes of every namespace can be listed. -/
def Readable (t : Tree) : Prop := ∀ scope path why,
  t.below? (scope :: "outcomes" :: path) ≠ some (.locked why)

theorem Named.ne_dot {t : Tree} (named : t.Named) (folders : List String) {stem : String}
    {text : Option String} (leads : t.below? (folders ++ [stem ++ ".json"]) = some (.file text))
    (some : stem ≠ "") : stem ≠ "." := by
  rintro rfl
  obtain ⟨c, member, apart⟩ := named folders "." text leads some
  exact apart (List.mem_singleton.mp member)

end Tree

namespace Pack

/-- A file, and what it stands for. -/
structure File where
  path : List String
  id : Identifier
  document : Document

/-- The file lies at any depth under the outcomes of a namespace, its extension is `json`, the
namespace and the path without it make an identifier, and it holds a document. -/
def File.OfferedBy (f : File) (data : Tree) : Prop :=
  ∃ scope folders stem text, f.path = scope :: "outcomes" :: (folders ++ [stem ++ ".json"]) ∧
    stem ≠ "" ∧ data.below? f.path = some (.file (some text)) ∧
    f.id = ⟨scope, "/".intercalate (folders ++ [stem])⟩ ∧ f.id.Valid ∧
    Document.read text = some f.document

def filesIn (data : Tree) : List File :=
  data.leaves.filterMap fun leaf =>
    (packDocument? leaf).map fun (id, document) => ⟨leaf.1, id, document⟩

theorem documents_filesIn (data : Tree) :
    data.leaves.filterMap packDocument? = (filesIn data).map fun f => (f.id, f.document) := by
  rw [filesIn, List.map_filterMap]
  refine List.filterMap_congr fun leaf _ => ?_
  cases packDocument? leaf <;> rfl

theorem documentFile?_eq_some_iff {path : List String} {leaf : Tree} {file : DocumentFile} :
    documentFile? (path, leaf) = some file ↔ ∃ folders name shown text,
      path = folders ++ [name] ∧ leaf = .file text ∧ documentName? name = some shown ∧
      file = ⟨folders ++ [shown], text⟩ := by
  constructor
  · intro h
    cases leaf with
    | locked why => cases h
    | directory entries => cases h
    | file text =>
        cases path using List.reverseRecOn with
        | nil => cases h
        | append_singleton folders name =>
            rw [documentFile?_file] at h
            obtain ⟨shown, named, rfl⟩ := Option.map_eq_some_iff.mp h
            exact ⟨folders, name, shown, text, rfl, rfl, named, rfl⟩
  · rintro ⟨folders, name, shown, text, rfl, rfl, named, rfl⟩
    rw [documentFile?_file, named]
    rfl

theorem document?_eq_some_iff {scope : String} {file : DocumentFile} {id : Identifier}
    {document : Document} :
    document? scope file = some (id, document) ↔
      (id = ⟨scope, pathText file.names⟩ ∧ id.Valid) ∧
        ∃ text, file.text = some text ∧ Document.read text = some document := by
  rw [← Identifier.ofParts_eq_ok_iff, ← toOption_eq_some_iff]
  simp only [document?, Option.bind_eq_bind, Option.bind_eq_some_iff]
  constructor
  · rintro ⟨id', made, text, given, document', read, same⟩
    cases same
    exact ⟨made, text, given, read⟩
  · rintro ⟨made, text, given, read⟩
    exact ⟨id, made, text, given, document, read, rfl⟩

theorem packDocument?_eq_some_iff {path : List String} {leaf : Tree} {id : Identifier}
    {document : Document} :
    packDocument? (path, leaf) = some (id, document) ↔ ∃ scope folders name shown text,
      path = scope :: "outcomes" :: (folders ++ [name]) ∧ leaf = .file (some text) ∧
      documentName? name = some shown ∧
      (id = ⟨scope, pathText (folders ++ [shown])⟩ ∧ id.Valid) ∧
      Document.read text = some document := by
  constructor
  · intro h
    unfold packDocument? at h
    split at h
    · rename_i scope folder rest leaf same
      cases same
      split at h
      · rename_i outcomes
        obtain ⟨file, found, made⟩ := Option.bind_eq_some_iff.mp h
        obtain ⟨folders, name, shown, text, rfl, rfl, named, rfl⟩ :=
          documentFile?_eq_some_iff.mp found
        obtain ⟨valid, text, rfl, read⟩ := document?_eq_some_iff.mp made
        exact ⟨scope, folders, name, shown, text, outcomes ▸ rfl, rfl, named, valid, read⟩
      · cases h
    · cases h
  · rintro ⟨scope, folders, name, shown, text, rfl, rfl, named, valid, read⟩
    have found : documentFile? (folders ++ [name], .file (some text)) =
        some ⟨folders ++ [shown], some text⟩ :=
      documentFile?_eq_some_iff.mpr ⟨folders, name, shown, _, rfl, rfl, named, rfl⟩
    have made : document? scope ⟨folders ++ [shown], some text⟩ = some (id, document) :=
      document?_eq_some_iff.mpr ⟨valid, text, rfl, read⟩
    simp only [packDocument?, if_true, found, Option.bind_some, made]

/-- Names without slashes can be told apart in a path. -/
theorem intercalate_inj {names others : List String} (some : names ≠ []) (some' : others ≠ [])
    (plain : ∀ name ∈ names, '/' ∉ name.toList) (plain' : ∀ name ∈ others, '/' ∉ name.toList)
    (same : "/".intercalate names = "/".intercalate others) : names = others := by
  have split {list : List String} (some : list ≠ []) (plain : ∀ name ∈ list, '/' ∉ name.toList) :
      ("/".intercalate list).toList.splitOn '/' = list.map String.toList :=
    Text.splitOn_intercalate rfl some plain
  have words := (split some plain).symm.trans (same ▸ split some' plain')
  exact List.map_injective_iff.mpr (fun _ _ => String.toList_inj.mp) words

section Offered

variable {data : Tree} (formed : data.WellFormed)
include formed

theorem mem_filesIn (named : data.Named) {f : File} : f ∈ filesIn data ↔ f.OfferedBy data := by
  obtain ⟨path, id, document⟩ := f
  have found : ⟨path, id, document⟩ ∈ filesIn data ↔
      ∃ leaf, (path, leaf) ∈ data.leaves ∧ packDocument? (path, leaf) = some (id, document) := by
    rw [filesIn, List.mem_filterMap]
    constructor
    · rintro ⟨⟨path', leaf⟩, inside, made⟩
      obtain ⟨⟨id', document'⟩, made, same⟩ := Option.map_eq_some_iff.mp made
      cases same
      exact ⟨leaf, inside, made⟩
    · rintro ⟨leaf, inside, made⟩
      exact ⟨(path, leaf), inside, by rw [made]; rfl⟩
  rw [found]
  constructor
  · rintro ⟨leaf, inside, made⟩
    obtain ⟨_, leads⟩ := (data.mem_leaves formed).mp inside
    obtain ⟨scope, folders, name, shown, text, rfl, rfl, cut, ⟨rfl, valid⟩, read⟩ :=
      packDocument?_eq_some_iff.mp made
    obtain ⟨stem, rfl, some, rfl⟩ := documentName?_eq_some_iff.mp cut
    rw [if_neg (named.ne_dot (scope :: "outcomes" :: folders) leads some)] at valid ⊢
    exact ⟨scope, folders, stem, text, rfl, some, leads, rfl, valid, read⟩
  · rintro ⟨scope, folders, stem, text, rfl, some, leads, rfl, valid, read⟩
    have visible := named.ne_dot (scope :: "outcomes" :: folders) leads some
    refine ⟨.file (.some text), (data.mem_leaves formed).mpr ⟨trivial, leads⟩, ?_⟩
    refine packDocument?_eq_some_iff.mpr
      ⟨scope, folders, _, stem, text, rfl, rfl, ?_, ⟨rfl, valid⟩, read⟩
    exact documentName?_eq_some_iff.mpr ⟨stem, rfl, some, (if_neg visible).symm⟩

/-- It suffices to look at the names that the files are listed under. -/
theorem named_of_leaves
    (each : (data.leaves.all fun leaf => (leaf.1.getLast?.bind documentName?).all fun shown =>
      shown.toList.any (· != '.')) = true) : data.Named := by
  intro folders stem text leads some
  have inside : (folders ++ [stem ++ ".json"], Tree.file text) ∈ data.leaves :=
    (data.mem_leaves formed).mpr ⟨trivial, leads⟩
  have listed : documentName? (stem ++ ".json") = .some (if stem = "." then ".." else stem) :=
    documentName?_eq_some_iff.mpr ⟨stem, rfl, some, rfl⟩
  have visible := List.all_eq_true.mp each _ inside
  rw [List.getLast?_concat, Option.bind_some, listed, Option.all_some, List.any_eq_true] at visible
  obtain ⟨c, member, apart⟩ := visible
  by_cases dot : stem = "."
  · rw [if_pos dot] at member
    rcases List.mem_pair.mp member with rfl | rfl
    · cases apart
    · cases apart
  · rw [if_neg dot] at member
    exact ⟨c, member, bne_iff_ne.mp apart⟩

theorem nodup_paths : ((filesIn data).map File.path).Nodup := by
  have distinct := List.pairwise_map.mp (data.nodup_leaves formed)
  refine List.pairwise_map.mpr (distinct.filterMap _ ?_)
  intro leaf other apart f made g made'
  obtain ⟨_, _, rfl⟩ := Option.map_eq_some_iff.mp made
  obtain ⟨_, _, rfl⟩ := Option.map_eq_some_iff.mp made'
  exact apart

theorem slashless {scope stem : String} {folders : List String} {t : Tree}
    (leads : data.below? (scope :: "outcomes" :: (folders ++ [stem ++ ".json"])) = some t) :
    ∀ name ∈ folders ++ [stem], '/' ∉ name.toList := by
  have fit := formed.fit leads
  intro name inside
  rcases List.mem_append.mp inside with folder | last
  · exact (fit name (by simp [folder])).2.2.2
  · rw [List.mem_singleton.mp last]
    intro slash
    exact (fit (stem ++ ".json") (by simp)).2.2.2 (by simp [slash])

/-- The path can be read off the identifier. -/
theorem File.OfferedBy.path_eq {f g : File} (hf : f.OfferedBy data) (hg : g.OfferedBy data)
    (same : f.id = g.id) : f.path = g.path := by
  obtain ⟨scope, folders, stem, _, path, _, leads, id, _⟩ := hf
  obtain ⟨scope', folders', stem', _, path', _, leads', id', _⟩ := hg
  rw [id, id', Identifier.mk.injEq] at same
  rw [path] at leads
  rw [path'] at leads'
  have names : folders ++ [stem] = folders' ++ [stem'] :=
    intercalate_inj (by simp) (by simp) (slashless formed leads) (slashless formed leads') same.2
  obtain ⟨rfl, last⟩ := List.append_inj' names rfl
  obtain rfl := List.singleton_inj.mp last
  rw [path, path', same.1]

theorem nodup_ids (named : data.Named) : ((filesIn data).map File.id).Nodup := by
  have distinct := nodup_paths formed
  refine (distinct.of_map _).map_on ?_
  intro f hf g hg same
  have path := File.OfferedBy.path_eq formed ((mem_filesIn formed named).mp hf)
    ((mem_filesIn formed named).mp hg) same
  exact List.inj_on_of_nodup_map distinct hf hg path

end Offered

section Documents

variable {entries : List (String × Tree)} (formed : (Tree.directory entries).WellFormed)
include formed

theorem readable_iff :
    (Tree.directory entries).Readable ↔ ∀ entry ∈ entries, OpenOutcomes entry.2 := by
  constructor
  · intro readable entry inside inner outcomes path why closed
    have leads := ((inner.mem_leaves ((formed.entry inside).2.inner outcomes)).mp closed).2
    refine readable entry.1 path why ((Tree.below?_directory formed.1).mpr ⟨_, inside, ?_⟩)
    exact Option.bind_eq_some_iff.mpr ⟨inner, outcomes, leads⟩
  · intro listed scope path why leads
    obtain ⟨t, inside, leads⟩ := (Tree.below?_directory formed.1).mp leads
    obtain ⟨inner, outcomes, leads⟩ := Option.bind_eq_some_iff.mp leads
    refine listed (scope, t) inside inner outcomes path why ?_
    exact (inner.mem_leaves ((formed.entry inside).2.inner outcomes)).mpr ⟨trivial, leads⟩

theorem documents_readable (readable : (Tree.directory entries).Readable) (path : String) :
    documents path (some (.directory entries)) =
      .ok ((filesIn (.directory entries)).map fun f => (f.id, f.document)) := by
  rw [← documents_filesIn]
  refine documentsOf_open _ fun entry inside => ?_
  exact ⟨(formed.entry inside).2, (readable_iff formed).mp readable entry inside⟩

theorem documents_unreadable (unreadable : ¬(Tree.directory entries).Readable) (path : String) :
    ∃ place why, documents path (some (.directory entries)) = .error (.unreadable place why) := by
  refine documentsOf_locked _ (fun entry inside => (formed.entry inside).2) ?_
  rw [readable_iff formed] at unreadable
  simpa using unreadable

end Documents

end Pack
end Fortune
