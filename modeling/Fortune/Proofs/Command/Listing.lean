import Fortune.Command.Basic
import Fortune.Proofs.Command.Table
import Fortune.Proofs.Decimal.Layout
import Fortune.Proofs.Pack.Files
import Fortune.Proofs.Registry.Loading

/-!
Listings on the command line. Files of a pack have distinct identifiers, so no document replaces
another while it is loaded: each file has a row of its own or is reported as skipped.
-/
namespace Fortune.Command.Listing
open Decimal
open Pack (File)
open Snapshot (partitionOf)

/-- The row of a file, if its document makes a definition. -/
def row? (reserved : String) (f : File) : Option (Partition × Definition) :=
  match Definition.decode f.id f.document with
  | .ok d => some (partitionOf reserved f.id, d)
  | .error _ => none

/-- What is said of a file whose document makes none. -/
def refusal? (f : File) : Option Skipped :=
  match Definition.decode f.id f.document with
  | .ok _ => none
  | .error e => some ⟨f.id, e⟩

/-- The random partition stands first, and either partition is in the order of identifiers. -/
def Before (a b : Partition × Definition) : Prop :=
  a.1 = .random ∧ b.1 = .nonrandom ∨ a.1 = b.1 ∧
    (a.2.id.scope < b.2.id.scope ∨ a.2.id.scope = b.2.id.scope ∧ a.2.id.path < b.2.id.path)

/-- Each file is in a row or among the skipped, once, and nothing else is. The report counts the
rows of either partition. -/
structure Accounts (reserved : String) (files : List File)
    (rows : List (Partition × Definition)) (report : LoadReport) : Prop where
  made : rows.Perm (files.filterMap (row? reserved))
  shown : ∀ f ∈ files, ∀ row ∈ row? reserved f, row.2.id = f.id
  ordered : rows.Pairwise Before
  skipped : report.skipped.Perm (files.filterMap refusal?)
  random : report.random = rows.countP (·.1 = .random)
  nonrandom : report.nonrandom = rows.countP (·.1 = .nonrandom)
  counts : report.random + report.nonrandom = rows.length
  total : rows.length + report.skipped.length = files.length

/-- The cells of a row as they are printed. What is not known before an outcome is resolved is a
hyphen. -/
def printedCells : Partition × Definition → List String
  | (p, d) =>
    [d.id.scope ++ ":" ++ d.id.path, match p with | .random => "random" | .nonrandom => "nonrandom",
      match d.kind with | .effect => "effect" | .sound => "sound", toString d.effectiveLuck,
      String.ofList (floatText d.effectiveChance), (d.delay.map toString).getD "-"]

theorem row?_ok {f : File} {d : Definition} (h : Definition.decode f.id f.document = .ok d)
    (reserved : String) : row? reserved f = some (partitionOf reserved f.id, d) := by
  rw [row?, h]

theorem row?_eq_some_iff {reserved : String} {f : File} {p : Partition} {d : Definition} :
    row? reserved f = some (p, d) ↔
      partitionOf reserved f.id = p ∧ Definition.decode f.id f.document = .ok d := by
  unfold row?
  cases Definition.decode f.id f.document with
  | error e => simp
  | ok other => simp

theorem row?_id {reserved : String} {f : File} {row : Partition × Definition}
    (h : row? reserved f = some row) : row.2.id = f.id :=
  Definition.decode_id (row?_eq_some_iff.mp h).2

theorem Before.ne {a b : Partition × Definition} (h : Before a b) : a ≠ b := by
  rintro rfl
  rcases h with ⟨random, nonrandom⟩ | ⟨_, less | ⟨_, less⟩⟩
  · rw [random] at nonrandom
    cases nonrandom
  · exact lt_irrefl _ less
  · exact lt_irrefl _ less

theorem length_rows_add (reserved : String) (files : List File) :
    (files.filterMap (row? reserved)).length + (files.filterMap refusal?).length =
      files.length := by
  induction files with
  | nil => rfl
  | cons f files ih =>
      cases outcome : Definition.decode f.id f.document with
      | ok d =>
          simp only [List.filterMap_cons, row?, refusal?, outcome, List.length_cons] at ih ⊢
          omega
      | error e =>
          simp only [List.filterMap_cons, row?, refusal?, outcome, List.length_cons] at ih ⊢
          omega

/-! The rows of a listing. -/

theorem mem_rows {l : Listing} {p : Partition} {d : Definition} :
    (p, d) ∈ l.rows ↔ ∃ id, (id, d) ∈ l.snapshot.part p := by
  cases p <;> simp [rows, Snapshot.part]

theorem countP_rows (l : Listing) (p : Partition) :
    l.rows.countP (·.1 = p) = (l.snapshot.part p).length := by
  cases p <;> simp [rows, Snapshot.part, List.countP_append, List.countP_map, Function.comp_def]

theorem length_rows (l : Listing) : l.rows.length = l.snapshot.size := by
  simp [rows, Snapshot.size]

section Loaded

variable {reserved : String} {documents : List (Identifier × Document)} {l : Listing}
  (loaded : l.snapshot.Loaded reserved documents)
include loaded

theorem id_of_part {p : Partition} {id : Identifier} {d : Definition}
    (inside : (id, d) ∈ l.snapshot.part p) : d.id = id := by
  obtain ⟨_, _, _, _, _, decoded, _⟩ := (loaded.mem_part p id d).mp inside
  exact Definition.decode_id decoded

theorem ordered_part (p : Partition) :
    ((l.snapshot.part p).map fun entry => (p, entry.2)).Pairwise Before := by
  have rising := List.pairwise_map.mp (loaded.increasing p)
  refine List.pairwise_map.mpr (rising.imp_of_mem ?_)
  intro entry other here there less
  refine Or.inr ⟨rfl, ?_⟩
  rw [id_of_part loaded here, id_of_part loaded there]
  exact Identifier.lt_iff.mp less

theorem ordered_rows : l.rows.Pairwise Before := by
  refine List.pairwise_append.mpr ⟨ordered_part loaded .random, ordered_part loaded .nonrandom, ?_⟩
  intro row here other there
  obtain ⟨entry, _, rfl⟩ := List.mem_map.mp here
  obtain ⟨entry', _, rfl⟩ := List.mem_map.mp there
  exact Or.inl ⟨rfl, rfl⟩

end Loaded

def ofDocuments (reserved : String) (documents : List (Identifier × Document)) : Listing :=
  let (snapshot, report) := Snapshot.decode reserved documents
  ⟨snapshot, report⟩

theorem loaded_ofDocuments (reserved : String) (documents : List (Identifier × Document)) :
    (ofDocuments reserved documents).snapshot.Loaded reserved documents :=
  Snapshot.loaded_decode reserved documents

section Accounts

variable {files : List File} (distinct : (files.map File.id).Nodup) (reserved : String)
include distinct

theorem rows_perm :
    (ofDocuments reserved (files.map fun f => (f.id, f.document))).rows.Perm
      (files.filterMap (row? reserved)) := by
  let documents := files.map fun f => (f.id, f.document)
  have loaded := loaded_ofDocuments reserved documents
  have keys : (documents.map Prod.fst).Nodup := by
    rw [List.map_map]
    exact distinct
  have alone : (files.filterMap (row? reserved)).Nodup := by
    refine (List.pairwise_map.mp distinct).filterMap _ ?_
    rintro f g apart row made other made' rfl
    exact apart ((row?_id made).symm.trans (row?_id made'))
  refine (List.perm_ext_iff_of_nodup ((ordered_rows loaded).imp Before.ne) alone).mpr ?_
  rintro ⟨p, d⟩
  rw [mem_rows, List.mem_filterMap]
  constructor
  · rintro ⟨id, inside⟩
    obtain ⟨home, made⟩ := (loaded.mem_part p id d).mp inside
    obtain ⟨document, given, decoded⟩ := (Snapshot.lastMade_of_distinct keys id d).mp made
    obtain ⟨f, member, same⟩ := List.mem_map.mp given
    cases same
    exact ⟨f, member, row?_eq_some_iff.mpr ⟨home, decoded⟩⟩
  · rintro ⟨f, member, made⟩
    obtain ⟨home, decoded⟩ := row?_eq_some_iff.mp made
    refine ⟨f.id, (loaded.mem_part p f.id d).mpr ⟨home, ?_⟩⟩
    refine (Snapshot.lastMade_of_distinct keys f.id d).mpr ⟨f.document, ?_, decoded⟩
    exact List.mem_map.mpr ⟨f, member, rfl⟩

theorem accounts :
    let l := ofDocuments reserved (files.map fun f => (f.id, f.document))
    Accounts reserved files l.rows l.report := by
  intro l
  have rows := rows_perm distinct reserved
  have skipped : l.report.skipped = files.filterMap refusal? := by
    refine (Snapshot.decode_skipped reserved _).trans ?_
    rw [List.filterMap_map]
    rfl
  refine ⟨rows, fun f _ row made => row?_id made, ordered_rows (loaded_ofDocuments _ _),
    List.Perm.of_eq skipped, (countP_rows l .random).symm, (countP_rows l .nonrandom).symm,
    (length_rows l).symm, ?_⟩
  rw [skipped, ← length_rows_add reserved files]
  exact congrArg (· + _) rows.length_eq

end Accounts

theorem cells_eq (row : Partition × Definition) : cells row = printedCells row := by
  obtain ⟨p, d⟩ := row
  have place : p.name = match p with | .random => "random" | .nonrandom => "nonrandom" := by
    cases p <;> rfl
  have kind : d.kind.name = match d.kind with | .effect => "effect" | .sound => "sound" := by
    cases d.kind <;> rfl
  simp only [cells, printedCells, place, kind, ofList_intText, List.cons.injEq, true_and, and_true]
  refine ⟨rfl, ?_⟩
  cases d.delay <;> rfl

theorem text_summary (r : LoadReport) :
    summary r ++ "\n" = "  " ++ toString (r.random + r.nonrandom) ++ " outcomes (" ++
      toString r.random ++ " random, " ++ toString r.nonrandom ++ " nonrandom)\n" := by
  simp only [summary, ofList_natText, String.append_assoc]
  rfl

/-- What is said of the documents left out. -/
def printedSkips (skipped : List Skipped) : String :=
  if skipped = [] then ""
  else "  " ++ toString skipped.length ++ " skipped\n" ++ String.join (skipped.map fun s =>
    "    " ++ (s.id.scope ++ ":" ++ s.id.path) ++ " " ++ s.error.message ++ "\n")

theorem printed_skippedLines (r : LoadReport) :
    printed (skippedLines r) = printedSkips r.skipped := by
  simp only [skippedLines, printedSkips, List.isEmpty_iff]
  split
  · rfl
  · rw [printed_cons, ofList_natText, printed, List.map_map]
    exact congrArg (· ++ _) String.append_assoc

theorem printed_lines {l : Listing} (filled : l.rows ≠ []) :
    printed l.lines = printed (Table.lines header (l.rows.map printedCells)) ++ "\n" ++
      (summary l.report ++ "\n") ++ printed (skippedLines l.report) := by
  have some : l.snapshot.size ≠ 0 := by
    rw [← length_rows]
    exact fun none => filled (List.length_eq_zero_iff.mp none)
  have cells : l.rows.map cells = l.rows.map printedCells :=
    List.map_congr_left fun row _ => cells_eq row
  rw [lines, if_neg some, cells, printed_append, printed_append, printed_cons, printed_cons,
    printed_nil, String.empty_append, String.append_empty, ← String.append_assoc,
    ← String.append_assoc]

theorem ofPack_ok {pack : PackChoice} {data : Option Tree}
    {documents : List (Identifier × Document)}
    (loaded : Pack.documents pack.path data = .ok documents) :
    ofPack pack data = .ok (ofDocuments pack.reserved documents) := by
  rw [ofPack, PackChoice.load, loaded]
  rfl

theorem ofPack_error {pack : PackChoice} {data : Option Tree} {e : Pack.Error}
    (failed : Pack.documents pack.path data = .error e) :
    ofPack pack data = .error (.pack e) := by
  rw [ofPack, PackChoice.load, failed]
  rfl

/-- The files that a data directory offers have identifiers of their own. If all its directories can
be listed and one of the files makes a definition, the listing has a row for each file that makes
one, counts both partitions, and has the other files under those skipped. -/
theorem listing_complete (entries : List (String × Tree))
    (formed : (Tree.directory entries).WellFormed) (named : (Tree.directory entries).Named)
    (pack : PackChoice) (uuid : Uuid) :
    let data := Tree.directory entries
    let report := Command.perform (some data) uuid (.list pack)
    ∃ (files : List File) (rows : List (Partition × Definition)) (r : LoadReport),
      (files.map File.path).Nodup ∧ (∀ f, f ∈ files ↔ f.OfferedBy data) ∧
      (files.map File.id).Nodup ∧ Accounts pack.reserved files rows r ∧
      (data.Readable → (∃ f ∈ files, ∃ d, Definition.decode f.id f.document = .ok d) →
        ∃ table, Table.Shows ["Outcome", "Partition", "Type", "Luck", "Chance", "Delay"]
            (rows.map printedCells) table ∧
          report = { code := 0, errors := "", output :=
            String.join (table.map (· ++ "\n")) ++ "\n" ++
              ("  " ++ toString rows.length ++ " outcomes (" ++ toString r.random ++ " random, " ++
                toString r.nonrandom ++ " nonrandom)\n") ++ printedSkips r.skipped }) ∧
      (¬data.Readable → ∃ place why,
        report = ⟨1, "", "error: " ++ ("cannot read " ++ place ++ ": " ++ why) ++ "\n"⟩) := by
  intro data report
  let files := Pack.filesIn data
  have distinct : (files.map File.id).Nodup := Pack.nodup_ids formed named
  have account := accounts distinct pack.reserved
  refine ⟨files, _, _, Pack.nodup_paths formed, fun f => Pack.mem_filesIn formed named, distinct,
    account, ?_, ?_⟩
  · rintro readable ⟨f, inside, d, decoded⟩
    have loaded := Pack.documents_readable formed readable pack.path
    have row := List.mem_filterMap.mpr ⟨f, inside, row?_ok decoded pack.reserved⟩
    have filled := List.ne_nil_of_mem (account.made.mem_iff.mpr row)
    refine ⟨_, Table.shows_map header printedCells (fun ⟨_, _⟩ => rfl) _, ?_⟩
    rw [← account.counts, ← text_summary, ← printed_skippedLines]
    refine Eq.trans ?_ (congrArg (Report.mk 0 · "") (printed_lines filled))
    change reportOf ((ofPack pack (some data)).map lines) = _
    rw [ofPack_ok loaded]
    rfl
  · intro unreadable
    obtain ⟨place, why, failed⟩ := Pack.documents_unreadable formed unreadable pack.path
    refine ⟨place, why, ?_⟩
    change reportOf ((ofPack pack (some data)).map lines) = _
    rw [ofPack_error failed]
    exact Report.failure_eq [] _

/-- A bell, and a document that is no object. -/
def bells : List (String × Tree) :=
  [("luckbox", .directory [("outcomes", .directory
    [("bell.json", .file (some "\x7b\"type\":\"sound\",\"sound_event\":\"bell\"\x7d")),
      ("rust.json", .file (some "7"))])])]

theorem wellFormed_bells : (Tree.directory bells).WellFormed := by
  have fit : Tree.FitName "luckbox" ∧ Tree.FitName "outcomes" ∧ Tree.FitName "bell.json" ∧
      Tree.FitName "rust.json" := by
    unfold Tree.FitName
    decide
  obtain ⟨scope, outcomes, bell, rust⟩ := fit
  have rising : "bell.json" < "rust.json" := by decide
  refine ⟨List.pairwise_singleton _ _, scope, ⟨List.pairwise_singleton _ _, outcomes, ?_⟩, trivial⟩
  exact ⟨⟨List.pairwise_pair.mpr rising, bell, trivial, rust, trivial, trivial⟩, trivial⟩

theorem listing_of_bells :
    let bell : File := ⟨["luckbox", "outcomes", "bell.json"], ⟨"luckbox", "bell"⟩,
      .object [("sound_event", .string "bell"), ("type", .string "sound")]⟩
    let rust : File := ⟨["luckbox", "outcomes", "rust.json"], ⟨"luckbox", "rust"⟩,
      .number (.integer 7)⟩
    (Tree.directory bells).WellFormed ∧ (Tree.directory bells).Named ∧
      (Tree.directory bells).Readable ∧
      (∃ (files : List File) (rows : List (Partition × Definition)) (r : LoadReport)
          (table : List String), bell ∈ files ∧ rust ∈ files ∧
        Accounts defaultReserved files rows r ∧
        Table.Shows ["Outcome", "Partition", "Type", "Luck", "Chance", "Delay"]
          (rows.map printedCells) table) ∧
      Command.perform (some (.directory bells)) ⟨0⟩ (.list {}) = {
        code := 0
        errors := ""
        output :=
        "+--------------+-----------+-------+------+--------+-------+\n" ++
        "| Outcome      | Partition | Type  | Luck | Chance | Delay |\n" ++
        "+==========================================================+\n" ++
        "| luckbox:bell | random    | sound | 0    | 1      | -     |\n" ++
        "+--------------+-----------+-------+------+--------+-------+\n" ++
        "\n  1 outcomes (1 random, 0 nonrandom)\n  1 skipped\n" ++
        "    luckbox:rust malformed outcome 'luckbox:rust': expected a JSON object\n" } := by
  intro bell rust
  have formed := wellFormed_bells
  have named : (Tree.directory bells).Named := Pack.named_of_leaves formed (by decide)
  have readable : (Tree.directory bells).Readable := by
    intro scope path why leads
    have inside : (scope :: "outcomes" :: path, Tree.locked why) ∈ (Tree.directory bells).leaves :=
      (Tree.mem_leaves _ formed).mpr ⟨trivial, leads⟩
    simp [bells, Tree.leaves, Tree.leavesOf, Tree.above] at inside
  obtain ⟨files, rows, r, _, offered, _, account, prints, _⟩ :=
    listing_complete bells formed named {} ⟨0⟩
  have inside : bell ∈ files := by
    refine (offered bell).mpr ⟨"luckbox", [], "bell", _, rfl, by decide, rfl, rfl, ?_, rfl⟩
    exact (Identifier.fault?_eq_none_iff ⟨_, _⟩).mp (by decide)
  have inside' : rust ∈ files := by
    refine (offered rust).mpr ⟨"luckbox", [], "rust", _, rfl, by decide, rfl, rfl, ?_, rfl⟩
    exact (Identifier.fault?_eq_none_iff ⟨_, _⟩).mp (by decide)
  have decodes : ∃ f ∈ files, ∃ d, Definition.decode f.id f.document = .ok d :=
    ⟨bell, inside, _, rfl⟩
  obtain ⟨table, shows, _⟩ := prints readable decodes
  exact ⟨formed, named, readable, ⟨files, rows, r, table, inside, inside', account, shows⟩,
    by decide +kernel⟩

end Fortune.Command.Listing
