import Fortune.Proofs.Command.Listing
import Fortune.Proofs.Engine.Selections
import Mathlib.Algebra.BigOperators.Group.Finset.Basic
import Mathlib.Algebra.Order.BigOperators.Group.Multiset
import Mathlib.Algebra.Order.Ring.Nat

/-!
Tallies on the command line. Every draw lands on one row of the table, the row of what it brings up,
so the hits of all rows together are the draws made.
-/
namespace Fortune

/-- There is a data directory, and all outcomes in it can be listed. -/
def Pack.Given (data : Option Tree) : Prop :=
  ∃ entries, data = some (.directory entries) ∧ (Tree.directory entries).Readable

theorem Pack.given_iff {data : Option Tree} (formed : ∀ t ∈ data, t.WellFormed) (path : String) :
    Pack.Given data ↔ ∃ documents, Pack.documents path data = .ok documents := by
  constructor
  · rintro ⟨entries, rfl, readable⟩
    exact ⟨_, Pack.documents_readable (formed _ rfl) readable path⟩
  · rintro ⟨documents, read⟩
    cases data with
    | none => cases read
    | some t =>
        cases t with
        | file text => cases read
        | locked why => cases read
        | directory entries =>
            refine ⟨entries, rfl, ?_⟩
            apply Classical.byContradiction
            intro unreadable
            obtain ⟨place, why, failed⟩ := Pack.documents_unreadable (formed _ rfl) unreadable path
            rw [failed] at read
            cases read

namespace Command

def Draws.engine (draws : Draws) (documents : List (Identifier × Document)) : Engine :=
  ((Engine.ofSettings ⟨draws.seed, draws.pack.reserved⟩).load documents).1

/-- A document of the pack makes a definition of this identifier, and it is not reserved. -/
def Draws.Offers (draws : Draws) (data : Option Tree) (id : Identifier) : Prop :=
  ¬draws.pack.reserved.toList <+: id.path.toList ∧
    ∃ documents document d, Pack.documents draws.pack.path data = .ok documents ∧
      (id, document) ∈ documents ∧ Definition.decode id document = .ok d

namespace Tally
open Decimal

/-- The draw brought this identifier up. -/
def brings (id : Identifier) : Except Outcome.Error Definition → Bool
  | .ok d => d.id == id
  | .error _ => false

/-- The rows tell of so many draws of an engine: one row for each definition of the random
partition, in the order of identifiers, with its share and with the draws that brought it up. -/
structure Tells (e : Engine) (luck : Int) (count : Nat) (rows : List TallyRow) : Prop where
  definitions : rows.map (fun row => (row.definition.id, row.definition)) =
    e.registry.snapshot.random
  shares : rows.map (fun row => (row.definition.id, row.share)) = e.registry.shares luck
  ordered : (rows.map (·.definition.id)).Pairwise fun a b =>
    a.scope < b.scope ∨ a.scope = b.scope ∧ a.path < b.path
  total : (rows.map TallyRow.hits).sum = count
  hits : ∀ row ∈ rows, row.hits = (e.selections luck count).countP (brings row.definition.id)

theorem sum_count {keys ids : List Identifier} (distinct : keys.Nodup)
    (inside : ∀ id ∈ ids, id ∈ keys) : (keys.map ids.count).sum = ids.length := by
  have total := Multiset.sum_count_eq_card (s := keys.toFinset) (m := (ids : Multiset Identifier))
    (by simpa using inside)
  rw [List.sum_toFinset _ distinct] at total
  simpa using total

/-! The rows of a registry. -/

section Rows

variable (r : Registry) (luck : Int) (drawn : List Definition)

theorem rowsOf_eq :
    rowsOf r luck drawn = (r.snapshot.random.zip (r.shares luck)).map fun pair =>
      ⟨pair.1.2, pair.2.2, (drawn.map Definition.id).count pair.1.1⟩ := by
  rw [List.map_zip_eq_zipWith]
  rfl

theorem length_shares : (r.shares luck).length = r.snapshot.random.length := by
  rw [Registry.length_random, ← Registry.shares_fst r luck, List.length_map]

/-- What is said of the definition in a row and of its hits can be read off the partition. -/
theorem map_rowsOf {β : Type} (f : Identifier × Definition → β) (g : TallyRow → β)
    (same : ∀ id d share, (id, d) ∈ r.snapshot.random →
      g ⟨d, share, (drawn.map Definition.id).count id⟩ = f (id, d)) :
    (rowsOf r luck drawn).map g = r.snapshot.random.map f := by
  let pairs := r.snapshot.random.zip (r.shares luck)
  calc (rowsOf r luck drawn).map g
      = pairs.map (f ∘ Prod.fst) := by
        rw [rowsOf_eq, List.map_map]
        apply List.map_congr_left
        intro pair inside
        exact same _ _ _ (List.of_mem_zip inside).1
    _ = (pairs.map Prod.fst).map f := List.map_map.symm
    _ = r.snapshot.random.map f := by rw [List.map_fst_zip (length_shares r luck).ge]

theorem map_hits_rowsOf :
    (rowsOf r luck drawn).map TallyRow.hits = r.randomIds.map (drawn.map Definition.id).count := by
  rw [Registry.randomIds, List.map_map]
  exact map_rowsOf r luck drawn _ _ fun _ _ _ _ => rfl

theorem map_share_rowsOf :
    (rowsOf r luck drawn).map TallyRow.share = (r.ladder luck).shares := by
  let pairs := r.snapshot.random.zip (r.shares luck)
  calc (rowsOf r luck drawn).map TallyRow.share
      = pairs.map (Prod.snd ∘ Prod.snd) := by
        rw [rowsOf_eq, List.map_map]
        rfl
    _ = (pairs.map Prod.snd).map Prod.snd := List.map_map.symm
    _ = (r.ladder luck).shares := by
        rw [List.map_snd_zip (length_shares r luck).le, Registry.shares_snd]

variable {r} (loaded : r.Loaded)
include loaded

theorem map_definition_rowsOf :
    (rowsOf r luck drawn).map (fun row => (row.definition.id, row.definition)) =
      r.snapshot.random := by
  rw [map_rowsOf r luck drawn id, List.map_id]
  intro key d share inside
  exact congrArg (·, d) (loaded.random_id inside)

theorem map_id_rowsOf : (rowsOf r luck drawn).map (·.definition.id) = r.randomIds := by
  rw [Registry.randomIds, ← map_definition_rowsOf luck drawn loaded, List.map_map]
  rfl

theorem increasing_random : Keyed.Increasing r.snapshot.random := by
  obtain ⟨reserved, documents, loaded⟩ := loaded
  exact loaded.increasing .random

end Rows

theorem count_chosen (chosen : List Definition) (id : Identifier) :
    (chosen.map Definition.id).count id =
      (chosen.map Except.ok : List (Except Outcome.Error Definition)).countP (brings id) := by
  rw [List.count_eq_countP, List.countP_map, List.countP_map]
  rfl

/-- The rows made of what was drawn tell of the draws that brought it up. -/
theorem tells_rowsOf {e : Engine} (loaded : e.registry.Loaded) {luck : Int} {count : Nat}
    {chosen : List Definition} (made : e.selections luck count = chosen.map .ok) :
    Tells e luck count (rowsOf e.registry luck chosen) where
  definitions := map_definition_rowsOf luck chosen loaded
  shares := by
    rw [← List.zip_map', map_id_rowsOf luck chosen loaded, map_share_rowsOf]
    rfl
  ordered := by
    rw [map_id_rowsOf luck chosen loaded]
    exact (increasing_random loaded).imp Identifier.lt_iff.mp
  total := by
    have size : chosen.length = count := by
      rw [← e.length_selections luck count, made, List.length_map]
    have distinct : e.registry.randomIds.Nodup := (increasing_random loaded).nodup_keys
    -- Each draw is counted once, since what it brings up is in one row and no other.
    rw [map_hits_rowsOf, sum_count distinct, List.length_map, size]
    intro id inside
    obtain ⟨d, member, rfl⟩ := List.mem_map.mp inside
    refine Engine.id_of_selection loaded (?_ : .ok d ∈ e.selections luck count)
    rw [made]
    exact List.mem_map_of_mem member
  hits := by
    intro row inside
    rw [rowsOf_eq] at inside
    obtain ⟨⟨⟨id, d⟩, key, share⟩, member, rfl⟩ := List.mem_map.mp inside
    obtain rfl := loaded.random_id (List.of_mem_zip member).1
    rw [made]
    exact count_chosen chosen d.id

/-! The printed tally. -/

/-- The cells of a row as they are printed, when `count` draws were made. Both fractions are in
hundredths with one place after the point. -/
def printedCells (count : Nat) (row : TallyRow) : List String :=
  let d := row.definition
  let fraction : Float := if count = 0 then 0 else Float.ofNat row.hits / Float.ofNat count
  [d.id.scope ++ ":" ++ d.id.path, toString d.effectiveLuck,
    String.ofList (floatText d.effectiveChance),
    String.ofList (tenthsText (row.share * 100)) ++ "%",
    String.ofList (tenthsText (fraction * 100)) ++ "%" ++ " (" ++ toString row.hits ++ ")"]

theorem cells_eq (count : Nat) (row : TallyRow) : cells count row = printedCells count row := by
  simp only [cells, ofList_intText, ofList_natText]
  rfl

theorem text_title (draws : Draws) :
    title draws ++ "\n" = "  Draws (" ++ toString draws.count ++ " draws, luck=" ++
      toString draws.luck ++ ", seed=" ++ toString draws.seed.toNat ++ ")\n" := by
  simp only [title, ofList_natText, ofList_intText, String.append_assoc]
  rfl

theorem printed_lines (t : Tally) :
    printed t.lines = title t.draws ++ "\n" ++ "\n" ++
      printed (Table.lines header (t.rows.map (printedCells t.draws.count))) := by
  have cells : t.rows.map (cells t.draws.count) = t.rows.map (printedCells t.draws.count) :=
    List.map_congr_left fun row _ => cells_eq _ row
  rw [lines, cells, printed_cons, printed_cons, String.empty_append, ← String.append_assoc]

/-! The command. -/

section Perform

variable {draws : Draws} {data : Option Tree} {documents : List (Identifier × Document)}

theorem loaded_engine (draws : Draws) (documents : List (Identifier × Document)) :
    (draws.engine documents).registry.Loaded :=
  ⟨draws.pack.reserved, documents, Snapshot.loaded_decode _ documents⟩

theorem offers_iff (read : Pack.documents draws.pack.path data = .ok documents)
    {id : Identifier} :
    draws.Offers data id ↔ id ∈ (draws.engine documents).registry.randomIds := by
  have loaded : Snapshot.Loaded draws.pack.reserved documents
      (draws.engine documents).registry.snapshot := Snapshot.loaded_decode _ documents
  have made : (∃ d, Snapshot.LastMade documents id d) ↔
      ∃ document d, (id, document) ∈ documents ∧ Definition.decode id document = .ok d :=
    Snapshot.exists_lastMade id
  constructor
  · rintro ⟨free, documents', document, d, read', inside, decoded⟩
    rw [read] at read'
    cases read'
    obtain ⟨last, lastMade⟩ := made.mpr ⟨document, d, inside, decoded⟩
    have home := (Snapshot.partitionOf_eq_random_iff _ id).mpr free
    exact List.mem_map.mpr ⟨(id, last), (loaded.mem_part .random id last).mpr ⟨home, lastMade⟩, rfl⟩
  · intro inside
    obtain ⟨⟨_, last⟩, member, rfl⟩ := List.mem_map.mp inside
    obtain ⟨home, lastMade⟩ := (loaded.mem_part .random _ last).mp member
    obtain ⟨document, d, given, decoded⟩ := made.mp ⟨last, lastMade⟩
    exact ⟨(Snapshot.partitionOf_eq_random_iff _ _).mp home, documents, document, d, read, given,
      decoded⟩

theorem ofDraws_eq (read : Pack.documents draws.pack.path data = .ok documents) :
    ofDraws draws data = do
      let drawn ← ((draws.engine documents).selectMany draws.luck draws.count).1.mapError .outcome
      return ⟨draws, rowsOf (draws.engine documents).registry draws.luck drawn⟩ := by
  rw [ofDraws, PackChoice.load, read]
  rfl

theorem perform_unread {e : Pack.Error} (failed : Pack.documents draws.pack.path data = .error e)
    (uuid : Uuid) : Command.perform data uuid (.draw draws) = .failure [] (.pack e) := by
  rw [Command.perform, ofDraws, PackChoice.load, failed]
  rfl

theorem perform_exhausted (read : Pack.documents draws.pack.path data = .ok documents)
    (some : 0 < draws.count) (none : (draws.engine documents).registry.randomIds = [])
    (uuid : Uuid) :
    Command.perform data uuid (.draw draws) =
      .failure [] (.outcome (.registryEmpty (.some .random))) := by
  rw [Command.perform, ofDraws_eq read, Engine.selectMany_of_empty none draws.luck some]
  rfl

/-- No draws, or something for each of them to bring up. -/
theorem exists_tally (read : Pack.documents draws.pack.path data = .ok documents)
    (able : draws.count = 0 ∨ (draws.engine documents).registry.randomIds ≠ []) (uuid : Uuid) :
    ∃ rows, Tells (draws.engine documents) draws.luck draws.count rows ∧
      rows.map (·.definition.id) = (draws.engine documents).registry.randomIds ∧
      Command.perform data uuid (.draw draws) = .success (lines ⟨draws, rows⟩) := by
  let e := draws.engine documents
  have drawn : ∃ chosen, (e.selectMany draws.luck draws.count).1 = .ok chosen ∧
      e.selections draws.luck draws.count = chosen.map .ok := by
    rcases able with none | some
    · rw [none]
      exact ⟨[], rfl, rfl⟩
    · exact Engine.selectMany_of_some some draws.luck draws.count
  obtain ⟨chosen, selected, made⟩ := drawn
  have loaded : e.registry.Loaded := loaded_engine draws documents
  refine ⟨rowsOf e.registry draws.luck chosen, tells_rowsOf loaded made, ?_, ?_⟩
  · exact map_id_rowsOf draws.luck chosen loaded
  · rw [Command.perform, ofDraws_eq read, selected]
    rfl

/-- Either there is a pack and something to draw, should anything be drawn at all, or it fails. -/
theorem perform_cases (formed : ∀ t ∈ data, t.WellFormed) (uuid : Uuid) :
    (∃ documents rows, Pack.documents draws.pack.path data = .ok documents ∧
      ¬(0 < draws.count ∧ ∀ id, ¬draws.Offers data id) ∧
      Tells (draws.engine documents) draws.luck draws.count rows ∧
      (∀ id, id ∈ rows.map (·.definition.id) ↔ draws.Offers data id) ∧
      Command.perform data uuid (.draw draws) = .success (lines ⟨draws, rows⟩)) ∨
    (¬Pack.Given data ∨ 0 < draws.count ∧ ∀ id, ¬draws.Offers data id) ∧
      ∃ why, Command.perform data uuid (.draw draws) = .failure [] why := by
  by_cases given : Pack.Given data
  · obtain ⟨documents, read⟩ := (Pack.given_iff formed draws.pack.path).mp given
    let ids := (draws.engine documents).registry.randomIds
    have offered (id : Identifier) : draws.Offers data id ↔ id ∈ ids := offers_iff read
    have empty : (∀ id, ¬draws.Offers data id) ↔ ids = [] := by
      rw [List.eq_nil_iff_forall_not_mem]
      simp only [offered]
    by_cases able : draws.count = 0 ∨ ids ≠ []
    · obtain ⟨rows, tells, same, printed⟩ := exists_tally read able uuid
      refine .inl ⟨documents, rows, read, ?_, tells, ?_, printed⟩
      · rintro ⟨some, none⟩
        exact able.elim (Nat.ne_of_gt some) fun filled => filled (empty.mp none)
      · intro id
        rw [same, offered]
    · obtain ⟨some, none⟩ := not_or.mp able
      have some : 0 < draws.count := Nat.pos_of_ne_zero some
      have none : ids = [] := not_not.mp none
      exact .inr ⟨.inr ⟨some, empty.mpr none⟩, _, perform_exhausted read some none uuid⟩
  · cases read : Pack.documents draws.pack.path data with
    | ok documents => exact absurd ((Pack.given_iff formed _).mpr ⟨documents, read⟩) given
    | error e => exact .inr ⟨.inl given, _, perform_unread read uuid⟩

end Perform

/-- A tally is printed if there is a pack and something to draw, should anything be drawn at all. It
has one row for each identifier offered, with the hits that the draws of a fresh engine make. If it
fails, nothing is printed. -/
theorem tally_exact (draws : Draws) {data : Option Tree} (formed : ∀ t ∈ data, t.WellFormed)
    (uuid : Uuid) :
    let report := Command.perform data uuid (.draw draws)
    (report.code = 0 → ∃ documents rows, Pack.documents draws.pack.path data = .ok documents ∧
      Tells (draws.engine documents) draws.luck draws.count rows ∧
      (∀ id, id ∈ rows.map (·.definition.id) ↔ draws.Offers data id) ∧
      ∃ table, Table.Shows ["Outcome", "Luck", "Chance", "Expected", "Observed"]
          (rows.map (printedCells draws.count)) table ∧
        report = { code := 0, errors := "", output :=
          "  Draws (" ++ toString draws.count ++ " draws, luck=" ++ toString draws.luck ++
            ", seed=" ++ toString draws.seed.toNat ++ ")\n" ++ "\n" ++
            String.join (table.map (· ++ "\n")) }) ∧
    (report.code ≠ 0 ↔ ¬Pack.Given data ∨ 0 < draws.count ∧ ∀ id, ¬draws.Offers data id) ∧
    (report.code ≠ 0 → report.output = "") := by
  intro report
  rcases perform_cases formed uuid with
    ⟨documents, rows, read, able, tells, shown, succeeds⟩ | ⟨reason, why, failed⟩
  · have code : report.code = 0 := congrArg Report.code succeeds
    have given : Pack.Given data := (Pack.given_iff formed _).mpr ⟨documents, read⟩
    have shows := Table.shows_map header (printedCells draws.count) (fun _ => rfl) rows
    refine ⟨fun _ => ⟨documents, rows, read, tells, shown, _, shows, ?_⟩, ?_,
      fun failed => absurd code failed⟩
    · refine succeeds.trans (congrArg (Report.mk 0 · "") ?_)
      rw [← text_title]
      exact printed_lines _
    · refine ⟨fun failed => absurd code failed, ?_⟩
      rintro (missing | exhausted)
      · exact absurd given missing
      · exact absurd exhausted able
  · have code : report.code ≠ 0 := by
      rw [show report = .failure [] why from failed]
      exact Nat.one_ne_zero
    refine ⟨fun done => absurd done code, iff_of_true code reason, fun _ => ?_⟩
    exact congrArg Report.output failed

/-- The bell that the pack offers. Its chance of one is the default. -/
def bell : Definition where
  id := ⟨"luckbox", "bell"⟩
  kind := .sound
  luck := none
  chance := none
  delay := none
  pos := none
  document := .object [("sound_event", .string "bell"), ("type", .string "sound")]

theorem random_of_bells :
    (Snapshot.decode defaultReserved
      [(bell.id, bell.document), (⟨"luckbox", "rust"⟩, .number (.integer 7))]).1.random =
        [(bell.id, bell)] := rfl

/-- The share is left open: powers of floats have no value in proofs. -/
theorem tally_of_bells :
    let draws : Draws := { luck := -3, count := 5, seed := 7 }
    let data := some (Tree.directory Listing.bells)
    (∀ t ∈ data, t.WellFormed) ∧ ∃ (share : Float) (table : List String),
      Table.Shows ["Outcome", "Luck", "Chance", "Expected", "Observed"]
        [["luckbox:bell", "0", "1", String.ofList (tenthsText (share * 100)) ++ "%",
          "100.0% (5)"]] table ∧
      Command.perform data ⟨0⟩ (.draw draws) = { code := 0, errors := "", output :=
        "  Draws (5 draws, luck=-3, seed=7)\n\n" ++ String.join (table.map (· ++ "\n")) } := by
  intro draws data
  have formed : ∀ t ∈ data, t.WellFormed := by
    intro t same
    obtain rfl : Tree.directory Listing.bells = t := Option.some.inj same
    exact Listing.wellFormed_bells
  obtain ⟨succeeds, fails, _⟩ := tally_exact draws formed ⟨0⟩
  have offered : draws.Offers data ⟨"luckbox", "bell"⟩ := by
    exact ⟨by decide, _, _, _, rfl, List.mem_cons_self, rfl⟩
  have code : (Command.perform data ⟨0⟩ (.draw draws)).code = 0 := by
    apply Classical.byContradiction
    intro failed
    rcases fails.mp failed with missing | ⟨_, none⟩
    · obtain ⟨_, documents, _, _, read, _⟩ := offered
      exact missing ((Pack.given_iff formed _).mpr ⟨documents, read⟩)
    · exact none _ offered
  obtain ⟨documents, rows, read, tells, _, table, shows, printed⟩ := succeeds code
  have given : Pack.documents draws.pack.path data =
      .ok [(bell.id, bell.document), (⟨"luckbox", "rust"⟩, .number (.integer 7))] := rfl
  obtain rfl := Except.ok.inj (read.symm.trans given)
  obtain ⟨row, rfl, own⟩ := List.map_eq_singleton_iff.mp (tells.definitions.trans random_of_bells)
  have hits : row.hits = 5 := tells.total
  have definition : row.definition = bell := congrArg Prod.snd own
  have chance : String.ofList (floatText bell.effectiveChance) = "1" := by decide +kernel
  have whole : String.ofList (tenthsText (Float.ofNat 5 / Float.ofNat 5 * 100)) = "100.0" := by
    decide +kernel
  have cells : printedCells 5 row = ["luckbox:bell", "0", "1",
      String.ofList (tenthsText (row.share * 100)) ++ "%", "100.0% (5)"] := by
    simp only [printedCells, definition, hits, chance]
    rw [if_neg (by decide), whole]
    rfl
  have heading : "  Draws (" ++ toString 5 ++ " draws, luck=" ++ toString (-3 : Int) ++ ", seed=" ++
      toString (7 : UInt64).toNat ++ ")\n" ++ "\n" = "  Draws (5 draws, luck=-3, seed=7)\n\n" := by
    decide
  refine ⟨formed, row.share, table, ?_, ?_⟩
  · rw [← cells]
    exact shows
  · rw [← heading]
    exact printed

end Tally
end Command
end Fortune
