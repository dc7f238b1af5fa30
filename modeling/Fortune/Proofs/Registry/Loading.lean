import Fortune.Proofs.Identifier
import Fortune.Proofs.Keyed
import Fortune.Proofs.Outcome.Definition
import Fortune.Registry.Snapshot
import Mathlib.Data.List.Induction

/-!
What loading makes of documents. A definition is loaded if its document is the last of its
identifier that makes one; what is replaced, and what lies where, follows from that alone.
-/
namespace Fortune.Snapshot

def made? : Identifier × Document → Option Definition
  | (id, document) => (Definition.decode id document).toOption

/-- The report of a document that makes no definition. -/
def skipped? : Identifier × Document → Option Skipped
  | (id, document) =>
    match Definition.decode id document with
    | .ok _ => none
    | .error e => some ⟨id, e⟩

theorem made?_ok {id : Identifier} {document : Document} {d : Definition}
    (h : Definition.decode id document = .ok d) : made? (id, document) = some d := by
  rw [made?, h]
  rfl

theorem made?_error {id : Identifier} {document : Document} {e : Outcome.Error}
    (h : Definition.decode id document = .error e) : made? (id, document) = none := by
  rw [made?, h]
  rfl

theorem skipped?_ok {id : Identifier} {document : Document} {d : Definition}
    (h : Definition.decode id document = .ok d) : skipped? (id, document) = none := by
  rw [skipped?, h]

theorem skipped?_error {id : Identifier} {document : Document} {e : Outcome.Error}
    (h : Definition.decode id document = .error e) :
    skipped? (id, document) = some ⟨id, e⟩ := by
  rw [skipped?, h]

/-- The definition is made by the last document of the identifier that makes one. -/
def LastMade (documents : List (Identifier × Document)) (id : Identifier) (d : Definition) : Prop :=
  ∃ before document after, documents = before ++ (id, document) :: after ∧
    Definition.decode id document = .ok d ∧
    ∀ other, (id, other) ∈ after → ∃ e, Definition.decode id other = .error e

section LastMade

variable {documents : List (Identifier × Document)}

theorem not_lastMade_nil (id : Identifier) (d : Definition) : ¬LastMade [] id d := by
  rintro ⟨before, own, after, split, _, _⟩
  exact List.append_ne_nil_of_right_ne_nil before (List.cons_ne_nil _ _) split.symm

theorem lastMade_snoc {key id : Identifier} {document : Document} {d : Definition} :
    LastMade (documents ++ [(key, document)]) id d ↔
      (id = key ∧ Definition.decode key document = .ok d) ∨
        LastMade documents id d ∧ (id = key → ∃ e, Definition.decode key document = .error e) := by
  constructor
  · rintro ⟨before, own, after, split, decoded, failed⟩
    induction after using List.reverseRecOn with
    | nil =>
        obtain ⟨_, same⟩ := List.append_inj' split rfl
        cases same
        exact Or.inl ⟨rfl, decoded⟩
    | append_singleton after last =>
        rw [← List.cons_append, ← List.append_assoc] at split
        obtain ⟨front, same⟩ := List.append_inj' split rfl
        cases same
        refine Or.inr ⟨⟨before, own, after, front, decoded, ?_⟩, ?_⟩
        · exact fun other h => failed other (List.mem_append_left _ h)
        · rintro rfl
          exact failed document (by simp)
  · rintro (⟨rfl, decoded⟩ | ⟨⟨before, own, after, rfl, decoded, failed⟩, last⟩)
    · exact ⟨documents, document, [], rfl, decoded, fun _ h => absurd h List.not_mem_nil⟩
    · refine ⟨before, own, after ++ [(key, document)], by simp, decoded, ?_⟩
      intro other h
      rcases List.mem_append.mp h with old | new
      · exact failed other old
      · cases List.mem_singleton.mp new
        exact last rfl

theorem exists_lastMade (id : Identifier) :
    (∃ d, LastMade documents id d) ↔
      ∃ document d, (id, document) ∈ documents ∧ Definition.decode id document = .ok d := by
  constructor
  · rintro ⟨d, before, own, after, rfl, decoded, _⟩
    exact ⟨own, d, by simp, decoded⟩
  · induction documents using List.reverseRecOn with
    | nil => simp
    | append_singleton documents last ih =>
        obtain ⟨key, lastDocument⟩ := last
        rintro ⟨document, d, h, decoded⟩
        rcases List.mem_append.mp h with old | new
        · obtain ⟨earlier, made⟩ := ih ⟨document, d, old, decoded⟩
          cases outcome : Definition.decode key lastDocument with
          | ok later =>
              by_cases same : id = key
              · exact ⟨later, lastMade_snoc.mpr (.inl ⟨same, outcome⟩)⟩
              · exact ⟨earlier, lastMade_snoc.mpr (.inr ⟨made, fun h => absurd h same⟩)⟩
          | error e => exact ⟨earlier, lastMade_snoc.mpr (.inr ⟨made, fun _ => ⟨e, outcome⟩⟩)⟩
        · cases List.mem_singleton.mp new
          exact ⟨d, lastMade_snoc.mpr (.inl ⟨rfl, decoded⟩)⟩

/-- Among distinct identifiers every document is the last of its own. -/
theorem lastMade_of_distinct (distinct : (documents.map Prod.fst).Nodup) (id : Identifier)
    (d : Definition) :
    LastMade documents id d ↔
      ∃ document, (id, document) ∈ documents ∧ Definition.decode id document = .ok d := by
  constructor
  · rintro ⟨before, own, after, rfl, decoded, _⟩
    exact ⟨own, by simp, decoded⟩
  · rintro ⟨document, h, decoded⟩
    obtain ⟨before, after, rfl⟩ := List.append_of_mem h
    refine ⟨before, document, after, rfl, decoded, ?_⟩
    intro other later
    rw [List.map_append, List.map_cons] at distinct
    have alone := (List.nodup_cons.mp (List.nodup_append.mp distinct).2.1).1
    exact absurd (List.mem_map_of_mem later) alone

end LastMade

theorem partitionOf_eq_nonrandom_iff (reserved : String) (id : Identifier) :
    partitionOf reserved id = .nonrandom ↔ reserved.toList <+: id.path.toList := by
  unfold partitionOf
  rw [← List.isPrefixOf_iff_prefix]
  split <;> simp_all

theorem partitionOf_eq_random_iff (reserved : String) (id : Identifier) :
    partitionOf reserved id = .random ↔ ¬reserved.toList <+: id.path.toList := by
  rw [← partitionOf_eq_nonrandom_iff]
  cases partitionOf reserved id <;> simp

def part (s : Snapshot) : Partition → List (Identifier × Definition)
  | .random => s.random
  | .nonrandom => s.nonrandom

theorem part_insert (reserved : String) (s : Snapshot) (d : Definition) (p : Partition) :
    (insert reserved s d).part p =
      if partitionOf reserved d.id = p then Keyed.insert d.id d (s.part p) else s.part p := by
  unfold insert
  cases partitionOf reserved d.id <;> cases p <;> rfl

theorem ext_part {s other : Snapshot} (h : ∀ p, s.part p = other.part p) : s = other := by
  cases s
  cases other
  exact congrArg₂ Snapshot.mk (h .random) (h .nonrandom)

/-- The snapshot holds what the documents make, and nothing else. -/
structure Loaded (reserved : String) (documents : List (Identifier × Document)) (s : Snapshot) :
    Prop where
  increasing : ∀ p, Keyed.Increasing (s.part p)
  found : ∀ p id d, Keyed.find? id (s.part p) = some d ↔
    partitionOf reserved id = p ∧ LastMade documents id d

namespace Loaded

variable {reserved : String} {documents : List (Identifier × Document)} {s : Snapshot}

theorem empty (reserved : String) : Loaded reserved [] {} := by
  refine ⟨?_, ?_⟩
  · intro p
    cases p <;> exact List.Pairwise.nil
  · intro p id d
    cases p <;> simp [part, Keyed.find?, not_lastMade_nil]

theorem insert (h : Loaded reserved documents s) {key : Identifier} {document : Document}
    {made : Definition} (ok : Definition.decode key document = .ok made) :
    Loaded reserved (documents ++ [(key, document)]) (insert reserved s made) := by
  have own : made.id = key := Definition.decode_id ok
  refine ⟨?_, ?_⟩
  · intro p
    rw [part_insert]
    split
    · exact (h.increasing p).insert _ _
    · exact h.increasing p
  · intro p id d
    rw [part_insert, own, lastMade_snoc, ok]
    by_cases same : id = key
    · subst same
      split
      · rename_i here
        simp [Keyed.find?_insert, here]
      · rename_i elsewhere
        simp [h.found, elsewhere]
    · split
      · simp [Keyed.find?_insert, h.found, same]
      · simp [h.found, same]

theorem skip (h : Loaded reserved documents s) {key : Identifier} {document : Document}
    {e : Outcome.Error} (error : Definition.decode key document = .error e) :
    Loaded reserved (documents ++ [(key, document)]) s := by
  refine ⟨h.increasing, ?_⟩
  intro p id d
  rw [lastMade_snoc, h.found, error]
  simp

theorem mem_part (h : Loaded reserved documents s) (p : Partition) (id : Identifier)
    (d : Definition) :
    (id, d) ∈ s.part p ↔ partitionOf reserved id = p ∧ LastMade documents id d := by
  rw [(h.increasing p).mem_iff, h.found]

theorem find?_iff (h : Loaded reserved documents s) (id : Identifier) (d : Definition) :
    s.find? id = some d ↔ LastMade documents id d := by
  unfold find?
  constructor
  · intro found
    split at found
    · rename_i other here
      cases found
      exact ((h.found .nonrandom id d).mp here).2
    · exact ((h.found .random id d).mp found).2
  · intro made
    cases home : partitionOf reserved id with
    | nonrandom =>
        have here : Keyed.find? id s.nonrandom = some d :=
          (h.found .nonrandom id d).mpr ⟨home, made⟩
        rw [here]
    | random =>
        have here : Keyed.find? id s.random = some d := (h.found .random id d).mpr ⟨home, made⟩
        have absent : Keyed.find? id s.nonrandom = none := by
          rw [Option.eq_none_iff_forall_ne_some]
          intro other found
          have elsewhere := ((h.found .nonrandom id other).mp found).1
          rw [home] at elsewhere
          cases elsewhere
        rw [absent]
        exact here

theorem disjoint (h : Loaded reserved documents s) :
    (s.random.map Prod.fst).Disjoint (s.nonrandom.map Prod.fst) := by
  rintro id here there
  obtain ⟨⟨_, d⟩, hd, rfl⟩ := List.mem_map.mp here
  obtain ⟨⟨_, other⟩, hother, rfl⟩ := List.mem_map.mp there
  have random := ((h.mem_part .random _ _).mp hd).1
  have nonrandom := ((h.mem_part .nonrandom _ _).mp hother).1
  rw [random] at nonrandom
  cases nonrandom

theorem ext {others : List (Identifier × Document)} {other : Snapshot}
    (h : Loaded reserved documents s) (h' : Loaded reserved others other)
    (same : ∀ id d, LastMade documents id d ↔ LastMade others id d) : s = other := by
  apply ext_part
  intro p
  refine (h.increasing p).ext (h'.increasing p) ?_
  intro id
  ext d
  rw [h.found, h'.found, same]

end Loaded

theorem sort_eq (documents : List (Identifier × Document)) :
    sort documents = (documents.filterMap made?, documents.filterMap skipped?) := by
  induction documents with
  | nil => rfl
  | cons first rest ih =>
      obtain ⟨id, document⟩ := first
      unfold sort at ih ⊢
      rw [List.foldr_cons, ih]
      cases outcome : Definition.decode id document with
      | ok d =>
          rw [List.filterMap_cons_some (made?_ok outcome),
            List.filterMap_cons_none (skipped?_ok outcome)]
          simp only [outcome]
      | error e =>
          rw [List.filterMap_cons_none (made?_error outcome),
            List.filterMap_cons_some (skipped?_error outcome)]
          simp only [outcome]

theorem decode_eq (reserved : String) (documents : List (Identifier × Document)) :
    decode reserved documents =
      let s := (documents.filterMap made?).foldl (insert reserved) {}
      (s, ⟨s.random.length, s.nonrandom.length, documents.filterMap skipped?⟩) := by
  unfold decode
  rw [sort_eq]

theorem decode_random (reserved : String) (documents : List (Identifier × Document)) :
    (decode reserved documents).2.random = (decode reserved documents).1.random.length := by
  rw [decode_eq]

theorem decode_nonrandom (reserved : String) (documents : List (Identifier × Document)) :
    (decode reserved documents).2.nonrandom = (decode reserved documents).1.nonrandom.length := by
  rw [decode_eq]

theorem decode_skipped (reserved : String) (documents : List (Identifier × Document)) :
    (decode reserved documents).2.skipped = documents.filterMap skipped? := by
  rw [decode_eq]

theorem loaded_decode (reserved : String) (documents : List (Identifier × Document)) :
    Loaded reserved documents (decode reserved documents).1 := by
  rw [decode_eq]
  induction documents using List.reverseRecOn with
  | nil => exact Loaded.empty reserved
  | append_singleton documents last ih =>
      obtain ⟨key, document⟩ := last
      rw [List.filterMap_append]
      cases outcome : Definition.decode key document with
      | ok made =>
          rw [List.filterMap_cons_some (made?_ok outcome), List.foldl_append]
          exact ih.insert outcome
      | error e =>
          rw [List.filterMap_cons_none (made?_error outcome), List.filterMap_nil, List.append_nil]
          exact ih.skip outcome

/-- The order of documents of distinct identifiers does not matter. -/
theorem decode_perm (reserved : String) {documents others : List (Identifier × Document)}
    (perm : documents.Perm others) (distinct : (documents.map Prod.fst).Nodup) :
    (decode reserved others).1 = (decode reserved documents).1 := by
  have distinct' : (others.map Prod.fst).Nodup := (perm.map Prod.fst).nodup_iff.mp distinct
  refine (loaded_decode reserved others).ext (loaded_decode reserved documents) ?_
  intro id d
  rw [lastMade_of_distinct distinct, lastMade_of_distinct distinct']
  simp only [perm.mem_iff]

/-- Whatever the documents and their order: an identifier is loaded if one of its documents makes a
definition, and as the last of them makes it; its path tells its partition; partitions are in order;
the report counts the partitions and lists the documents that fail. The order of documents matters
to identifiers that repeat, and to the list of failures. -/
theorem decode_exact (reserved : String) (documents : List (Identifier × Document)) :
    let s := (decode reserved documents).1
    let report := (decode reserved documents).2
    (∀ id, (s.find? id).isSome = true ↔
      ∃ document d, (id, document) ∈ documents ∧ Definition.decode id document = .ok d) ∧
    (∀ id d, s.find? id = some d ↔ ∃ before document after,
      documents = before ++ (id, document) :: after ∧ Definition.decode id document = .ok d ∧
        ∀ other, (id, other) ∈ after → ∃ e, Definition.decode id other = .error e) ∧
    (∀ id d, (id, d) ∈ s.nonrandom ↔ s.find? id = some d ∧ reserved.toList <+: id.path.toList) ∧
    (∀ id d, (id, d) ∈ s.random ↔ s.find? id = some d ∧ ¬reserved.toList <+: id.path.toList) ∧
    (s.random.map Prod.fst).Disjoint (s.nonrandom.map Prod.fst) ∧
    (∀ entries ∈ [s.random, s.nonrandom], (entries.map Prod.fst).Pairwise fun a b =>
      a.scope < b.scope ∨ a.scope = b.scope ∧ a.path < b.path) ∧
    report.random = s.random.length ∧ report.nonrandom = s.nonrandom.length ∧
    report.skipped = documents.filterMap (fun (id, document) =>
      match Definition.decode id document with
      | .ok _ => none
      | .error e => some ⟨id, e⟩) ∧
    ∀ others, documents.Perm others → (documents.map Prod.fst).Nodup →
      (decode reserved others).1 = s ∧
      (decode reserved others).2.random = report.random ∧
      (decode reserved others).2.nonrandom = report.nonrandom ∧
      (decode reserved others).2.skipped.Perm report.skipped := by
  intro s report
  have loaded : Loaded reserved documents s := loaded_decode reserved documents
  refine ⟨?_, loaded.find?_iff, ?_, ?_, loaded.disjoint, ?_, ?_, ?_, ?_, ?_⟩
  · intro id
    rw [← exists_lastMade, Option.isSome_iff_exists]
    exact exists_congr (loaded.find?_iff id)
  · intro id d
    rw [loaded.find?_iff, ← partitionOf_eq_nonrandom_iff, and_comm]
    exact loaded.mem_part .nonrandom id d
  · intro id d
    rw [loaded.find?_iff, ← partitionOf_eq_random_iff, and_comm]
    exact loaded.mem_part .random id d
  · intro entries h
    have increasing : Keyed.Increasing entries := by
      rcases List.mem_pair.mp h with rfl | rfl
      · exact loaded.increasing .random
      · exact loaded.increasing .nonrandom
    exact increasing.imp Identifier.lt_iff.mp
  · exact decode_random reserved documents
  · exact decode_nonrandom reserved documents
  · exact decode_skipped reserved documents
  · intro others perm distinct
    have same : (decode reserved others).1 = s := decode_perm reserved perm distinct
    refine ⟨same, ?_, ?_, ?_⟩
    · rw [decode_random, same]
      exact (decode_random reserved documents).symm
    · rw [decode_nonrandom, same]
      exact (decode_nonrandom reserved documents).symm
    · change (decode reserved others).2.skipped.Perm (decode reserved documents).2.skipped
      rw [decode_skipped, decode_skipped]
      exact perm.symm.filterMap skipped?

end Fortune.Snapshot
