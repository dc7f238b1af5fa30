import Fortune.Proofs.Registry.Changes

/-!
Look-up. An identifier lies in one partition at most, and what lies there was made of a document of
that identifier; so it is found whichever partition is searched first.
-/
namespace Fortune

namespace Snapshot

theorem find?_eq_or (s : Snapshot) (id : Identifier) :
    s.find? id = (Keyed.find? id s.nonrandom).or (Keyed.find? id s.random) := by
  unfold find?
  cases Keyed.find? id s.nonrandom <;> rfl

namespace Loaded

variable {reserved : String} {documents : List (Identifier × Document)} {s : Snapshot}

theorem exists_document (h : Loaded reserved documents s) {p : Partition} {id : Identifier}
    {d : Definition} (stored : (id, d) ∈ s.part p) :
    ∃ document, Definition.decode id document = .ok d := by
  obtain ⟨_, before, document, after, _, decoded, _⟩ := (h.mem_part p id d).mp stored
  exact ⟨document, decoded⟩

theorem find?_iff_mem (h : Loaded reserved documents s) (id : Identifier) (d : Definition) :
    s.find? id = some d ↔ ∃ p, (id, d) ∈ s.part p := by
  rw [h.find?_iff]
  constructor
  · intro made
    exact ⟨partitionOf reserved id, (h.mem_part _ id d).mpr ⟨rfl, made⟩⟩
  · rintro ⟨p, stored⟩
    exact ((h.mem_part p id d).mp stored).2

theorem find?_random_first (h : Loaded reserved documents s) (id : Identifier) :
    (Keyed.find? id s.random).or (Keyed.find? id s.nonrandom) = s.find? id := by
  ext d
  rw [h.find?_iff_mem, Option.or_eq_some_iff]
  constructor
  · rintro (here | ⟨_, there⟩)
    · exact ⟨.random, ((h.increasing .random).mem_iff id d).mpr here⟩
    · exact ⟨.nonrandom, ((h.increasing .nonrandom).mem_iff id d).mpr there⟩
  · rintro ⟨p, stored⟩
    have found := ((h.increasing p).mem_iff id d).mp stored
    cases p with
    | random => exact Or.inl found
    | nonrandom =>
        -- The random partition holds nothing of an identifier of the other one.
        have absent : Keyed.find? id s.random = none := by
          rw [Option.eq_none_iff_forall_ne_some]
          intro other here
          have listed : id ∈ s.random.map Prod.fst :=
            List.mem_map_of_mem (((h.increasing .random).mem_iff id other).mpr here)
          have listed' : id ∈ s.nonrandom.map Prod.fst := List.mem_map_of_mem stored
          exact h.disjoint listed listed'
        exact Or.inr ⟨absent, found⟩

end Loaded
end Snapshot

namespace Registry

variable {r : Registry} {id : Identifier}

theorem listed_iff :
    id ∈ r.randomIds ∨ id ∈ r.nonrandomIds ↔ ∃ p d, (id, d) ∈ r.snapshot.part p := by
  constructor
  · rintro (here | there)
    · obtain ⟨⟨_, d⟩, stored, rfl⟩ := List.mem_map.mp here
      exact ⟨.random, d, stored⟩
    · obtain ⟨⟨_, d⟩, stored, rfl⟩ := List.mem_map.mp there
      exact ⟨.nonrandom, d, stored⟩
  · rintro ⟨p, d, stored⟩
    cases p with
    | random => exact Or.inl (List.mem_map_of_mem stored)
    | nonrandom => exact Or.inr (List.mem_map_of_mem stored)

theorem snapshot_size_eq_zero_iff :
    r.snapshot.size = 0 ↔ r.randomIds = [] ∧ r.nonrandomIds = [] := by
  rw [Snapshot.size, Nat.add_eq_zero_iff, List.length_eq_zero_iff, List.length_eq_zero_iff,
    randomIds, nonrandomIds, List.map_eq_nil_iff, List.map_eq_nil_iff]

theorem snapshot_size_ne_zero (listed : id ∈ r.randomIds ∨ id ∈ r.nonrandomIds) :
    r.snapshot.size ≠ 0 := by
  rw [Ne, snapshot_size_eq_zero_iff]
  rintro ⟨random, nonrandom⟩
  rcases listed with here | there
  · exact List.ne_nil_of_mem here random
  · exact List.ne_nil_of_mem there nonrandom

theorem lookup_bare_iff :
    r.lookup id = .error (.registryEmpty none) ↔ r.randomIds = [] ∧ r.nonrandomIds = [] := by
  rw [← snapshot_size_eq_zero_iff, lookup]
  split
  · rename_i bare
    exact iff_of_true rfl bare
  · rename_i some
    refine iff_of_false ?_ some
    intro failed
    split at failed
    · cases failed
    · cases failed

theorem Loaded.lookup_ok_iff (h : r.Loaded) {d : Definition} :
    r.lookup id = .ok d ↔ ∃ p, (id, d) ∈ r.snapshot.part p := by
  obtain ⟨reserved, documents, loaded⟩ := h
  rw [← loaded.find?_iff_mem]
  constructor
  · intro answered
    rw [lookup] at answered
    split at answered
    · cases answered
    · split at answered
      · rename_i found
        exact found.trans (congrArg some (Except.ok.inj answered))
      · cases answered
  · intro found
    obtain ⟨p, stored⟩ := (loaded.find?_iff_mem id d).mp found
    rw [lookup, if_neg (snapshot_size_ne_zero (listed_iff.mpr ⟨p, d, stored⟩)), found]

theorem Loaded.lookup_unknown_iff (h : r.Loaded) :
    r.lookup id = .error (.unknownIdentifier id) ↔
      ¬(r.randomIds = [] ∧ r.nonrandomIds = []) ∧ id ∉ r.randomIds ∧ id ∉ r.nonrandomIds := by
  obtain ⟨reserved, documents, loaded⟩ := h
  rw [← not_or, listed_iff, ← snapshot_size_eq_zero_iff, lookup]
  split
  · rename_i bare
    refine iff_of_false ?_ fun apart => apart.1 bare
    intro failed
    cases failed
  · rename_i some
    split
    · rename_i d found
      obtain ⟨p, stored⟩ := (loaded.find?_iff_mem id d).mp found
      refine iff_of_false ?_ fun apart => apart.2 ⟨p, d, stored⟩
      intro failed
      cases failed
    · rename_i absent
      refine iff_of_true rfl ⟨some, ?_⟩
      rintro ⟨p, d, stored⟩
      rw [(loaded.find?_iff_mem id d).mpr ⟨p, stored⟩] at absent
      cases absent

/-- Whatever was loaded or installed, and with whatever reserved texts: the partitions have no
identifier in common, and what is stored was made under the identifier it is stored under. A look-up
gives the definition of a listed identifier, in whichever order the partitions are searched, and
tells an empty registry from an identifier that is not there. -/
theorem lookup_exact (reserved : String) (changes : List Change) :
    let r := (empty reserved).after changes
    r.randomIds.Disjoint r.nonrandomIds ∧
    (∀ p id d, (id, d) ∈ r.snapshot.part p →
      d.id = id ∧ ∃ document, Definition.decode id document = .ok d) ∧
    ∀ id,
      ((∃ d, r.lookup id = .ok d ∧ d.id = id) ↔ id ∈ r.randomIds ∨ id ∈ r.nonrandomIds) ∧
      (∀ d, r.lookup id = .ok d → d.id = id ∧ ∃ p, (id, d) ∈ r.snapshot.part p) ∧
      (Keyed.find? id r.snapshot.nonrandom).or (Keyed.find? id r.snapshot.random) =
        (Keyed.find? id r.snapshot.random).or (Keyed.find? id r.snapshot.nonrandom) ∧
      (r.lookup id = .error (.registryEmpty none) ↔ r.randomIds = [] ∧ r.nonrandomIds = []) ∧
      (r.lookup id = .error (.unknownIdentifier id) ↔
        ¬(r.randomIds = [] ∧ r.nonrandomIds = []) ∧ id ∉ r.randomIds ∧ id ∉ r.nonrandomIds) := by
  intro r
  have h : r.Loaded := loaded_after reserved changes
  obtain ⟨reserved', documents, loaded⟩ := loaded_after reserved changes
  refine ⟨h.disjoint, ?_, ?_⟩
  · intro p id d stored
    exact ⟨loaded.id_eq stored, loaded.exists_document stored⟩
  · intro id
    refine ⟨?_, ?_, ?_, lookup_bare_iff, h.lookup_unknown_iff⟩
    · rw [listed_iff]
      constructor
      · rintro ⟨d, answered, _⟩
        obtain ⟨p, stored⟩ := h.lookup_ok_iff.mp answered
        exact ⟨p, d, stored⟩
      · rintro ⟨p, d, stored⟩
        exact ⟨d, h.lookup_ok_iff.mpr ⟨p, stored⟩, loaded.id_eq stored⟩
    · intro d answered
      obtain ⟨p, stored⟩ := h.lookup_ok_iff.mp answered
      exact ⟨loaded.id_eq stored, p, stored⟩
    · rw [← Snapshot.find?_eq_or, loaded.find?_random_first]

end Registry
end Fortune
