import Fortune.Proofs.Registry.Loading
import Fortune.Registry.Basic

/-!
Registries in use. Whatever was loaded or installed, and in whatever order, the active snapshot is
what some documents make.
-/
namespace Fortune

namespace Snapshot.Loaded

variable {reserved : String} {documents : List (Identifier × Document)} {s : Snapshot}

/-- Definitions lie under their own identifiers. -/
theorem id_eq (h : Loaded reserved documents s) {p : Partition} {id : Identifier} {d : Definition}
    (stored : (id, d) ∈ s.part p) : d.id = id := by
  obtain ⟨_, before, document, after, _, decoded, _⟩ := (h.mem_part p id d).mp stored
  exact Definition.decode_id decoded

end Snapshot.Loaded

namespace Registry

/-- What a caller may do to the contents of a registry. A snapshot that is installed was made
elsewhere, perhaps with a reserved text of its own. -/
inductive Change where
  | load (documents : List (Identifier × Document))
  | install (reserved : String) (documents : List (Identifier × Document))

def empty (reserved : String) : Registry := { reserved }

def change (r : Registry) : Change → Registry
  | .load documents => (r.load documents).1
  | .install reserved documents => r.install (Snapshot.decode reserved documents).1

/-- The registry that some changes leave behind, one after the other. -/
def after (r : Registry) (changes : List Change) : Registry := changes.foldl change r

/-- Some documents make the active snapshot. -/
def Loaded (r : Registry) : Prop :=
  ∃ reserved documents, Snapshot.Loaded reserved documents r.snapshot

theorem loaded_empty (reserved : String) : (empty reserved).Loaded :=
  ⟨reserved, [], Snapshot.Loaded.empty reserved⟩

/-- A change leaves nothing of the snapshot before. -/
theorem loaded_change (r : Registry) (c : Change) : (r.change c).Loaded := by
  cases c with
  | load documents => exact ⟨r.reserved, documents, Snapshot.loaded_decode r.reserved documents⟩
  | install reserved documents =>
      exact ⟨reserved, documents, Snapshot.loaded_decode reserved documents⟩

theorem loaded_after (reserved : String) (changes : List Change) :
    ((empty reserved).after changes).Loaded := by
  induction changes using List.reverseRecOn with
  | nil => exact loaded_empty reserved
  | append_singleton changes c _ =>
      rw [after, List.foldl_append]
      exact loaded_change _ c

section Loaded

variable {r : Registry}

theorem Loaded.random_id (h : r.Loaded) {id : Identifier} {d : Definition}
    (stored : (id, d) ∈ r.snapshot.random) : d.id = id := by
  obtain ⟨reserved, documents, loaded⟩ := h
  exact loaded.id_eq (p := .random) stored

theorem Loaded.disjoint (h : r.Loaded) : r.randomIds.Disjoint r.nonrandomIds := by
  obtain ⟨reserved, documents, loaded⟩ := h
  exact loaded.disjoint

end Loaded
end Registry
end Fortune
