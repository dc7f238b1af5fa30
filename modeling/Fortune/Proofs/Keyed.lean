import Fortune.Keyed
import Mathlib.Data.List.Sort
import Mathlib.Order.RelClasses

/-! Increasing lists of entries: insertion keeps them so, and looking keys up tells them apart. -/
namespace Fortune.Keyed

variable {κ α : Type}

theorem increasing_cons [LT κ] {key : κ} {value : α} {rest : List (κ × α)} :
    Increasing ((key, value) :: rest) ↔ (∀ e ∈ rest, key < e.1) ∧ Increasing rest := by
  simp [Increasing]

theorem Increasing.nodup_keys [LT κ] [IsStrictTotalOrder κ (· < ·)] {entries : List (κ × α)}
    (h : Increasing entries) : (entries.map Prod.fst).Nodup := by
  refine List.Pairwise.imp ?_ h
  rintro k other less rfl
  exact irrefl k less

theorem Increasing.nodup [LT κ] [IsStrictTotalOrder κ (· < ·)] {entries : List (κ × α)}
    (h : Increasing entries) : entries.Nodup := h.nodup_keys.of_map Prod.fst

variable [LT κ] [DecidableEq κ]

theorem mem_insert [DecidableLT κ] {key : κ} {value : α} {entries : List (κ × α)} {e : κ × α}
    (h : e ∈ insert key value entries) : e = (key, value) ∨ e ∈ entries := by
  induction entries with
  | nil => exact Or.inl (List.mem_singleton.mp h)
  | cons entry rest ih =>
      obtain ⟨k, a⟩ := entry
      unfold insert at h
      split at h
      · exact List.mem_cons.mp h
      · split at h
        · rcases List.mem_cons.mp h with new | old
          · exact Or.inl new
          · exact Or.inr (List.mem_cons_of_mem _ old)
        · rcases List.mem_cons.mp h with first | later
          · exact Or.inr (first ▸ List.mem_cons_self)
          · exact (ih later).imp id (List.mem_cons_of_mem _)

variable [IsStrictTotalOrder κ (· < ·)]

theorem Increasing.insert [DecidableLT κ] {entries : List (κ × α)} (h : Increasing entries)
    (key : κ) (value : α) : Increasing (insert key value entries) := by
  induction entries with
  | nil => exact List.pairwise_singleton _ _
  | cons entry rest ih =>
      obtain ⟨k, a⟩ := entry
      obtain ⟨least, rising⟩ := increasing_cons.mp h
      unfold Keyed.insert
      split
      · rename_i less
        refine increasing_cons.mpr ⟨?_, h⟩
        intro e he
        rcases List.mem_cons.mp he with rfl | later
        · exact less
        · exact trans_of (· < ·) less (least e later)
      · split
        · rename_i same
          subst same
          exact increasing_cons.mpr ⟨least, rising⟩
        · rename_i notLess apart
          have greater : k < key :=
            ((trichotomous_of (· < ·) key k).resolve_left notLess).resolve_left apart
          refine increasing_cons.mpr ⟨?_, ih rising⟩
          intro e he
          rcases mem_insert he with rfl | old
          · exact greater
          · exact least e old

theorem Increasing.mem_iff {entries : List (κ × α)} (h : Increasing entries) (key : κ)
    (value : α) : (key, value) ∈ entries ↔ find? key entries = some value := by
  induction entries with
  | nil => simp [find?]
  | cons entry rest ih =>
      obtain ⟨k, a⟩ := entry
      obtain ⟨least, rising⟩ := increasing_cons.mp h
      by_cases same : key = k
      · subst same
        have absent : (key, value) ∉ rest := fun later => irrefl key (least _ later)
        simp [find?, absent, eq_comm]
      · simp [find?, same, ih rising]

theorem Increasing.ext {xs ys : List (κ × α)} (hx : Increasing xs) (hy : Increasing ys)
    (same : ∀ key, find? key xs = find? key ys) : xs = ys := by
  have perm : xs.Perm ys := by
    rw [List.perm_ext_iff_of_nodup hx.nodup hy.nodup]
    rintro ⟨key, value⟩
    rw [hx.mem_iff, hy.mem_iff, same]
  refine perm.eq_of_pairwise ?_ (List.pairwise_map.mp hx) (List.pairwise_map.mp hy)
  intro e other _ _ less more
  exact absurd (trans_of (· < ·) less more) (irrefl e.1)

end Fortune.Keyed
