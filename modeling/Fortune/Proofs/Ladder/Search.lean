import Fortune.Proofs.Decimal.Order
import Fortune.Proofs.Ladder.Rungs
import Mathlib.Data.List.Chain
import Mathlib.Order.Bounds.Defs
import Mathlib.Order.SetNotation

/-!
The search on a ladder. It finds the first rung whose upper total a weight does not reach, wherever
the upper totals are divided by the weight; rising totals are divided by every weight. Between the
lowest total and the highest that is the one rung around the weight, and never a rung that lost its
width to rounding.
-/
namespace Fortune.Ladder

variable {α : Type} [Scalar α]

/-- A weight reaches the first of some totals and none of the others. -/
structure Division (totals : List α) (r : α) (front back : List α) : Prop where
  split : totals = front ++ back
  reached : ∀ c ∈ front, c ≤ r
  missed : ∀ c ∈ back, ¬c ≤ r

def Divided (l : Ladder α) (r : α) : Prop := ∃ front back, Division l.totals.tail r front back

/-- The rungs whose upper total the weight does not reach. -/
def beyond (l : Ladder α) (r : α) : Set Nat := {i | ∃ c, l.totals[i + 1]? = some c ∧ ¬c ≤ r}

/-- The weight reaches the lower total of the rung and not its upper total. -/
def Around (l : Ladder α) (r : α) (i : Nat) : Prop :=
  ∃ low high, l.totals[i]? = some low ∧ l.totals[i + 1]? = some high ∧ low ≤ r ∧ ¬high ≤ r

theorem exists_division [IsTrans α (· ≤ ·)] {totals : List α} (rising : totals.IsChain (· ≤ ·))
    (r : α) : ∃ front back, Division totals r front back := by
  induction totals with
  | nil => exact ⟨[], [], rfl, List.forall_mem_nil _, List.forall_mem_nil _⟩
  | cons c rest ih =>
      by_cases reached : c ≤ r
      · obtain ⟨front, back, h⟩ := ih rising.tail
        refine ⟨c :: front, back, ?_, ?_, h.missed⟩
        · rw [h.split, List.cons_append]
        · exact List.forall_mem_cons.mpr ⟨reached, h.reached⟩
      · -- A later total within reach would put this one within reach too.
        have above := (List.pairwise_cons.mp (List.isChain_iff_pairwise.mp rising)).1
        refine ⟨[], c :: rest, rfl, List.forall_mem_nil _, ?_⟩
        intro d hd within
        cases hd with
        | head => exact reached within
        | tail _ hd => exact reached (IsTrans.trans _ _ _ (above d hd) within)

theorem total_mem_tail {l : Ladder α} (some : l.size ≠ 0) : l.total ∈ l.totals.tail := by
  obtain ⟨totals⟩ := l
  match totals with
  | [] => exact absurd rfl some
  | [c] => exact absurd rfl some
  | c :: d :: rest =>
      apply List.mem_of_getLast?
      rw [total, List.getLast?_cons_cons, List.tail_cons, List.getLast?_cons, Option.getD_some]

section Division

variable {l : Ladder α} {r : α} {front back : List α}

theorem Division.length (h : Division l.totals.tail r front back) :
    front.length + back.length = l.size := by
  rw [← List.length_append, ← h.split, List.length_tail, size]

theorem Division.indexFor (h : Division l.totals.tail r front back) (some : l.size ≠ 0) :
    l.indexFor r = .some (min front.length (l.size - 1)) := by
  rw [Ladder.indexFor, if_neg some, bisect_of_split h.split]
  · intro c hc
    exact decide_eq_true (h.reached c hc)
  · intro c hc
    exact decide_eq_false (h.missed c hc)

theorem Division.mem_beyond (h : Division l.totals.tail r front back) {i : Nat} :
    i ∈ l.beyond r ↔ front.length ≤ i ∧ i < l.size := by
  rw [← h.length, ← List.length_append]
  change (∃ c, l.totals[i + 1]? = some c ∧ ¬c ≤ r) ↔ _
  rw [← List.getElem?_tail, h.split]
  constructor
  · rintro ⟨c, hc, unreached⟩
    refine ⟨?_, (List.getElem?_eq_some_iff.mp hc).1⟩
    by_contra before
    rw [List.getElem?_append_left (not_le.mp before)] at hc
    exact unreached (h.reached c (List.mem_of_getElem? hc))
  · rintro ⟨after, within⟩
    refine ⟨(front ++ back)[i], List.getElem?_eq_getElem within, h.missed _ ?_⟩
    rw [List.getElem_append_right after]
    exact List.getElem_mem _

theorem Division.around_iff (h : Division l.totals.tail r front back) {bottom : α}
    (lowest : l.totals[0]? = some bottom) (reached : bottom ≤ r) (i : Nat) :
    l.Around r i ↔ i = front.length ∧ i < l.size := by
  constructor
  · rintro ⟨low, high, hlow, hhigh, below, above⟩
    obtain ⟨after, within⟩ := h.mem_beyond.mp ⟨high, hhigh, above⟩
    refine ⟨?_, within⟩
    apply Nat.le_antisymm _ after
    cases i with
    | zero => exact Nat.zero_le _
    | succ i =>
        -- A rung beyond the front would have an upper total beyond the weight.
        by_contra past
        have missed : i ∈ l.beyond r := h.mem_beyond.mpr ⟨by omega, by omega⟩
        obtain ⟨c, hc, unreached⟩ := missed
        cases Option.some.inj (hc.symm.trans hlow)
        exact unreached below
  · rintro ⟨rfl, within⟩
    obtain ⟨high, hhigh, above⟩ := h.mem_beyond.mpr ⟨le_refl _, within⟩
    cases place : front.length with
    | zero => exact ⟨bottom, high, lowest, place ▸ hhigh, reached, above⟩
    | succ k =>
        have inside : k < front.length := by omega
        refine ⟨front[k], high, ?_, place ▸ hhigh, h.reached _ (List.getElem_mem _), above⟩
        rw [← List.getElem?_tail, h.split, List.getElem?_append_left inside]
        exact List.getElem?_eq_getElem inside

end Division

/-- The search stops at the first rung that the weight leaves unreached, or at the last rung where
there is none. -/
theorem indexFor_first {l : Ladder α} (some : l.size ≠ 0) {r : α} (divided : l.Divided r) :
    ∃ i, l.indexFor r = .some i ∧
      (IsLeast (l.beyond r) i ∨ l.beyond r = ∅ ∧ i = l.size - 1) := by
  obtain ⟨front, back, h⟩ := divided
  refine ⟨_, h.indexFor some, ?_⟩
  have length := h.length
  by_cases all : front.length = l.size
  · right
    refine ⟨?_, by omega⟩
    ext i
    rw [h.mem_beyond]
    exact ⟨fun ⟨after, within⟩ => by omega, False.elim⟩
  · left
    rw [min_eq_left (by omega)]
    refine ⟨h.mem_beyond.mpr ⟨le_refl _, by omega⟩, ?_⟩
    intro i hi
    exact (h.mem_beyond.mp hi).1

theorem indexFor_around {l : Ladder α} (some : l.size ≠ 0) {r : α} (divided : l.Divided r)
    {bottom : α} (lowest : l.totals[0]? = .some bottom) (reached : bottom ≤ r)
    (short : ¬l.total ≤ r) (i : Nat) : l.indexFor r = .some i ↔ l.Around r i := by
  obtain ⟨front, back, h⟩ := divided
  -- The highest total is out of reach, so the front is not all of the ladder.
  have inside : front.length < l.size := by
    rw [← h.length]
    have top := total_mem_tail some
    rw [h.split, List.mem_append] at top
    have behind := top.resolve_left fun front => short (h.reached _ front)
    have := List.length_pos_of_mem behind
    omega
  rw [h.around_iff lowest reached, h.indexFor some, min_eq_left (by omega), Option.some.injEq]
  constructor
  · rintro rfl
    exact ⟨rfl, inside⟩
  · rintro ⟨rfl, _⟩
    rfl

/-- The rung for a weight on a ladder of floats. -/
theorem indexFor_exact (l : Ladder Float) (some : l.size ≠ 0) (r : Float) :
    (l.totals.tail.IsChain (· ≤ ·) → l.Divided r) ∧
      (l.Divided r →
        (∃ i, l.indexFor r = .some i ∧
          (IsLeast (l.beyond r) i ∨ l.beyond r = ∅ ∧ i = l.size - 1)) ∧
        (∀ bottom, l.totals[0]? = .some bottom → bottom ≤ r → ¬l.total ≤ r →
          (∀ i, l.indexFor r = .some i ↔ l.Around r i) ∧
          (∀ i low high, l.totals[i]? = .some low → l.totals[i + 1]? = .some high →
            (low == high) = true → l.indexFor r ≠ .some i))) := by
  refine ⟨fun rising => exists_division rising r, ?_⟩
  intro divided
  refine ⟨indexFor_first some divided, ?_⟩
  intro bottom lowest reached short
  have around := indexFor_around some divided lowest reached short
  refine ⟨around, ?_⟩
  intro i low high hlow hhigh flat chosen
  obtain ⟨low', high', hlow', hhigh', below, above⟩ := (around i).mp chosen
  cases Option.some.inj (hlow.symm.trans hlow')
  cases Option.some.inj (hhigh.symm.trans hhigh')
  exact above (IsTrans.trans _ _ _ (Decimal.le_of_beq flat) below)

/-- On the boundary between two rungs, and past the rung that has no width there. -/
theorem indexFor_of_boundary :
    (⟨[0, 1, 1, 3]⟩ : Ladder Float).indexFor 1 = some 2 ∧
      (⟨[0, 1, 1, 3]⟩ : Ladder Float).indexFor 1 ≠ some 1 := by
  obtain ⟨rising, found⟩ := indexFor_exact ⟨[0, 1, 1, 3]⟩ (by decide) 1
  have divided : Divided ⟨[0, 1, 1, 3]⟩ (1 : Float) := rising (by decide +kernel)
  obtain ⟨around, flat⟩ :=
    (found divided).2 0 rfl (by decide +kernel) (by decide +kernel)
  refine ⟨(around 2).mpr ⟨1, 3, rfl, rfl, ?_, ?_⟩, flat 1 1 1 rfl rfl ?_⟩
  · decide +kernel
  · decide +kernel
  · decide +kernel

end Fortune.Ladder
