import Fortune.Scheduler

/-!
The table of waiting requests, ticket by ticket. What an operation makes of the entries of one
ticket depends on these entries alone; `Sound` adds that the next ticket is still free.
-/
namespace Fortune

@[simp] theorem Pending.countDown_ticket {α : Type} (p : Pending α) :
    p.countDown.ticket = p.ticket := rfl

@[simp] theorem Pending.countDown_remaining {α : Type} (p : Pending α) :
    p.countDown.remaining = p.remaining - 1 := rfl

@[simp] theorem Pending.countDown_work {α : Type} (p : Pending α) :
    p.countDown.work = p.work := rfl

namespace Scheduler

variable {α : Type}

/-- The entries of one ticket. In a sound table there is at most one. -/
def entries (s : Scheduler α) (ticket : Nat) : List (Pending α) :=
  s.pending.filter fun p => p.ticket == ticket

/-- Tickets grow along the table, and the next one is greater than all of them. -/
structure Sound (s : Scheduler α) : Prop where
  increasing : (s.pending.map Pending.ticket).Pairwise (· < ·)
  below : ∀ p ∈ s.pending, p.ticket < s.next

theorem Sound.empty : Sound ({} : Scheduler α) :=
  ⟨List.Pairwise.nil, fun _ h => absurd h List.not_mem_nil⟩

theorem Sound.schedule {s : Scheduler α} (h : s.Sound) (work : α) (delay : Nat) :
    (s.schedule work delay).2.Sound := by
  constructor
  · simp only [Scheduler.schedule, List.map_append, List.map_cons, List.map_nil]
    refine List.pairwise_append.mpr ⟨h.increasing, List.pairwise_singleton _ _, ?_⟩
    intro a ha b hb
    obtain ⟨p, hp, rfl⟩ := List.mem_map.mp ha
    rw [List.mem_singleton.mp hb]
    exact h.below p hp
  · intro p hp
    simp only [Scheduler.schedule, List.mem_append, List.mem_singleton] at hp ⊢
    rcases hp with hp | rfl
    · exact Nat.lt_succ_of_lt (h.below p hp)
    · exact Nat.lt_succ_self _

theorem Sound.cancel {s : Scheduler α} (h : s.Sound) (ticket : Nat) :
    (s.cancel ticket).2.Sound := by
  constructor
  · exact h.increasing.sublist (List.filter_sublist.map _)
  · intro p hp
    exact h.below p (List.mem_filter.mp hp).1

theorem Sound.tick {s : Scheduler α} (h : s.Sound) : s.tick.2.Sound := by
  have same : (s.pending.map Pending.countDown).map Pending.ticket =
      s.pending.map Pending.ticket := by simp
  constructor
  · refine List.Pairwise.sublist (List.filter_sublist.map _) ?_
    rw [same]
    exact h.increasing
  · intro p hp
    obtain ⟨q, hq, rfl⟩ := List.mem_map.mp (List.mem_filter.mp hp).1
    exact h.below q hq

theorem Sound.entries_next {s : Scheduler α} (h : s.Sound) : s.entries s.next = [] := by
  refine List.filter_eq_nil_iff.mpr ?_
  intro p hp same
  exact Nat.ne_of_lt (h.below p hp) (beq_iff_eq.mp same)

theorem mem_entries {s : Scheduler α} {ticket : Nat} {p : Pending α} :
    p ∈ s.entries ticket ↔ p ∈ s.pending ∧ p.ticket = ticket := by
  simp [entries]

theorem find?_eq_head? (s : Scheduler α) (ticket : Nat) :
    s.find? ticket = (s.entries ticket).head? :=
  List.head?_filter.symm

theorem entries_schedule (s : Scheduler α) (work : α) (delay ticket : Nat) :
    (s.schedule work delay).2.entries ticket =
      s.entries ticket ++ if s.next = ticket then [⟨ticket, delay, work⟩] else [] := by
  simp only [entries, schedule, List.filter_append]
  by_cases same : s.next = ticket
  · simp [same]
  · simp [same]

theorem Sound.remaining?_schedule {s : Scheduler α} (h : s.Sound) (work : α) (delay : Nat) :
    (s.schedule work delay).2.remaining? s.next = some delay := by
  rw [remaining?, find?_eq_head?, entries_schedule, if_pos rfl, h.entries_next]
  rfl

theorem entries_cancel (s : Scheduler α) (dropped ticket : Nat) :
    (s.cancel dropped).2.entries ticket =
      if dropped = ticket then [] else s.entries ticket := by
  simp only [entries, cancel, List.filter_filter]
  split
  · rename_i same
    subst same
    simp
  · rename_i other
    refine List.filter_congr fun p _ => ?_
    by_cases mine : p.ticket = ticket
    · simp [mine, Ne.symm other]
    · simp [mine]

theorem filter_countDown (l : List (Pending α)) (ticket : Nat) (keep : Pending α → Bool) :
    ((l.map Pending.countDown).filter keep).filter (fun p => p.ticket == ticket) =
      ((l.filter fun p => p.ticket == ticket).map Pending.countDown).filter keep := by
  rw [List.filter_filter, List.filter_map, List.filter_map, List.filter_filter]
  congr 1
  refine List.filter_congr fun p _ => ?_
  simp [Bool.and_comm]

/-- What a tick leaves of a ticket. -/
theorem entries_tick (s : Scheduler α) (ticket : Nat) :
    s.tick.2.entries ticket =
      ((s.entries ticket).map Pending.countDown).filter fun p => p.remaining != 0 :=
  filter_countDown s.pending ticket _

/-- What a tick takes out of a ticket. -/
theorem due_tick (s : Scheduler α) (ticket : Nat) :
    s.tick.1.filter (fun p => p.ticket == ticket) =
      ((s.entries ticket).map Pending.countDown).filter fun p => p.remaining == 0 :=
  filter_countDown s.pending ticket _

end Scheduler
end Fortune
