import Fortune.Proofs.Scheduler.Firing
import Mathlib.Data.List.Induction

/-!
Histories of a scheduler: what its callers did, and what became of every ticket. A ticket waits
until it is cancelled or the ticks of its delay have passed, whichever comes first, and neither is
undone.
-/
namespace Fortune.Scheduler

/-- What a caller may do. An advance is given its host as the caller finds it. -/
inductive Step where
  | schedule (work : Invocation) (delay : Nat)
  | cancel (ticket : Nat)
  | advance (host : Host)

/-- An advance that finds its host ticking. -/
def Step.isTick : Step → Bool
  | .advance host => host.ticking
  | _ => false

def ticks (steps : List Step) : Nat := steps.countP Step.isTick

@[simp] theorem ticks_nil : ticks [] = 0 := rfl

@[simp] theorem ticks_append (first last : List Step) :
    ticks (first ++ last) = ticks first + ticks last :=
  List.countP_append

@[simp] theorem ticks_singleton (step : Step) : ticks [step] = if step.isTick then 1 else 0 :=
  List.countP_singleton

/-- A scheduler with the tickets it gave out, those it dropped on request, and the requests that
fired, each in the order of these events. -/
structure History where
  scheduler : Scheduler Invocation := {}
  issued : List Nat := []
  cancelled : List Nat := []
  fired : List (Pending Invocation) := []

/-- Where a ticket is that was given out. -/
inductive Phase where
  | pending
  | fired
  | cancelled
deriving DecidableEq

namespace History

def step (r : History) : Step → History
  | .schedule work delay =>
      { r with
        scheduler := (r.scheduler.schedule work delay).2
        issued := r.issued ++ [(r.scheduler.schedule work delay).1] }
  | .cancel ticket =>
      { r with
        scheduler := (r.scheduler.cancel ticket).2
        cancelled :=
          if (r.scheduler.cancel ticket).1 then r.cancelled ++ [ticket] else r.cancelled }
  | .advance host =>
      { r with
        scheduler := (r.scheduler.advance host).2.1
        fired := r.fired ++ r.scheduler.firing host }

/-- A ticket is pending while the table holds it. -/
def InPhase (r : History) (ticket : Nat) : Phase → Prop
  | .pending => ∃ p ∈ r.scheduler.pending, p.ticket = ticket
  | .fired => ∃ p ∈ r.fired, p.ticket = ticket
  | .cancelled => ticket ∈ r.cancelled

/-- What a history holds of one ticket: its entries in the table, its firings, and whether it was
dropped. -/
structure Standing (r : History) (ticket : Nat) (waiting fired : List (Pending Invocation))
    (dropped : Prop) : Prop where
  waiting : r.scheduler.entries ticket = waiting
  fired : r.fired.filter (fun p => p.ticket == ticket) = fired
  dropped : ticket ∈ r.cancelled ↔ dropped

end History

def history (steps : List Step) : History := steps.foldl History.step {}

@[simp] theorem history_nil : history [] = {} := rfl

theorem history_snoc (steps : List Step) (step : Step) :
    history (steps ++ [step]) = (history steps).step step := by
  simp [history]

namespace History

theorem step_advance_scheduler (r : History) (host : Host) :
    (r.step (.advance host)).scheduler = r.scheduler.counted host := by
  simp only [step, advance_exact]

theorem step_sound {r : History} (h : r.scheduler.Sound) (s : Step) :
    (r.step s).scheduler.Sound := by
  cases s with
  | schedule work delay => exact h.schedule work delay
  | cancel ticket => exact h.cancel ticket
  | advance host =>
      rw [step_advance_scheduler]
      exact h.counted host

theorem step_next (r : History) (s : Step) :
    (r.step s).scheduler.next =
      match s with
      | .schedule _ _ => r.scheduler.next + 1
      | _ => r.scheduler.next := by
  cases s with
  | schedule work delay => rfl
  | cancel ticket => rfl
  | advance host =>
      rw [step_advance_scheduler]
      unfold counted
      split <;> rfl

theorem step_next_le (r : History) (s : Step) :
    r.scheduler.next ≤ (r.step s).scheduler.next := by
  rw [step_next]
  cases s with
  | schedule work delay => exact Nat.le_succ _
  | cancel ticket => exact Nat.le_refl _
  | advance host => exact Nat.le_refl _

variable {r : History} {ticket : Nat} {waiting fired : List (Pending Invocation)} {dropped : Prop}

/-- A later request has a ticket of its own. -/
theorem Standing.schedule (h : r.Standing ticket waiting fired dropped)
    (old : ticket < r.scheduler.next) (work : Invocation) (delay : Nat) :
    (r.step (.schedule work delay)).Standing ticket waiting fired dropped := by
  refine ⟨?_, h.fired, h.dropped⟩
  change (r.scheduler.schedule work delay).2.entries ticket = waiting
  rw [entries_schedule, if_neg (Nat.ne_of_gt old), List.append_nil, h.waiting]

theorem Standing.cancel_other (h : r.Standing ticket waiting fired dropped) {other : Nat}
    (apart : other ≠ ticket) :
    (r.step (.cancel other)).Standing ticket waiting fired dropped := by
  refine ⟨?_, h.fired, ?_⟩
  · change (r.scheduler.cancel other).2.entries ticket = waiting
    rw [entries_cancel, if_neg apart, h.waiting]
  · rw [← h.dropped]
    simp only [step]
    split
    · simp [Ne.symm apart]
    · rfl

/-- Dropping takes effect exactly if something waits. -/
theorem Standing.cancel_self (h : r.Standing ticket waiting fired dropped) :
    (r.step (.cancel ticket)).Standing ticket [] fired (dropped ∨ waiting ≠ []) := by
  refine ⟨?_, h.fired, ?_⟩
  · change (r.scheduler.cancel ticket).2.entries ticket = []
    rw [entries_cancel, if_pos rfl]
  · have granted : (r.scheduler.cancel ticket).1 = true ↔ waiting ≠ [] := by
      simp only [cancel]
      rw [find?_eq_head?, h.waiting]
      cases waiting <;> simp
    rw [← h.dropped, ← granted]
    simp only [step]
    split
    · rename_i yes
      simp [yes]
    · rename_i no
      simp [no]

theorem Standing.paused (h : r.Standing ticket waiting fired dropped) {host : Host}
    (still : host.ticking = false) :
    (r.step (.advance host)).Standing ticket waiting fired dropped := by
  refine ⟨?_, ?_, h.dropped⟩
  · rw [step_advance_scheduler, counted, still]
    exact h.waiting
  · simp only [step, firing, still]
    simpa using h.fired

/-- A tick counts down what waits, and moves what comes to zero among what fired. -/
theorem Standing.tick (h : r.Standing ticket waiting fired dropped) {host : Host}
    (running : host.ticking = true) :
    (r.step (.advance host)).Standing ticket
      ((waiting.map Pending.countDown).filter fun p => p.remaining != 0)
      (fired ++ (waiting.map Pending.countDown).filter fun p => p.remaining == 0) dropped := by
  refine ⟨?_, ?_, h.dropped⟩
  · rw [step_advance_scheduler, entries_counted, if_pos running, h.waiting]
  · simp only [step, List.filter_append]
    rw [firing_of_ticket, if_pos running, h.waiting, h.fired]

theorem Standing.pending_iff (h : r.Standing ticket waiting fired dropped) :
    r.InPhase ticket .pending ↔ waiting ≠ [] := by
  rw [← h.waiting, ← List.isEmpty_eq_false_iff, List.isEmpty_eq_false_iff_exists_mem]
  simp only [InPhase, mem_entries]

theorem Standing.fired_iff (h : r.Standing ticket waiting fired dropped) :
    r.InPhase ticket .fired ↔ fired ≠ [] := by
  rw [← h.fired, ← List.isEmpty_eq_false_iff, List.isEmpty_eq_false_iff_exists_mem]
  simp only [InPhase, List.mem_filter, beq_iff_eq]

theorem Standing.cancelled_iff (h : r.Standing ticket waiting fired dropped) :
    r.InPhase ticket .cancelled ↔ dropped := h.dropped

/-- What no longer waits is left alone. -/
theorem Standing.gone (h : r.Standing ticket [] fired dropped) (old : ticket < r.scheduler.next)
    (s : Step) : (r.step s).Standing ticket [] fired dropped := by
  cases s with
  | schedule work delay => exact h.schedule old work delay
  | cancel other =>
      by_cases same : other = ticket
      · subst same
        simpa using h.cancel_self
      · exact h.cancel_other same
  | advance host =>
      cases running : host.ticking with
      | false => exact h.paused running
      | true => simpa using h.tick running

/-- The table is sound, the tickets were given out one after the other, and no other has left a
trace. -/
structure Valid (r : History) : Prop where
  sound : r.scheduler.Sound
  issued : r.issued = List.range r.scheduler.next
  fired : ∀ p ∈ r.fired, p.ticket < r.scheduler.next
  cancelled : ∀ t ∈ r.cancelled, t < r.scheduler.next

theorem valid_empty : Valid {} :=
  ⟨Sound.empty, rfl, fun _ h => absurd h List.not_mem_nil, fun _ h => absurd h List.not_mem_nil⟩

theorem firing_below {s : Scheduler Invocation} (h : s.Sound) (host : Host) :
    ∀ p ∈ s.firing host, p.ticket < s.next := by
  intro p hp
  unfold firing at hp
  split at hp
  · obtain ⟨q, hq, rfl⟩ := List.mem_map.mp (List.mem_filter.mp hp).1
    exact h.below q hq
  · exact absurd hp List.not_mem_nil

theorem cancel_granted (s : Scheduler Invocation) (ticket : Nat) :
    (s.cancel ticket).1 = true ↔ ∃ p ∈ s.pending, p.ticket = ticket := by
  simp [cancel, find?]

theorem Valid.step {r : History} (h : r.Valid) (s : Step) : (r.step s).Valid := by
  have grows := step_next_le r s
  refine ⟨step_sound h.sound s, ?_, ?_, ?_⟩
  · rw [step_next]
    cases s with
    | schedule work delay =>
        change r.issued ++ [r.scheduler.next] = _
        rw [h.issued, List.range_succ]
    | cancel other => exact h.issued
    | advance host => exact h.issued
  · intro p hp
    refine Nat.lt_of_lt_of_le ?_ grows
    cases s with
    | schedule work delay => exact h.fired p hp
    | cancel other => exact h.fired p hp
    | advance host =>
        rcases List.mem_append.mp hp with earlier | now
        · exact h.fired p earlier
        · exact firing_below h.sound host p now
  · intro t ht
    refine Nat.lt_of_lt_of_le ?_ grows
    cases s with
    | schedule work delay => exact h.cancelled t ht
    | advance host => exact h.cancelled t ht
    | cancel other =>
        simp only [History.step] at ht
        split at ht
        · rename_i granted
          rcases List.mem_append.mp ht with earlier | now
          · exact h.cancelled t earlier
          · obtain ⟨p, hp, same⟩ := (cancel_granted r.scheduler other).mp granted
            rw [List.mem_singleton.mp now, ← same]
            exact h.sound.below p hp
        · exact h.cancelled t ht

/-- The ticket that is given out next has left no trace yet. -/
theorem Valid.unused {r : History} (h : r.Valid) :
    r.Standing r.scheduler.next [] [] False := by
  refine ⟨h.sound.entries_next, ?_, ?_⟩
  · refine List.filter_eq_nil_iff.mpr ?_
    intro p hp same
    exact Nat.ne_of_lt (h.fired p hp) (beq_iff_eq.mp same)
  · refine iff_false_intro ?_
    intro ht
    exact Nat.lt_irrefl _ (h.cancelled _ ht)

end History

theorem history_valid (steps : List Step) : (history steps).Valid := by
  induction steps using List.reverseRecOn with
  | nil => exact History.valid_empty
  | append_singleton steps s ih =>
      rw [history_snoc]
      exact ih.step s

end Fortune.Scheduler
