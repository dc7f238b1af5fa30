import Fortune.Proofs.Scheduler.History

/-!
One tick of a host. What has at most one tick left happens, in the order of the tickets and each as
if it were alone; everything else waits on with one tick less.
-/
namespace Fortune

namespace Invocation

/-- The events that a host without any receives from the invocation. -/
def alone (i : Invocation) : List Event := (i.outcome.execute i.context {}).2.events

theorem alone_eq_events (i : Invocation) : i.alone = i.events := by
  rw [alone, Outcome.execute_host]
  exact List.nil_append _

theorem length_flatMap_events (due : List (Pending Invocation)) :
    (due.flatMap fun p => p.work.events).length + due.countP (fun p => p.work.unreceived) =
      due.length := by
  induction due with
  | nil => rfl
  | cons p due ih =>
      have own := p.work.length_events
      rw [List.flatMap_cons, List.length_append, List.countP_cons, List.length_cons]
      omega

end Invocation

namespace Scheduler

variable {α : Type}

def due (s : Scheduler α) : List (Pending α) :=
  s.pending.filter fun p => p.remaining = 0 ∨ p.remaining = 1

def waiting (s : Scheduler α) : List (Pending α) := s.pending.filter fun p => 1 < p.remaining

theorem tick_eq (s : Scheduler α) :
    s.tick =
      (s.due.map Pending.countDown, { s with pending := s.waiting.map Pending.countDown }) := by
  have zero : (fun p : Pending α => p.countDown.remaining == 0) =
      fun p => decide (p.remaining = 0 ∨ p.remaining = 1) := by
    funext p
    rw [Pending.countDown_remaining, Bool.eq_iff_iff, beq_iff_eq, decide_eq_true_eq]
    omega
  have more : (fun p : Pending α => p.countDown.remaining != 0) =
      fun p => decide (1 < p.remaining) := by
    funext p
    rw [Pending.countDown_remaining, Bool.eq_iff_iff, bne_iff_ne, decide_eq_true_eq]
    omega
  rw [tick, List.filter_map, List.filter_map]
  exact congrArg₂ (fun due waiting =>
    ((s.pending.filter due).map Pending.countDown,
      { s with pending := (s.pending.filter waiting).map Pending.countDown })) zero more

/-- A request is due or has to wait, and not both. -/
theorem length_due_add (s : Scheduler α) :
    s.pending.length = (s.tick.2).pending.length + s.due.length := by
  have split := List.length_eq_countP_add_countP (l := s.pending)
    fun p : Pending α => decide (p.remaining = 0 ∨ p.remaining = 1)
  have rest : s.pending.countP
      (fun p => decide ¬decide (p.remaining = 0 ∨ p.remaining = 1) = true) = s.waiting.length := by
    rw [waiting, ← List.countP_eq_length_filter]
    refine List.countP_congr fun p _ => ?_
    simp only [decide_eq_true_eq]
    omega
  rw [rest, List.countP_eq_length_filter] at split
  rw [tick_eq, List.length_map, Nat.add_comm]
  exact split

theorem Sound.due_ascending {s : Scheduler α} (h : s.Sound) :
    (s.due.map Pending.ticket).Pairwise (· < ·) :=
  h.increasing.sublist (List.filter_sublist.map _)

theorem Sound.entries_eq {s : Scheduler α} (h : s.Sound) {p : Pending α} (hp : p ∈ s.pending) :
    s.entries p.ticket = [p] := by
  obtain ⟨front, back, split⟩ := List.append_of_mem hp
  have increasing := h.increasing
  rw [split, List.map_append, List.map_cons, List.pairwise_append, List.pairwise_cons] at increasing
  obtain ⟨_, ⟨above, _⟩, below⟩ := increasing
  -- Tickets grow along the table, so no other entry has the ticket of this one.
  have front_apart : front.filter (fun q => q.ticket == p.ticket) = [] := by
    refine List.filter_eq_nil_iff.mpr fun q hq same => ?_
    have less := below q.ticket (List.mem_map_of_mem hq) p.ticket List.mem_cons_self
    exact Nat.ne_of_lt less (beq_iff_eq.mp same)
  have back_apart : back.filter (fun q => q.ticket == p.ticket) = [] := by
    refine List.filter_eq_nil_iff.mpr fun q hq same => ?_
    have more := above q.ticket (List.mem_map_of_mem hq)
    exact Nat.ne_of_gt more (beq_iff_eq.mp same)
  rw [entries, split, List.filter_append, front_apart, List.filter_cons, back_apart]
  simp

/-- What a tick makes of a request that waits. -/
theorem Sound.find?_tick {s : Scheduler α} (h : s.Sound) {p : Pending α} (hp : p ∈ s.pending) :
    s.tick.2.find? p.ticket = if 1 < p.remaining then some p.countDown else none := by
  have left : (p.countDown.remaining != 0) = decide (1 < p.remaining) := by
    rw [Pending.countDown_remaining, Bool.eq_iff_iff, bne_iff_ne, decide_eq_true_eq]
    omega
  rw [find?_eq_head?, entries_tick, h.entries_eq hp, List.map_singleton, List.filter_cons,
    left]
  by_cases more : 1 < p.remaining
  · simp [more]
  · simp [more]

theorem firing_eq {s : Scheduler Invocation} {host : Host} (running : host.ticking = true) :
    s.firing host = s.due.map Pending.countDown := by
  rw [firing, if_pos running, tick_eq]

/-- In whatever state its callers have left it, a scheduler lets exactly that happen on a tick which
has no tick or one tick left, in the order of the tickets and each as if it were alone. Their number
is returned and is what the table loses. The others keep ticket and work, have one tick less and at
least one left. Of what happens only effects without an actor leave no event. -/
theorem advance_due (steps : List Step) {host : Host} (running : host.ticking = true) :
    let s := (history steps).scheduler
    let due := s.pending.filter fun p => p.remaining = 0 ∨ p.remaining = 1
    let (fired, after, host') := s.advance host
    (due.map Pending.ticket).Pairwise (· < ·) ∧
    (history (steps ++ [.advance host])).fired =
      (history steps).fired ++ due.map (fun p => { p with remaining := 0 }) ∧
    host' = { host with events := host.events ++ due.flatMap fun p => p.work.alone } ∧
    fired = due.length ∧ s.pending.length = after.pending.length + fired ∧
    after.pending = (s.pending.filter fun p => 1 < p.remaining).map
      (fun p => { p with remaining := p.remaining - 1 }) ∧
    (∀ p ∈ after.pending, 1 ≤ p.remaining) ∧
    (∀ p ∈ s.pending, after.find? p.ticket =
      if 1 < p.remaining then some { p with remaining := p.remaining - 1 } else none) ∧
    host'.events.length + due.countP (fun p => p.work.unreceived) =
      host.events.length + due.length := by
  intro s due
  have sound : s.Sound := (history_valid steps).sound
  have fires : s.firing host = due.map Pending.countDown := firing_eq running
  have counted : s.counted host = s.tick.2 := by rw [Scheduler.counted, if_pos running]
  have events : (s.firing host).flatMap (fun p => p.work.events) =
      due.flatMap fun p => p.work.events := by
    rw [fires, List.flatMap_map]
    rfl
  rw [advance_exact, events, counted]
  refine ⟨sound.due_ascending, ?_, ?_, ?_, ?_, ?_, ?_, ?_, ?_⟩
  · have zero : due.map Pending.countDown = due.map fun p => { p with remaining := 0 } := by
      refine List.map_congr_left fun p hp => ?_
      have last := of_decide_eq_true (List.mem_filter.mp hp).2
      have none : p.remaining - 1 = 0 := by omega
      rw [Pending.countDown, none]
    rw [history_snoc, ← zero, ← fires]
    rfl
  · simp only [Invocation.alone_eq_events]
    rfl
  · rw [fires, List.length_map]
  · rw [fires, List.length_map]
    exact s.length_due_add
  · rw [tick_eq]
    rfl
  · intro p hp
    rw [tick_eq] at hp
    obtain ⟨q, hq, rfl⟩ := List.mem_map.mp hp
    have more := of_decide_eq_true (List.mem_filter.mp hq).2
    rw [Pending.countDown_remaining]
    omega
  · intro p hp
    exact sound.find?_tick hp
  · have counts := Invocation.length_flatMap_events due
    simp only [Host.receive, List.length_append]
    omega

/-- A sound that is due at once, an effect that reaches nobody, and a sound that waits. -/
theorem advance_of_three :
    let source : Source := ⟨fun _ => 0, 0⟩
    let bell : Invocation :=
      { outcome :=
          { id := ⟨"luckbox", "bell"⟩, luck := 0, chance := 1, delay := 0, pos := none
            action := .sound { event := { id := ⟨"minecraft", "bell"⟩ } } }
        context := ⟨{ block := ⟨0, 64, 0⟩ }, source⟩ }
    let haste : Invocation :=
      { bell with outcome.action := .effect { id := ⟨"minecraft", "haste"⟩ } }
    let steps : List Step := [.schedule bell 0, .schedule haste 1, .schedule bell 3]
    let host : Host := {}
    let (fired, after, host') := (history steps).scheduler.advance host
    host.ticking = true ∧ fired = 2 ∧ host'.events = bell.alone ∧
      after.pending = [⟨2, 2, bell⟩] ∧ after.find? 1 = none := by
  intro source bell haste steps host
  have running : host.ticking = true := rfl
  have second : (⟨1, 1, haste⟩ : Pending Invocation) ∈ (history steps).scheduler.pending :=
    List.mem_cons_of_mem _ List.mem_cons_self
  obtain ⟨_, _, received, fired, _, rest, _, found, _⟩ := advance_due steps running
  exact ⟨running, fired, received ▸ rfl, rest, found _ second⟩

end Scheduler
end Fortune
