import Fortune.Proofs.Scheduler.History

/-!
The course of a ticket. It is read off the steps since the ticket was given out: the ticket fires on
the tick that completes its delay, unless a cancellation comes first, and is gone from then on.
-/
namespace Fortune.Scheduler

/-- How far a ticket has come `since` it was given out for some work and a delay. A delay of zero
counts as one. -/
inductive Course (ticket : Nat) (work : Invocation) (delay : Nat) (since : List Step)
    (r : History) : Phase → Prop where
  | pending (early : ticks since < max delay 1) (kept : .cancel ticket ∉ since)
      (standing : r.Standing ticket [⟨ticket, delay - ticks since, work⟩] [] False) :
      Course ticket work delay since r .pending
  | fired {first last : List Step} (split : since = first ++ last)
      (reached : ticks first = max delay 1) (kept : .cancel ticket ∉ first)
      (standing : r.Standing ticket [] [⟨ticket, 0, work⟩] False) :
      Course ticket work delay since r .fired
  | cancelled {first last : List Step} (split : since = first ++ .cancel ticket :: last)
      (early : ticks first < max delay 1) (standing : r.Standing ticket [] [] True) :
      Course ticket work delay since r .cancelled

namespace Course

variable {ticket delay : Nat} {work : Invocation} {since : List Step} {r : History} {phase : Phase}

theorem start (sound : r.scheduler.Sound) (clean : r.Standing r.scheduler.next [] [] False) :
    Course r.scheduler.next work delay [] (r.step (.schedule work delay)) .pending := by
  refine .pending ?_ List.not_mem_nil ⟨?_, clean.fired, clean.dropped⟩
  · rw [ticks_nil]
    omega
  · change (r.scheduler.schedule work delay).2.entries r.scheduler.next = _
    rw [entries_schedule, if_pos rfl, sound.entries_next]
    rfl

/-- Nothing moves a ticket that fired or was cancelled. -/
theorem step_settled (h : Course ticket work delay since r phase) (settled : phase ≠ .pending)
    (old : ticket < r.scheduler.next) (s : Step) :
    Course ticket work delay (since ++ [s]) (r.step s) phase := by
  cases h with
  | pending early kept standing => exact absurd rfl settled
  | @fired first last split reached kept standing =>
      have split' : since ++ [s] = first ++ (last ++ [s]) := by rw [split, List.append_assoc]
      exact .fired split' reached kept (standing.gone old s)
  | @cancelled first last split early standing =>
      have split' : since ++ [s] = first ++ .cancel ticket :: (last ++ [s]) := by
        rw [split, List.append_assoc, List.cons_append]
      exact .cancelled split' early (standing.gone old s)

/-- A waiting ticket stays, is cancelled, or fires, and it fires on the last of its ticks. -/
theorem step_pending (h : Course ticket work delay since r .pending)
    (old : ticket < r.scheduler.next) (s : Step) :
    ∃ phase, Course ticket work delay (since ++ [s]) (r.step s) phase := by
  cases h with
  | pending early kept standing =>
      cases s with
      | schedule other pause =>
          refine ⟨.pending, .pending ?_ ?_ ?_⟩
          · simpa [Step.isTick] using early
          · simpa using kept
          · simpa [Step.isTick] using standing.schedule old other pause
      | cancel other =>
          by_cases same : other = ticket
          · subst same
            have split : since ++ [.cancel other] = since ++ .cancel other :: [] := rfl
            refine ⟨.cancelled, .cancelled split early ?_⟩
            simpa using standing.cancel_self
          · refine ⟨.pending, .pending ?_ ?_ ?_⟩
            · simpa [Step.isTick] using early
            · simpa [Ne.symm same] using kept
            · simpa [Step.isTick] using standing.cancel_other same
      | advance host =>
          have kept' : Step.cancel ticket ∉ since ++ [.advance host] := by simpa using kept
          cases running : host.ticking with
          | false =>
              have still : ticks (since ++ [.advance host]) = ticks since := by
                simp [Step.isTick, running]
              refine ⟨.pending, .pending (still ▸ early) kept' ?_⟩
              rw [still]
              exact standing.paused running
          | true =>
              have more : ticks (since ++ [.advance host]) = ticks since + 1 := by
                simp [Step.isTick, running]
              have next := standing.tick running
              by_cases last : ticks since + 1 = max delay 1
              · have zero : delay - ticks since - 1 = 0 := by omega
                refine ⟨.fired, .fired (List.append_nil _).symm (more.trans last) kept' ?_⟩
                simpa [Pending.countDown, zero] using next
              · have left : delay - ticks since - 1 ≠ 0 := by omega
                refine ⟨.pending, .pending (by omega) kept' ?_⟩
                rw [more, Nat.sub_add_eq]
                simpa [Pending.countDown, left] using next

theorem step (h : Course ticket work delay since r phase) (old : ticket < r.scheduler.next)
    (s : Step) : ∃ phase, Course ticket work delay (since ++ [s]) (r.step s) phase := by
  cases phase with
  | pending => exact h.step_pending old s
  | fired => exact ⟨.fired, h.step_settled (by decide) old s⟩
  | cancelled => exact ⟨.cancelled, h.step_settled (by decide) old s⟩

/-- The phase of the course is the only one in which the ticket is found. -/
theorem inPhase_iff (h : Course ticket work delay since r phase) (other : Phase) :
    r.InPhase ticket other ↔ other = phase := by
  cases h with
  | pending early kept standing =>
      cases other <;> simp [standing.pending_iff, standing.fired_iff, standing.cancelled_iff]
  | fired split reached kept standing =>
      cases other <;> simp [standing.pending_iff, standing.fired_iff, standing.cancelled_iff]
  | cancelled split early standing =>
      cases other <;> simp [standing.pending_iff, standing.fired_iff, standing.cancelled_iff]

theorem fired_iff (h : Course ticket work delay since r phase) :
    r.InPhase ticket .fired ↔
      ∃ first last, since = first ++ last ∧ ticks first = max delay 1 ∧
        .cancel ticket ∉ first := by
  rw [h.inPhase_iff]
  cases h with
  | pending early kept standing =>
      refine ⟨fun same => absurd same (by decide), ?_⟩
      rintro ⟨first, last, split, reached, _⟩
      rw [split, ticks_append, reached] at early
      omega
  | fired split reached kept standing =>
      exact ⟨fun _ => ⟨_, _, split, reached, kept⟩, fun _ => rfl⟩
  | @cancelled front back split early standing =>
      refine ⟨fun same => absurd same (by decide), ?_⟩
      rintro ⟨first, last, split', reached, kept⟩
      -- The cancellation lies behind the completed delay only if the delay fits in front of it.
      rw [split] at split'
      rcases List.append_eq_append_iff.mp split' with ⟨more, rfl, rest⟩ | ⟨more, rfl, rest⟩
      · cases more with
        | nil =>
            rw [List.append_nil] at reached
            omega
        | cons s more =>
            obtain ⟨rfl, _⟩ := List.cons.inj rest
            simp at kept
      · rw [ticks_append] at early
        omega

/-- What fired is what was put off. -/
theorem fired_once (h : Course ticket work delay since r .fired) :
    r.fired.filter (fun p => p.ticket == ticket) = [⟨ticket, 0, work⟩] := by
  cases h with
  | fired split reached kept standing => exact standing.fired

/-- The tick that completes the delay brings up the ticket. -/
theorem fires (h : Course ticket work delay since r phase) {host : Host}
    (running : host.ticking = true) (kept : .cancel ticket ∉ since)
    (last : ticks since + 1 = max delay 1) :
    (r.scheduler.firing host).filter (fun p => p.ticket == ticket) = [⟨ticket, 0, work⟩] := by
  rw [firing_of_ticket, if_pos running]
  cases h with
  | pending early kept standing =>
      have zero : delay - ticks since - 1 = 0 := by omega
      rw [standing.waiting]
      simp [Pending.countDown, zero]
  | fired split reached kept standing =>
      rw [split, ticks_append, reached] at last
      omega
  | cancelled split early standing =>
      rw [split] at kept
      simp at kept

/-- No other advance does. -/
theorem silent (h : Course ticket work delay since r phase) {host : Host}
    (other : ¬(host.ticking = true ∧ .cancel ticket ∉ since ∧ ticks since + 1 = max delay 1)) :
    (r.scheduler.firing host).filter (fun p => p.ticket == ticket) = [] := by
  rw [firing_of_ticket]
  by_cases running : host.ticking = true
  · rw [if_pos running]
    cases h with
    | pending early kept standing =>
        have left : delay - ticks since - 1 ≠ 0 := by
          intro zero
          exact other ⟨running, kept, by omega⟩
        rw [standing.waiting]
        simp [Pending.countDown, left]
    | fired split reached kept standing => rw [standing.waiting]; rfl
    | cancelled split early standing => rw [standing.waiting]; rfl
  · rw [if_neg running]

theorem firing_iff (h : Course ticket work delay since r phase) (host : Host) :
    (∃ p ∈ r.scheduler.firing host, p.ticket = ticket) ↔
      host.ticking = true ∧ .cancel ticket ∉ since ∧ ticks since + 1 = max delay 1 := by
  constructor
  · rintro ⟨p, hp, same⟩
    by_contra other
    have mine := List.filter_eq_nil_iff.mp (h.silent other) p hp
    exact mine (beq_iff_eq.mpr same)
  · rintro ⟨running, kept, last⟩
    have mine : (⟨ticket, 0, work⟩ : Pending Invocation) ∈
        (r.scheduler.firing host).filter (fun p => p.ticket == ticket) := by
      rw [h.fires running kept last]
      exact List.mem_singleton_self _
    exact ⟨_, (List.mem_filter.mp mine).1, rfl⟩

theorem firing_work (h : Course ticket work delay since r phase) {host : Host}
    {p : Pending Invocation} (hp : p ∈ r.scheduler.firing host) (same : p.ticket = ticket) :
    p.work = work := by
  obtain ⟨running, kept, last⟩ := (h.firing_iff host).mp ⟨p, hp, same⟩
  have mine : p ∈ (r.scheduler.firing host).filter (fun p => p.ticket == ticket) :=
    List.mem_filter.mpr ⟨hp, beq_iff_eq.mpr same⟩
  rw [h.fires running kept last] at mine
  rw [List.mem_singleton.mp mine]

end Course

theorem history_next_le (steps later : List Step) :
    (history steps).scheduler.next ≤ (history (steps ++ later)).scheduler.next := by
  induction later using List.reverseRecOn with
  | nil => simp
  | append_singleton later s ih =>
      rw [← List.append_assoc, history_snoc]
      exact Nat.le_trans ih (History.step_next_le _ s)

theorem history_cancelled_subset (steps later : List Step) :
    (history steps).cancelled ⊆ (history (steps ++ later)).cancelled := by
  induction later using List.reverseRecOn with
  | nil => simp
  | append_singleton later s ih =>
      rw [← List.append_assoc, history_snoc]
      intro ticket ht
      cases s with
      | schedule work delay => exact ih ht
      | advance host => exact ih ht
      | cancel other =>
          simp only [History.step]
          split
          · exact List.mem_append_left _ (ih ht)
          · exact ih ht

theorem issued_request (work : Invocation) (delay : Nat) (before since : List Step) :
    (history before).scheduler.next ∈
      (history (before ++ .schedule work delay :: since)).issued := by
  have grows := history_next_le (before ++ [.schedule work delay]) since
  rw [history_snoc, History.step_next, List.append_assoc, List.singleton_append] at grows
  rw [(history_valid _).issued, List.mem_range]
  exact grows

/-- Behind every ticket there is a request. -/
theorem request_of_issued {steps : List Step} {ticket : Nat} (h : ticket ∈ (history steps).issued) :
    ∃ before work delay since, steps = before ++ .schedule work delay :: since ∧
      ticket = (history before).scheduler.next := by
  induction steps using List.reverseRecOn with
  | nil => exact absurd h List.not_mem_nil
  | append_singleton steps s ih =>
      have extend : ticket ∈ (history steps).issued →
          ∃ before work delay since, steps ++ [s] = before ++ .schedule work delay :: since ∧
            ticket = (history before).scheduler.next := by
        intro earlier
        obtain ⟨before, work, delay, since, split, same⟩ := ih earlier
        exact ⟨before, work, delay, since ++ [s], by simp [split], same⟩
      rw [history_snoc] at h
      cases s with
      | schedule work delay =>
          rcases List.mem_append.mp h with earlier | now
          · exact extend earlier
          · exact ⟨steps, work, delay, [], rfl, List.mem_singleton.mp now⟩
      | cancel other => exact extend h
      | advance host => exact extend h

theorem course_of_request (before : List Step) (work : Invocation) (delay : Nat)
    (since : List Step) :
    ∃ phase, Course (history before).scheduler.next work delay since
      (history (before ++ .schedule work delay :: since)) phase := by
  induction since using List.reverseRecOn with
  | nil =>
      have valid := history_valid before
      rw [history_snoc]
      exact ⟨.pending, Course.start valid.sound valid.unused⟩
  | append_singleton since s ih =>
      obtain ⟨phase, course⟩ := ih
      have issued := issued_request work delay before since
      rw [(history_valid _).issued, List.mem_range] at issued
      rw [← List.cons_append, ← List.append_assoc, history_snoc]
      exact course.step issued s

/-- A ticket is in one phase at a time. -/
theorem existsUnique_phase {steps : List Step} {ticket : Nat}
    (h : ticket ∈ (history steps).issued) : ∃! phase, (history steps).InPhase ticket phase := by
  obtain ⟨before, work, delay, since, rfl, rfl⟩ := request_of_issued h
  obtain ⟨phase, course⟩ := course_of_request before work delay since
  exact ⟨phase, (course.inPhase_iff phase).mpr rfl, fun other => (course.inPhase_iff other).mp⟩

/-- Whatever the callers do: tickets are new numbers in a row, each is in one phase at every point,
it fires on the tick that completes its delay if it was not cancelled before and at no other time,
and then what happens is what was put off. -/
theorem tickets_take_their_course (steps : List Step) :
    let r := history steps
    r.issued = List.range r.issued.length ∧ r.issued.Nodup ∧
    (∀ ticket ∈ r.issued, ∃! phase, r.InPhase ticket phase) ∧
    (∀ before work delay since, steps = before ++ .schedule work delay :: since →
      let ticket := ((history before).scheduler.schedule work delay).1
      ticket ∉ (history before).issued ∧ ticket ∈ r.issued ∧
      (r.InPhase ticket .fired ↔ ∃ first last, since = first ++ last ∧
        ticks first = max delay 1 ∧ .cancel ticket ∉ first) ∧
      (r.InPhase ticket .fired →
        r.fired.filter (fun p => p.ticket == ticket) = [⟨ticket, 0, work⟩]) ∧
      ∀ host, ((∃ p ∈ r.scheduler.firing host, p.ticket = ticket) ↔
          host.ticking = true ∧ .cancel ticket ∉ since ∧ ticks since + 1 = max delay 1) ∧
        ∀ p ∈ r.scheduler.firing host, p.ticket = ticket → p.work = work) ∧
    (∀ ticket, (r.scheduler.cancel ticket).1 = true ↔ r.InPhase ticket .pending) ∧
    (∀ ticket, r.InPhase ticket .cancelled →
      ∀ later, ¬(history (steps ++ later)).InPhase ticket .fired) ∧
    (∀ host, host.ticking = false → r.scheduler.advance host = (0, r.scheduler, host)) ∧
    ∀ host, (r.scheduler.advance host).1 = (r.scheduler.firing host).length ∧
      (r.scheduler.advance host).2.2 = (r.scheduler.firing host).foldl
        (fun h p => (p.work.outcome.execute p.work.context h).2) host := by
  have valid := history_valid steps
  refine ⟨?_, ?_, ?_, ?_, ?_, ?_, ?_, ?_⟩
  · rw [valid.issued, List.length_range]
  · rw [valid.issued]
    exact List.nodup_range
  · intro ticket h
    exact existsUnique_phase h
  · rintro before work delay since rfl
    obtain ⟨phase, course⟩ := course_of_request before work delay since
    refine ⟨?_, issued_request work delay before since, course.fired_iff, ?_, ?_⟩
    · rw [(history_valid before).issued]
      exact List.not_mem_range_self
    · intro fired
      obtain rfl := (course.inPhase_iff .fired).mp fired
      exact course.fired_once
    · intro host
      exact ⟨course.firing_iff host, fun p hp same => course.firing_work hp same⟩
  · intro ticket
    exact History.cancel_granted _ ticket
  · intro ticket cancelled later fired
    have still : (history (steps ++ later)).InPhase ticket .cancelled :=
      history_cancelled_subset steps later cancelled
    have issued : ticket ∈ (history (steps ++ later)).issued := by
      rw [(history_valid _).issued, List.mem_range]
      exact (history_valid _).cancelled ticket still
    have same := (existsUnique_phase issued).unique still fired
    cases same
  · intro host still
    exact advance_paused _ still
  · intro host
    rw [advance_exact, ← foldl_fire]
    exact ⟨rfl, rfl⟩

end Fortune.Scheduler
