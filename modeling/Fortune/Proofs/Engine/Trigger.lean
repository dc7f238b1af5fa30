import Fortune.Proofs.Engine.Operation

/-!
Triggers. An outcome that is put off does on the tick that completes its delay what it would have
done at once, since it waits with the context that its resolution left behind.
-/
namespace Fortune.Engine
open Scheduler (Course history)

theorem advance_exact (e : Engine) (h : Host) :
    e.advance h = ((e.scheduler.firing h).length, { e with scheduler := e.scheduler.counted h },
      h.receive ((e.scheduler.firing h).flatMap fun p => p.work.events)) := by
  unfold advance
  rw [Scheduler.advance_exact]

theorem sound_after (settings : Settings) (ops : List Operation) :
    ((ofSettings settings).after ops).scheduler.Sound := by
  rw [after_scheduler]
  exact (Scheduler.history_valid _).sound

/-- What a trigger puts off takes the course of a ticket. -/
theorem course_of_trigger (settings : Settings) (earlier later : List Operation) {d : Definition}
    {c resolved : Context} {o : Outcome} (ok : Outcome.resolve d c = (.ok o, resolved))
    (delayed : o.delay ≠ 0) (h : Host) :
    let e := (ofSettings settings).after earlier
    ∃ r phase, ((e.trigger d c h).2.1.after later).scheduler = r.scheduler ∧
      Course e.scheduler.next ⟨o, resolved⟩ o.delay (later.flatMap Operation.steps) r phase := by
  intro e
  obtain ⟨phase, course⟩ := Scheduler.course_of_request (earlier.flatMap Operation.steps)
    ⟨o, resolved⟩ o.delay (later.flatMap Operation.steps)
  rw [← after_scheduler settings] at course
  refine ⟨_, phase, ?_, course⟩
  have run := after_scheduler settings (earlier ++ .trigger d c h :: later)
  rw [after_append, List.flatMap_append, List.flatMap_cons,
    Operation.steps_trigger_later ok delayed] at run
  exact run

theorem exists_split_of_filter {due : List (Pending Invocation)} {ticket : Nat}
    {p : Pending Invocation} (h : due.filter (fun q => q.ticket == ticket) = [p]) :
    ∃ front back, due = front ++ p :: back ∧ ∀ q ∈ front ++ back, q.ticket ≠ ticket := by
  obtain ⟨front, back, split, before, _, behind⟩ := List.filter_eq_cons_iff.mp h
  refine ⟨front, back, split, ?_⟩
  intro q hq same
  rcases List.mem_append.mp hq with earlier | later
  · exact before q earlier (beq_iff_eq.mpr same)
  · exact List.filter_eq_nil_iff.mp behind q later (beq_iff_eq.mpr same)

/-- On the tick that completes the delay, the ticket comes up once and with the context it was
given, and the host receives its events between those of the others. No other advance brings it
up. -/
theorem advance_of_course {e : Engine} {ticket : Nat} {work : Invocation} {delay : Nat}
    {later : List Operation} {r : Scheduler.History} {phase : Scheduler.Phase}
    (course : Course ticket work delay (later.flatMap Operation.steps) r phase)
    (same : e.scheduler = r.scheduler) (delayed : delay ≠ 0) (kept : .cancel ticket ∉ later)
    (host : Host) :
    let due := e.scheduler.firing host
    if host.ticking = true ∧ later.countP Operation.isTick + 1 = delay then
      ∃ front back, due = front ++ ⟨ticket, 0, work⟩ :: back ∧
        (∀ p ∈ front ++ back, p.ticket ≠ ticket) ∧
        (e.advance host).2.2 = host.receive ((front.flatMap fun p => p.work.events) ++
          work.events ++ back.flatMap fun p => p.work.events)
    else ∀ p ∈ due, p.ticket ≠ ticket := by
  intro due
  have due_eq : due = r.scheduler.firing host := congrArg (·.firing host) same
  split
  · rename_i last
    have kept' : .cancel ticket ∉ later.flatMap Operation.steps :=
      fun cancelled => kept ((Operation.cancel_mem_flatMap later ticket).mp cancelled)
    have complete : Scheduler.ticks (later.flatMap Operation.steps) + 1 = max delay 1 := by
      rw [Operation.ticks_flatMap, last.2]
      omega
    have alone := course.fires last.1 kept' complete
    rw [← due_eq] at alone
    obtain ⟨front, back, split, others⟩ := exists_split_of_filter alone
    refine ⟨front, back, split, others, ?_⟩
    have received : (e.advance host).2.2 = host.receive (due.flatMap fun p => p.work.events) := by
      rw [advance_exact]
    rw [received, split, List.flatMap_append, List.flatMap_cons, List.append_assoc]
  · rename_i other
    intro p hp mine
    rw [due_eq] at hp
    obtain ⟨running, _, complete⟩ := (course.firing_iff host).mp ⟨p, hp, mine⟩
    rw [Operation.ticks_flatMap] at complete
    exact other ⟨running, by omega⟩

/-- Whatever happened before: a trigger that fails changes nothing, one without delay happens at
once, and one with a delay waits under a new ticket. Whatever happens then, short of cancelling the
ticket, it comes up on the tick that completes the delay and on no other, and does among the others
what it would have done at once. -/
theorem trigger_exact (settings : Settings) (earlier : List Operation) (d : Definition)
    (c : Context) (h : Host) :
    let e := (ofSettings settings).after earlier
    match Outcome.resolve d c with
    | (.error error, _) => e.trigger d c h = (.error error, e, h)
    | (.ok o, resolved) =>
      let atOnce := Invocation.events ⟨o, resolved⟩
      (∀ host, (o.execute resolved host).2 = { host with events := host.events ++ atOnce }) ∧
      if o.delay = 0 then e.trigger d c h = (.ok (.executed o), e, (o.execute resolved h).2)
      else
        ∃ ticket scheduler, e.trigger d c h = (.ok (.scheduled ticket), { e with scheduler }, h) ∧
          (∀ p ∈ e.scheduler.pending, p.ticket ≠ ticket) ∧
          scheduler.pending = e.scheduler.pending ++ [⟨ticket, o.delay, ⟨o, resolved⟩⟩] ∧
          scheduler.remaining? ticket = some o.delay ∧
          ∀ later, .cancel ticket ∉ later → ∀ host,
            let e' := ({ e with scheduler } : Engine).after later
            let due := e'.scheduler.firing host
            (e'.advance host).1 = due.length ∧
            (e'.advance host).2.2 = host.receive (due.flatMap fun p => p.work.events) ∧
            if host.ticking = true ∧ later.countP Operation.isTick + 1 = o.delay then
              ∃ front back, due = front ++ ⟨ticket, 0, ⟨o, resolved⟩⟩ :: back ∧
                (∀ p ∈ front ++ back, p.ticket ≠ ticket) ∧
                (e'.advance host).2.2 = host.receive ((front.flatMap fun p => p.work.events) ++
                  atOnce ++ back.flatMap fun p => p.work.events)
            else ∀ p ∈ due, p.ticket ≠ ticket := by
  intro e
  cases ok : Outcome.resolve d c with
  | mk result resolved =>
      cases result with
      | error error => exact trigger_error ok e h
      | ok o =>
          refine ⟨fun host => Outcome.execute_host o resolved host, ?_⟩
          by_cases now : o.delay = 0
          · rw [if_pos now]
            exact trigger_now ok now e h
          · rw [if_neg now]
            have sound : e.scheduler.Sound := sound_after settings earlier
            refine ⟨_, _, trigger_later ok now e h, ?_, rfl, ?_, ?_⟩
            · intro p hp
              exact Nat.ne_of_lt (sound.below p hp)
            · exact sound.remaining?_schedule ⟨o, resolved⟩ o.delay
            · intro later kept host
              obtain ⟨r, phase, same, course⟩ := course_of_trigger settings earlier later ok now h
              rw [trigger_later ok now] at same
              refine ⟨?_, ?_, advance_of_course course same now kept host⟩
              · rw [advance_exact]
              · rw [advance_exact]

end Fortune.Engine
