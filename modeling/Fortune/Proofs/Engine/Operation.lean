import Fortune.Proofs.Scheduler.Tickets

/-!
Runs of an engine. Of all operations the scheduler sees its own three, and the triggers that put
something off; so its part of a run is a history.
-/
namespace Fortune

/-- What a caller may do with an engine. Definitions, contexts and hosts are the caller's own. -/
inductive Operation where
  | load (documents : List (Identifier × Document))
  | select (bias : Int)
  | lookup (id : Identifier)
  | resolve (d : Definition) (c : Context)
  | execute (o : Outcome) (c : Context) (h : Host)
  | schedule (o : Outcome) (c : Context) (delay : Nat)
  | cancel (ticket : Nat)
  | advance (h : Host)
  | trigger (d : Definition) (c : Context) (h : Host)

namespace Operation

/-- An advance that finds its host ticking. -/
def isTick : Operation → Bool
  | .advance h => h.ticking
  | _ => false

/-- What the scheduler sees of an operation. -/
def steps : Operation → List Scheduler.Step
  | .schedule o c delay => [.schedule ⟨o, c⟩ delay]
  | .cancel ticket => [.cancel ticket]
  | .advance h => [.advance h]
  | .trigger d c _ =>
    match Outcome.resolve d c with
    | (.error _, _) => []
    | (.ok o, after) => if o.delay = 0 then [] else [.schedule ⟨o, after⟩ o.delay]
  | _ => []

section Trigger

variable {d : Definition} {c after : Context} {o : Outcome}

theorem steps_trigger_error {error : Outcome.Error}
    (resolved : Outcome.resolve d c = (.error error, after)) (h : Host) :
    (trigger d c h).steps = [] := by
  simp only [steps, resolved]

theorem steps_trigger_now (resolved : Outcome.resolve d c = (.ok o, after)) (now : o.delay = 0)
    (h : Host) : (trigger d c h).steps = [] := by
  simp only [steps, resolved]
  exact if_pos now

theorem steps_trigger_later (resolved : Outcome.resolve d c = (.ok o, after))
    (later : o.delay ≠ 0) (h : Host) :
    (trigger d c h).steps = [.schedule ⟨o, after⟩ o.delay] := by
  simp only [steps, resolved]
  exact if_neg later

/-- A trigger reaches the scheduler as a request or not at all. -/
theorem steps_trigger (d : Definition) (c : Context) (h : Host) :
    (trigger d c h).steps = [] ∨
      ∃ work delay, (trigger d c h).steps = [.schedule work delay] := by
  cases resolved : Outcome.resolve d c with
  | mk result after =>
      cases result with
      | error error => exact Or.inl (steps_trigger_error resolved h)
      | ok o =>
          by_cases now : o.delay = 0
          · exact Or.inl (steps_trigger_now resolved now h)
          · exact Or.inr ⟨_, _, steps_trigger_later resolved now h⟩

end Trigger

theorem cancel_mem_steps (op : Operation) (ticket : Nat) :
    .cancel ticket ∈ op.steps ↔ op = .cancel ticket := by
  cases op with
  | trigger d c h =>
      rcases steps_trigger d c h with unseen | ⟨work, delay, seen⟩
      · simp [unseen]
      · simp [seen]
  | _ => simp [steps, eq_comm]

theorem ticks_steps (op : Operation) :
    Scheduler.ticks op.steps = if op.isTick then 1 else 0 := by
  cases op with
  | trigger d c h =>
      rcases steps_trigger d c h with unseen | ⟨work, delay, seen⟩
      · rw [unseen]
        rfl
      · rw [seen]
        rfl
  | advance h => exact Scheduler.ticks_singleton _
  | _ => rfl

theorem cancel_mem_flatMap (ops : List Operation) (ticket : Nat) :
    .cancel ticket ∈ ops.flatMap steps ↔ .cancel ticket ∈ ops := by
  simp [List.mem_flatMap, cancel_mem_steps]

theorem ticks_flatMap (ops : List Operation) :
    Scheduler.ticks (ops.flatMap steps) = ops.countP isTick := by
  induction ops with
  | nil => rfl
  | cons op ops ih =>
      rw [List.flatMap_cons, Scheduler.ticks_append, ticks_steps, ih, List.countP_cons,
        Nat.add_comm]

end Operation

namespace Engine

section Trigger

variable {d : Definition} {c after : Context} {o : Outcome}

theorem trigger_error {error : Outcome.Error}
    (resolved : Outcome.resolve d c = (.error error, after)) (e : Engine) (h : Host) :
    e.trigger d c h = (.error error, e, h) := by
  rw [trigger, resolved]

theorem trigger_now (resolved : Outcome.resolve d c = (.ok o, after)) (now : o.delay = 0)
    (e : Engine) (h : Host) :
    e.trigger d c h = (.ok (.executed o), e, h.receive (Invocation.events ⟨o, after⟩)) := by
  simp only [trigger, resolved]
  rw [if_pos now, Outcome.execute_host]

theorem trigger_later (resolved : Outcome.resolve d c = (.ok o, after)) (later : o.delay ≠ 0)
    (e : Engine) (h : Host) :
    e.trigger d c h =
      (.ok (.scheduled (e.schedule o after o.delay).1), (e.schedule o after o.delay).2, h) := by
  simp only [trigger, resolved]
  rw [if_neg later]

end Trigger

def perform (e : Engine) : Operation → Engine
  | .load documents => (e.load documents).1
  | .select bias => (e.select bias).2
  | .lookup _ => e
  | .resolve _ _ => e
  | .execute _ _ _ => e
  | .schedule o c delay => (e.schedule o c delay).2
  | .cancel ticket => (e.cancel ticket).2
  | .advance h => (e.advance h).2.1
  | .trigger d c h => (e.trigger d c h).2.1

/-- The engine that some operations leave behind, one after the other. -/
def after (e : Engine) (ops : List Operation) : Engine := ops.foldl perform e

theorem after_append (e : Engine) (first last : List Operation) :
    e.after (first ++ last) = (e.after first).after last :=
  List.foldl_append

open Scheduler (History history)

theorem perform_scheduler {e : Engine} {r : History} (same : e.scheduler = r.scheduler)
    (op : Operation) : (e.perform op).scheduler = (op.steps.foldl History.step r).scheduler := by
  cases op with
  | schedule o c delay =>
      change (e.scheduler.schedule ⟨o, c⟩ delay).2 = (r.scheduler.schedule ⟨o, c⟩ delay).2
      rw [same]
  | cancel ticket =>
      change (e.scheduler.cancel ticket).2 = (r.scheduler.cancel ticket).2
      rw [same]
  | advance h =>
      change (e.scheduler.advance h).2.1 = (r.scheduler.advance h).2.1
      rw [same]
  | trigger d c h =>
      cases resolved : Outcome.resolve d c with
      | mk result after =>
          cases result with
          | error error =>
              rw [perform, trigger_error resolved, Operation.steps_trigger_error resolved]
              exact same
          | ok o =>
              by_cases now : o.delay = 0
              · rw [perform, trigger_now resolved now, Operation.steps_trigger_now resolved now]
                exact same
              · rw [perform, trigger_later resolved now, Operation.steps_trigger_later resolved now]
                change (e.scheduler.schedule _ _).2 = (r.scheduler.schedule _ _).2
                rw [same]
  | load documents => exact same
  | select bias => exact same
  | lookup id => exact same
  | resolve d c => exact same
  | execute o c h => exact same

/-- The scheduler's part of a run. -/
theorem after_scheduler (settings : Settings) (ops : List Operation) :
    ((ofSettings settings).after ops).scheduler =
      (history (ops.flatMap Operation.steps)).scheduler := by
  induction ops using List.reverseRecOn with
  | nil => rfl
  | append_singleton ops op ih =>
      rw [after_append, List.flatMap_append, List.flatMap_singleton]
      change (((ofSettings settings).after ops).perform op).scheduler = _
      rw [perform_scheduler ih, Scheduler.history, Scheduler.history, List.foldl_append]

end Engine
end Fortune
