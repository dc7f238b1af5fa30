import Fortune.Proofs.Engine.Operation
import Fortune.Proofs.Engine.Selections
import Fortune.Proofs.Random.Forward

/-!
The two halves of an engine. Draws depend on what was loaded and on earlier draws; what happens on
hosts and what waits depends on neither, since every context brings its own random source. So each
half of a run goes as if the operations on the other half had not been there.
-/
namespace Fortune

/-- What an operation gives back, with the caller's context and host as it leaves them. -/
inductive Answer where
  | loaded (report : LoadReport)
  | selected (result : Except Outcome.Error Definition)
  | found (result : Except Outcome.Error Definition)
  | resolved (result : Except Outcome.Error Outcome) (c : Context)
  | executed (c : Context) (h : Host)
  | scheduled (ticket : Nat)
  | cancelled (dropped : Bool)
  | advanced (fired : Nat) (h : Host)
  | triggered (result : Except Outcome.Error Triggered) (h : Host)

def Answer.isDrawn : Answer → Bool
  | .selected (.ok _) => true
  | _ => false

namespace Operation

/-- Loading and drawing. -/
def isSelection : Operation → Bool
  | .load _ => true
  | .select _ => true
  | _ => false

def isAction : Operation → Bool
  | .load _ => false
  | .select _ => false
  | .lookup _ => false
  | _ => true

end Operation

/-- An operation of a run, its answer, and the engine that it leaves behind. -/
structure LogEntry where
  operation : Operation
  answer : Answer
  engine : Engine

namespace Engine

def answer (e : Engine) : Operation → Answer
  | .load documents => .loaded (e.load documents).2
  | .select bias => .selected (e.select bias).1
  | .lookup id => .found (e.registry.lookup id)
  | .resolve d c => .resolved (Outcome.resolve d c).1 (Outcome.resolve d c).2
  | .execute o c h => .executed (o.execute c h).1 (o.execute c h).2
  | .schedule o c delay => .scheduled (e.schedule o c delay).1
  | .cancel ticket => .cancelled (e.cancel ticket).1
  | .advance h => .advanced (e.advance h).1 (e.advance h).2.2
  | .trigger d c h => .triggered (e.trigger d c h).1 (e.trigger d c h).2.2

def log (e : Engine) : List Operation → List LogEntry
  | [] => []
  | op :: ops => ⟨op, e.answer op, e.perform op⟩ :: (e.perform op).log ops

/-- Some operations read and change one part of the engine alone, and the others leave this part as
it is. -/
structure Confined {β : Type} (part : Engine → β) (own : Operation → Bool) : Prop where
  frame : ∀ e op, own op = false → part (e.perform op) = part e
  answer : ∀ e e' op, own op = true → part e = part e' → e.answer op = e'.answer op
  step : ∀ e e' op, own op = true → part e = part e' → part (e.perform op) = part (e'.perform op)

/-- Without the other operations the run of these is the same. -/
theorem Confined.log {β : Type} {part : Engine → β} {own : Operation → Bool}
    (h : Confined part own) {e e' : Engine} (same : part e = part e') (ops : List Operation) :
    ((e.log ops).filter fun x => own x.operation).map
        (fun x => (x.operation, x.answer, part x.engine)) =
      (e'.log (ops.filter own)).map fun x => (x.operation, x.answer, part x.engine) := by
  induction ops generalizing e e' with
  | nil => rfl
  | cons op ops ih =>
      cases mine : own op with
      | false =>
          have still : part (e.perform op) = part e' := (h.frame e op mine).trans same
          simp only [Engine.log, List.filter_cons, mine, Bool.false_eq_true, if_false]
          exact ih still
      | true =>
          have next : part (e.perform op) = part (e'.perform op) := h.step e e' op mine same
          simp only [Engine.log, List.filter_cons, mine, if_true, List.map_cons]
          rw [h.answer e e' op mine same, next, ih next]

theorem trigger_frame (e : Engine) (d : Definition) (c : Context) (h : Host) :
    ∃ scheduler, (e.trigger d c h).2.1 = { e with scheduler } := by
  cases resolved : Outcome.resolve d c with
  | mk result after =>
      cases result with
      | error error =>
          rw [trigger_error resolved]
          exact ⟨e.scheduler, rfl⟩
      | ok o =>
          by_cases now : o.delay = 0
          · rw [trigger_now resolved now]
            exact ⟨e.scheduler, rfl⟩
          · rw [trigger_later resolved now]
            exact ⟨_, rfl⟩

/-- Only loading and drawing reach the registry and the engine's own random source. -/
theorem perform_frame (e : Engine) {op : Operation} (other : op.isSelection = false) :
    ∃ scheduler, e.perform op = { e with scheduler } := by
  cases op with
  | load documents => cases other
  | select bias => cases other
  | lookup id => exact ⟨e.scheduler, rfl⟩
  | resolve d c => exact ⟨e.scheduler, rfl⟩
  | execute o c h => exact ⟨e.scheduler, rfl⟩
  | schedule o c delay => exact ⟨_, rfl⟩
  | cancel ticket => exact ⟨_, rfl⟩
  | advance h => exact ⟨_, rfl⟩
  | trigger d c h => exact trigger_frame e d c h

theorem confined_selection :
    Confined (fun e => (e.registry, e.random)) Operation.isSelection where
  frame e op other := by
    obtain ⟨scheduler, performed⟩ := perform_frame e other
    rw [performed]
  answer e e' op mine same := by
    obtain ⟨registry, random⟩ := Prod.mk.inj same
    cases op with
    | load documents => simp only [answer, load, registry]
    | select bias =>
        change Answer.selected ((e.registry.select bias).run e.random).1 =
          .selected ((e'.registry.select bias).run e'.random).1
        rw [registry, random]
    | _ => cases mine
  step e e' op mine same := by
    obtain ⟨registry, random⟩ := Prod.mk.inj same
    cases op with
    | load documents => simp only [perform, load, registry, random]
    | select bias =>
        change (e.registry, ((e.registry.select bias).run e.random).2) =
          (e'.registry, ((e'.registry.select bias).run e'.random).2)
        rw [registry, random]
    | _ => cases mine

/-- The answer to a trigger tells of the scheduler no more than the ticket it gives out. -/
theorem trigger_answer {e e' : Engine} (same : e.scheduler = e'.scheduler) (d : Definition)
    (c : Context) (h : Host) : e.answer (.trigger d c h) = e'.answer (.trigger d c h) := by
  simp only [answer]
  cases resolved : Outcome.resolve d c with
  | mk result after =>
      cases result with
      | error error => rw [trigger_error resolved, trigger_error resolved]
      | ok o =>
          by_cases now : o.delay = 0
          · rw [trigger_now resolved now, trigger_now resolved now]
          · rw [trigger_later resolved now, trigger_later resolved now]
            simp only [schedule, same]

theorem confined_action : Confined Engine.scheduler Operation.isAction where
  frame e op other := by
    cases op with
    | load documents => rfl
    | select bias => rfl
    | lookup id => rfl
    | _ => cases other
  answer e e' op mine same := by
    cases op with
    | load documents => cases mine
    | select bias => cases mine
    | lookup id => cases mine
    | resolve d c => rfl
    | execute o c h => rfl
    | schedule o c delay => simp only [answer, schedule, same]
    | cancel ticket => simp only [answer, cancel, same]
    | advance h => simp only [answer, advance, same]
    | trigger d c h => exact trigger_answer same d c h
  step e e' op _ same := by
    -- What an operation makes of the scheduler is what its steps make of a history with it.
    let r : Scheduler.History := { scheduler := e'.scheduler }
    exact (perform_scheduler (r := r) same op).trans (perform_scheduler (r := r) rfl op).symm

theorem unit_advance (source : Source) : (Draw.unit source).2 = source.advance 2 := rfl

theorem answer_not_drawn (e : Engine) {op : Operation} (other : op.isSelection = false) :
    (e.answer op).isDrawn = false := by
  cases op with
  | load documents => cases other
  | select bias => cases other
  | _ => rfl

/-- What one operation takes from the source that draws come from. -/
theorem perform_random (e : Engine) (op : Operation) :
    (e.perform op).random = e.random.advance (if (e.answer op).isDrawn then 2 else 0) := by
  cases mine : op.isSelection with
  | false =>
      obtain ⟨scheduler, performed⟩ := perform_frame e mine
      rw [performed, answer_not_drawn e mine]
      rfl
  | true =>
      cases op with
      | load documents => rfl
      | select bias =>
          rcases select_cases e bias with ⟨d, drawn, _⟩ | ⟨error, refused⟩
          · simp only [perform, answer, drawn, Answer.isDrawn, unit_advance, if_true]
          · simp only [perform, answer, refused, Answer.isDrawn]
            rfl
      | _ => cases mine

theorem after_random (e : Engine) (ops : List Operation) :
    (e.after ops).random =
      e.random.advance (2 * (e.log ops).countP fun x => x.answer.isDrawn) := by
  induction ops generalizing e with
  | nil => rfl
  | cons op ops ih =>
      have next : (e.after (op :: ops)).random = ((e.perform op).after ops).random := rfl
      rw [next, ih, perform_random, Source.advance_advance, log, List.countP_cons]
      congr 1
      split <;> omega

/-- From any state, and in whatever order the operations come: draws go as if there were only
loading and drawing, and what is asked of hosts, answered and left waiting goes as if there were no
loading, drawing or looking up. A draw that fails leaves the engine as it is; one that succeeds takes
one number of the unit interval, two words, and nothing else takes any. -/
theorem halves_independent (e : Engine) (ops : List Operation) :
    ((e.log ops).filter fun x => x.operation.isSelection).map
        (fun x => (x.operation, x.answer, x.engine.registry, x.engine.random)) =
      (e.log (ops.filter Operation.isSelection)).map
        (fun x => (x.operation, x.answer, x.engine.registry, x.engine.random)) ∧
    ((e.log ops).filter fun x => x.operation.isAction).map
        (fun x => (x.operation, x.answer, x.engine.scheduler)) =
      (e.log (ops.filter Operation.isAction)).map
        (fun x => (x.operation, x.answer, x.engine.scheduler)) ∧
    (∀ bias,
      (∃ d, e.select bias = (.ok d, { e with random := (Draw.unit e.random).2 }) ∧
        e.registry.selectWith bias (Draw.unit e.random).1 = .ok d) ∨
      ∃ error, e.select bias = (.error error, e)) ∧
    (∀ source, (Draw.unit source).2 = source.advance 2) ∧
    (e.after ops).random =
      e.random.advance (2 * (e.log ops).countP fun x => x.answer.isDrawn) := by
  refine ⟨?_, ?_, select_cases e, unit_advance, after_random e ops⟩
  · exact confined_selection.log rfl ops
  · exact confined_action.log rfl ops

end Engine
end Fortune
