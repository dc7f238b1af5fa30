import Fortune.Engine
import Fortune.Proofs.Scheduler.Table

/-!
What an advance lets happen. The host receives the events of the requests that come due, in the
order of their tickets and each as if it happened alone.
-/
namespace Fortune

@[simp] theorem Host.receive_nil (h : Host) : h.receive [] = h := by
  simp [Host.receive]

theorem Host.receive_receive (h : Host) (first second : List Event) :
    (h.receive first).receive second = h.receive (first ++ second) := by
  simp [Host.receive]

/-- What an invocation asks of a host. The seed of a sound comes from its own context. -/
def Invocation.events (i : Invocation) : List Event :=
  (i.context.draw (i.outcome.perform i.context.toScene)).1

/-- An effect without an actor to reach. -/
def Invocation.unreceived (i : Invocation) : Bool :=
  i.outcome.kind == .effect && i.context.actor.isNone

/-- An invocation is one event, unless it is an effect without an actor to reach. -/
theorem Invocation.length_events (i : Invocation) :
    i.events.length + (if i.unreceived then 1 else 0) = 1 := by
  cases action : i.outcome.action with
  | effect effect =>
      have kind : i.outcome.kind = .effect := by rw [Outcome.kind, action]; rfl
      have events : i.events = (i.context.actor.map fun a => Event.effect a effect).toList := by
        simp only [Invocation.events, Outcome.perform, action]
        rfl
      rw [events, unreceived, kind]
      cases i.context.actor <;> rfl
  | sound sound =>
      have kind : i.outcome.kind = .sound := by rw [Outcome.kind, action]; rfl
      have events : i.events = [.sound
          (i.context.draw (Outcome.emit sound (i.outcome.position i.context.toScene))).1] := by
        simp only [Invocation.events, Outcome.perform, action]
        rfl
      rw [events, unreceived, kind]
      rfl

theorem Outcome.execute_host (o : Outcome) (c : Context) (h : Host) :
    (o.execute c h).2 = h.receive (Invocation.events ⟨o, c⟩) := rfl

namespace Scheduler

/-- The requests that an advance lets happen on a host as it is found. -/
def firing (s : Scheduler Invocation) (h : Host) : List (Pending Invocation) :=
  if h.ticking then s.tick.1 else []

/-- The scheduler that an advance leaves behind. -/
def counted (s : Scheduler Invocation) (h : Host) : Scheduler Invocation :=
  if h.ticking then s.tick.2 else s

theorem fire_eq_receive (h : Host) (p : Pending Invocation) :
    fire h p = h.receive p.work.events := rfl

theorem foldl_fire (due : List (Pending Invocation)) (h : Host) :
    due.foldl fire h = h.receive (due.flatMap fun p => p.work.events) := by
  induction due generalizing h with
  | nil => simp
  | cons p due ih =>
      rw [List.foldl_cons, ih, fire_eq_receive, Host.receive_receive, List.flatMap_cons]

theorem advance_exact (s : Scheduler Invocation) (h : Host) :
    s.advance h = ((s.firing h).length, s.counted h,
      h.receive ((s.firing h).flatMap fun p => p.work.events)) := by
  unfold advance firing counted
  split
  · rw [← foldl_fire]
  · simp

theorem advance_paused (s : Scheduler Invocation) {h : Host} (paused : h.ticking = false) :
    s.advance h = (0, s, h) := by
  simp [advance, paused]

theorem Sound.counted {s : Scheduler Invocation} (h : s.Sound) (host : Host) :
    (s.counted host).Sound := by
  unfold Scheduler.counted
  split
  · exact h.tick
  · exact h

theorem entries_counted (s : Scheduler Invocation) (host : Host) (ticket : Nat) :
    (s.counted host).entries ticket =
      if host.ticking then
        ((s.entries ticket).map Pending.countDown).filter fun p => p.remaining != 0
      else s.entries ticket := by
  unfold counted
  split
  · exact entries_tick s ticket
  · rfl

theorem firing_of_ticket (s : Scheduler Invocation) (host : Host) (ticket : Nat) :
    (s.firing host).filter (fun p => p.ticket == ticket) =
      if host.ticking then
        ((s.entries ticket).map Pending.countDown).filter fun p => p.remaining == 0
      else [] := by
  unfold firing
  split
  · exact due_tick s ticket
  · rfl

end Scheduler
end Fortune
