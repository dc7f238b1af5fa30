/-!
Delayed work. Every request gets a ticket of its own; ticks count all requests down together, and a
request is due on the tick that brings it to zero. A delay of zero is due on the next tick, like a
delay of one.
-/
namespace Fortune

structure Pending (α : Type) where
  ticket : Nat
  remaining : Nat
  work : α
deriving Repr

def Pending.countDown {α : Type} (p : Pending α) : Pending α :=
  { p with remaining := p.remaining - 1 }

/-- The waiting requests in the order of their tickets, and the next ticket. -/
structure Scheduler (α : Type) where
  pending : List (Pending α) := []
  next : Nat := 0
deriving Repr

namespace Scheduler

variable {α : Type}

def schedule (s : Scheduler α) (work : α) (delay : Nat) : Nat × Scheduler α :=
  (s.next, ⟨s.pending ++ [⟨s.next, delay, work⟩], s.next + 1⟩)

def find? (s : Scheduler α) (ticket : Nat) : Option (Pending α) :=
  s.pending.find? fun p => p.ticket == ticket

def remaining? (s : Scheduler α) (ticket : Nat) : Option Nat :=
  (s.find? ticket).map Pending.remaining

/-- Drops a request, and tells whether it was still waiting. -/
def cancel (s : Scheduler α) (ticket : Nat) : Bool × Scheduler α :=
  ((s.find? ticket).isSome, { s with pending := s.pending.filter fun p => p.ticket != ticket })

/-- Counts everything down by one tick. What reaches zero is taken out, in ticket order. -/
def tick (s : Scheduler α) : List (Pending α) × Scheduler α :=
  let counted := s.pending.map Pending.countDown
  (counted.filter fun p => p.remaining == 0,
    { s with pending := counted.filter fun p => p.remaining != 0 })

end Scheduler
end Fortune
