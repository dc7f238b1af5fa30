import Fortune.Host
import Fortune.Registry.Basic
import Fortune.Scheduler

/-!
The engine: a registry to draw from, a scheduler for delayed outcomes, and a random source used for
selection alone. A delayed outcome waits together with the context it was resolved in.
-/
namespace Fortune

structure Settings where
  seed : UInt64 := 42
  reserved : String := defaultReserved
deriving DecidableEq, Repr

/-- An outcome and the context in which it will happen. -/
structure Invocation where
  outcome : Outcome
  context : Context

namespace Scheduler

def fire (h : Host) (p : Pending Invocation) : Host :=
  (p.work.outcome.execute p.work.context h).2

/-- One tick of a host: what is due happens. Nothing changes while the host is not ticking. Also
tells how many invocations happened. -/
def advance (s : Scheduler Invocation) (h : Host) : Nat × Scheduler Invocation × Host :=
  if h.ticking then
    let (due, after) := s.tick
    (due.length, after, due.foldl fire h)
  else (0, s, h)

end Scheduler

structure Engine where
  settings : Settings
  registry : Registry
  scheduler : Scheduler Invocation
  random : Source

inductive Triggered where
  | executed (outcome : Outcome)
  | scheduled (ticket : Nat)
deriving Repr

namespace Engine

def ofSettings (settings : Settings) : Engine where
  settings
  registry := { reserved := settings.reserved }
  scheduler := {}
  random := Source.ofSeed settings.seed

def load (e : Engine) (documents : List (Identifier × Document)) : Engine × LoadReport :=
  let (registry, report) := e.registry.load documents
  ({ e with registry }, report)

def select (e : Engine) (bias : Int) : Except Outcome.Error Definition × Engine :=
  let (result, random) := (e.registry.select bias).run e.random
  (result, { e with random })

def selectMany (e : Engine) (bias : Int) (count : Nat) :
    Except Outcome.Error (List Definition) × Engine :=
  let (result, random) := (e.registry.selectMany bias count).run e.random
  (result, { e with random })

def schedule (e : Engine) (o : Outcome) (c : Context) (delay : Nat) : Nat × Engine :=
  let (ticket, scheduler) := e.scheduler.schedule ⟨o, c⟩ delay
  (ticket, { e with scheduler })

def cancel (e : Engine) (ticket : Nat) : Bool × Engine :=
  let (dropped, scheduler) := e.scheduler.cancel ticket
  (dropped, { e with scheduler })

def advance (e : Engine) (h : Host) : Nat × Engine × Host :=
  let (fired, scheduler, h) := e.scheduler.advance h
  (fired, { e with scheduler }, h)

/-- Resolves a definition, then lets the outcome happen or puts it off by its delay. -/
def trigger (e : Engine) (d : Definition) (c : Context) (h : Host) :
    Except Outcome.Error Triggered × Engine × Host :=
  match Outcome.resolve d c with
  | (.error error, _) => (.error error, e, h)
  | (.ok o, after) =>
    if o.delay = 0 then (.ok (.executed o), e, (o.execute after h).2)
    else
      let (ticket, e) := e.schedule o after o.delay
      (.ok (.scheduled ticket), e, h)

end Engine
end Fortune
