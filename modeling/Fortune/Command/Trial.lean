import Fortune.Command.Start

/-!
Trials: one outcome of a pack is set off, and some ticks are counted. What happens is printed with
the tick on which it happens.
-/
namespace Fortune.Command
open Decimal

/-- The trial to make. Without an identifier the outcome is drawn. -/
structure Trial where
  id : Option String := none
  pack : PackChoice := {}
  luck : Int := 0
  ticks : Nat := 20
  seed : UInt64 := 42
  pos : String := "0,64,0"
  player : String := "Steve"
deriving DecidableEq, Repr

inductive TrialLine where
  | chosen (id : Identifier)
  | scheduled (ticket delay : Nat)
  | happened (tick : Nat) (event : Event)
  | blank
  | performed (count : Nat)
  | pending (count : Nat)
deriving Repr

namespace TrialLine

/-- A number in three columns or more, at their right. -/
def padded (n : Nat) : List Char :=
  let digits := natText n
  List.replicate (3 - digits.length) ' ' ++ digits

def label (tick : Nat) : String := "  [tick " ++ String.ofList (padded tick) ++ "] "

/-- What happens, in words. The level has 32 bits, and the one above the greatest is the least. -/
def eventText : Event → String
  | .effect target e =>
    "EFFECT " ++ e.id.text ++ " (level " ++ String.ofList (intText (wrap32 (e.amplifier + 1))) ++
      ", " ++ String.ofList (intText e.duration) ++ " ticks) on " ++ target.name
  | .sound e =>
    "SOUND " ++ e.sound.text ++ " at " ++ e.pos.text ++ " (volume " ++
      String.ofList (floatText e.volume) ++ ", pitch " ++ String.ofList (floatText e.pitch) ++
      ", range " ++ String.ofList (floatText e.range) ++ ")"

def text : TrialLine → String
  | .chosen id => "  Outcome " ++ id.text
  | .scheduled ticket delay =>
    label 0 ++ "scheduled as #" ++ String.ofList (natText ticket) ++ " to fire in " ++
      String.ofList (natText delay) ++ " ticks"
  | .happened tick event => label tick ++ eventText event
  | .blank => ""
  | .performed count => "  " ++ String.ofList (natText count) ++ " side effects performed"
  | .pending count => "  " ++ String.ofList (natText count) ++ " still pending"

end TrialLine

namespace Trial

def choose (t : Trial) (e : Engine) : Except Failure Definition × Engine :=
  match t.id with
  | some text =>
    let found := do
      let id ← (Identifier.parse text).mapError .identifier
      (e.registry.lookup id).mapError .outcome
    (found, e)
  | none =>
    let (drawn, e) := e.select t.luck
    (drawn.mapError .outcome, e)

def prepare (t : Trial) (data : Option Tree) (uuid : Uuid) :
    Except Failure (Engine × Definition × Context) := do
  let (engine, _) ← t.pack.load t.seed data
  let (chosen, engine) := t.choose engine
  let d ← chosen
  let c ← contextAt t.pos (some { name := t.player }) uuid t.seed
  return (engine, d, c)

/-- Counts ticks from a first one and notes what happens on each, behind what happened before. Ends
early when nothing waits any more. -/
def countTicks : Nat → Nat → Engine → List (Nat × Event) → List (Nat × Event) × Engine
  | 0, _, e, happened => (happened, e)
  | count + 1, tick, e, happened =>
    if e.scheduler.pending.isEmpty then (happened, e)
    else
      let (_, e, h) := e.advance {}
      countTicks count (tick + 1) e (happened ++ h.events.map fun event => (tick, event))

def linesAfter (ticks : Nat) (triggered : Triggered) (e : Engine) (atOnce : List Event) :
    List TrialLine :=
  let scheduled :=
    match triggered with
    | .executed _ => []
    | .scheduled ticket =>
      [.scheduled ticket ((e.scheduler.remaining? ticket).getD 0)]
  let (later, e) := countTicks ticks 1 e []
  let waiting := e.scheduler.pending.length
  atOnce.map (.happened 0) ++ scheduled ++
    later.map (fun (tick, event) => .happened tick event) ++
    [.blank, .performed (atOnce.length + later.length)] ++
    if waiting = 0 then [] else [.pending waiting]

def run (t : Trial) (data : Option Tree) (uuid : Uuid) : List TrialLine × Option Failure :=
  match t.prepare data uuid with
  | .error why => ([], some why)
  | .ok (engine, d, c) =>
    match engine.trigger d c {} with
    | (.error e, _, _) => ([.chosen d.id], some (.outcome e))
    | (.ok triggered, engine, h) =>
      (.chosen d.id :: linesAfter t.ticks triggered engine h.events, none)

end Trial
end Fortune.Command
