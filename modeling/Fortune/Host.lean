import Fortune.Outcome.Resolve

/-!
Hosts, on which outcomes happen. A host is what it was asked to do so far, and whether it is
ticking; while it is not, nothing is counted down.
-/
namespace Fortune

inductive Event where
  | effect (target : Actor) (effect : StatusEffect)
  | sound (emission : Emission)
deriving Repr

/-- The events of a host, earliest first. -/
structure Host where
  ticking : Bool := true
  events : List Event := []
deriving Repr

def Host.receive (h : Host) (events : List Event) : Host :=
  { h with events := h.events ++ events }

namespace Outcome

/-- The sound as it is played at a place, with a fresh seed. -/
def emit (sound : Sound) (pos : Point) : Draw Emission := do
  return {
    sound := sound.event.id
    pos
    volume := sound.volume
    pitch := sound.pitch
    range := sound.event.audibleRange sound.volume
    seed := ← Draw.signed64 }

/-- What happens: an effect reaches the actor if there is one, and a sound is played. -/
def perform (o : Outcome) (s : Scene) : Draw (List Event) :=
  match o.action with
  | .effect effect => return (s.actor.map fun a => Event.effect a effect).toList
  | .sound sound => return [.sound (← emit sound (o.position s))]

def execute (o : Outcome) (c : Context) (h : Host) : Context × Host :=
  let (events, after) := c.draw (o.perform c.toScene)
  (after, h.receive events)

end Outcome
end Fortune
