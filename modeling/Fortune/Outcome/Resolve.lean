import Fortune.Outcome.Definition
import Fortune.Outcome.Effect
import Fortune.Outcome.Sound
import Fortune.Template.Resolve

/-!
Outcomes. Every string of a definition's document is resolved as a template of its own, items in
their order and members in the order of their keys, so that what a template yields never changes the
shape of the document. Then the concrete values are read.
-/
namespace Fortune
open Document (member? asInt32? asFloat? asNat32?)

inductive Action where
  | effect (effect : StatusEffect)
  | sound (sound : Sound)
deriving Repr, BEq

def Action.kind : Action → Kind
  | .effect _ => .effect
  | .sound _ => .sound

/-- An outcome ready to happen. A delay of zero ticks means at once; without a position it happens
in the middle of the context's block. -/
structure Outcome where
  id : Identifier
  luck : Int
  chance : Float
  delay : Nat
  pos : Option Point
  action : Action
deriving Repr, BEq

namespace Document

/-- A resolved text as a leaf: a number if it is a plain numeral, else a string. -/
def leaf (text : List Char) : Document :=
  match literal? text with
  | some n => .number n
  | none => .string (String.ofList text)

mutual

/-- Resolves each string of a document. Keys are left as they are. -/
def resolve (scene : Scene) : Document → Template.Resolver Document
  | .string s => return leaf (← Template.resolveText scene s.toList)
  | .array items => return .array (← resolveItems scene items)
  | .object members => return .object (← resolveMembers scene members)
  | .null => return .null
  | .bool b => return .bool b
  | .number n => return .number n

def resolveItems (scene : Scene) : List Document → Template.Resolver (List Document)
  | [] => return []
  | item :: rest => do
    let item ← item.resolve scene
    return item :: (← resolveItems scene rest)

def resolveMembers (scene : Scene) :
    List (String × Document) → Template.Resolver (List (String × Document))
  | [] => return []
  | (key, item) :: rest => do
    let item ← item.resolve scene
    return (key, item) :: (← resolveMembers scene rest)

end

end Document

namespace Outcome

def kind (o : Outcome) : Kind := o.action.kind

def delayOf (members : List (String × Document)) : Except Malformation Nat :=
  match member? "delay" members with
  | none => .ok 0
  | some .null => .ok 0
  | some d =>
    match asNat32? d with
    | some n => .ok n
    | none => .error .delayNotNatural

def posOf (members : List (String × Document)) : Except Malformation (Option Point) :=
  match member? "pos" members with
  | none => .ok none
  | some .null => .ok none
  | some (.string s) => (Point.parse s).mapError .posNotVector |>.map some
  | some (.array items) =>
    match items.mapM asFloat? with
    | some [x, y, z] => .ok (some ⟨x, y, z⟩)
    | _ => .error .posNotNumbers
  | some _ => .error .posInvalid

def actionOf (kind : Kind) (members : List (String × Document)) : Except Malformation Action :=
  match kind with
  | .effect => return .effect (← StatusEffect.ofOutcome members)
  | .sound => return .sound (← Sound.ofOutcome members)

def ofDocument (id : Identifier) (kind : Kind) (document : Document) :
    Except Malformation Outcome := do
  let members ← Definition.membersOf document
  let delay ← delayOf members
  let pos ← posOf members
  let action ← actionOf kind members
  return {
    id, delay, pos, action
    luck := ((member? "luck" members).bind asInt32?).getD Definition.defaultLuck
    chance := ((member? "chance" members).bind asFloat?).getD Definition.defaultChance }

/-- Resolves a definition in a context. The words drawn up to a failure stay drawn. -/
def resolve (d : Definition) (c : Context) : Except Error Outcome × Context :=
  let (resolved, after) := c.draw (d.document.resolve c.toScene)
  let outcome :=
    match resolved with
    | .error e => .error (.template e)
    | .ok document => (ofDocument d.id d.kind document).mapError (.malformed d.id)
  (outcome, after)

def position (o : Outcome) (s : Scene) : Point := o.pos.getD s.center

end Outcome
end Fortune
