import Fortune.Proofs.Random.Forward
import Fortune.Proofs.Template.Recognised
import Fortune.Proofs.Template.Resolver

/-!
What resolution touches. A template moves the random source of its context forward and changes
nothing else; and one that does not spell `random` itself leaves the source alone and does not
depend on it, since what values put in is never scanned for names or calls again.
-/
namespace Fortune.Template
open Text

/-- A property that a sequence of resolvers has if its parts have it. -/
structure Inherited (P : {α : Type} → Resolver α → Prop) : Prop where
  pure {α : Type} (a : α) : P (Pure.pure a : Resolver α)
  bind {α β : Type} {x : Resolver α} {f : α → Resolver β} (first : P x) (later : ∀ a, P (f a)) :
    P (x >>= f)

namespace Inherited

variable {P : {α : Type} → Resolver α → Prop} {α β : Type}

theorem replaceFound (inherited : Inherited P) {replacement : α → List Char → Resolver (List Char)}
    {parts : List (Piece α)}
    (each : ∀ value lexeme, .found value lexeme ∈ parts → P (replacement value lexeme)) :
    P (replaceFound replacement parts) := by
  induction parts with
  | nil => exact inherited.pure []
  | cons part parts ih =>
      have rest := ih fun value lexeme inside => each value lexeme (List.mem_cons_of_mem _ inside)
      cases part with
      | plain c => exact inherited.bind rest fun _ => inherited.pure _
      | found value lexeme =>
          refine inherited.bind (each value lexeme List.mem_cons_self) fun _ => ?_
          exact inherited.bind rest fun _ => inherited.pure _

theorem mapM (inherited : Inherited P) {f : α → Resolver β} {inputs : List α}
    (each : ∀ input, P (f input)) : P (inputs.mapM f) := by
  induction inputs with
  | nil =>
      rw [List.mapM_nil]
      exact inherited.pure []
  | cons input inputs ih =>
      rw [List.mapM_cons]
      exact inherited.bind (each input) fun _ => inherited.bind ih fun _ => inherited.pure _

end Inherited

/-! Every resolver moves the source forward. -/

/-- The source moves forward, whether there is a result or not. -/
def Forward {α : Type} (x : Resolver α) : Prop := Draw.Forward x.run

section Forward

variable {α : Type}

theorem forward_draw {act : Draw α} (h : act.Forward) : Forward (act : Resolver α) :=
  h.bind fun _ => .pure _

theorem forward_except (r : Except Error α) : Forward (r : Resolver α) := Draw.Forward.pure r

theorem forward_throw (e : Error) : Forward (throw e : Resolver α) :=
  Draw.Forward.pure (Except.error e)

theorem inherited_forward : Inherited Forward where
  pure a := Draw.Forward.pure (Except.ok a)
  bind {α β x f} first later := by
    change Draw.Forward (x.run >>= ExceptT.bindCont f)
    refine first.bind fun r => ?_
    cases r with
    | ok a => exact later a
    | error e => exact forward_throw e

end Forward

theorem mem_of_lookup {name : String} {p : Parameter} {table : List (String × Parameter)}
    (h : table.lookup name = some p) : (name, p) ∈ table := by
  induction table with
  | nil => cases h
  | cons entry table ih =>
      obtain ⟨key, value⟩ := entry
      rw [List.lookup_cons] at h
      split at h
      · rename_i same
        cases h
        rw [beq_iff_eq.mp same]
        exact List.mem_cons_self
      · exact List.mem_cons_of_mem _ (ih h)

/-- One parameter alone is drawn. -/
theorem eq_of_drawn {name : String} {act : Draw Int}
    (h : Parameter.named? name = some (.drawn act)) :
    name = "randomRGBColor" ∧ act = Draw.integer 0 greatestColor := by
  have listed := mem_of_lookup h
  simpa [Parameter.texts, Parameter.reals, Parameter.integers] using listed

theorem forward_lookup (name : String) (s : Scene) : (Parameter.lookup? name s).Forward := by
  unfold Parameter.lookup?
  cases named : Parameter.named? name with
  | none => exact .pure _
  | some p =>
      refine .bind ?_ fun _ => .pure _
      cases p with
      | text f => exact .pure _
      | real f => exact .pure _
      | integer f => exact .pure _
      | drawn act =>
          rw [(eq_of_drawn named).2]
          exact (Draw.forward_integer _ _).bind fun _ => .pure _

theorem forward_fill (scene : Scene) (text : List Char) : Forward (fill scene text) := by
  refine inherited_forward.replaceFound fun name lexeme _ => ?_
  refine inherited_forward.bind (forward_draw (forward_lookup _ _)) fun value => ?_
  cases value with
  | some value => exact inherited_forward.pure value
  | none => exact forward_throw _

theorem forward_substitute (scene : Scene) (text : List Char) :
    Forward (substitute scene text) :=
  inherited_forward.bind (forward_fill scene text) fun _ =>
    inherited_forward.bind (forward_except _) fun _ => inherited_forward.pure _

theorem forward_drawVelocity (power maxPitch : Float) : (drawVelocity power maxPitch).Forward := by
  refine (Draw.forward_real _ _).bind fun yaw => ?_
  dsimp only
  split
  · exact (Draw.forward_real _ _).bind fun _ => .pure _
  · exact (Draw.Forward.pure _).bind fun _ => .pure _

theorem forward_apply (f : Function) (arguments : List (List Char)) :
    Forward (f.apply arguments) := by
  cases f with
  | random =>
      change Forward (drawArgument arguments)
      unfold drawArgument
      split
      · exact forward_throw _
      · exact inherited_forward.bind (forward_draw (Draw.forward_index _)) fun _ =>
          inherited_forward.pure _
  | randomBetween =>
      change Forward (drawBetween arguments)
      unfold drawBetween
      split
      · refine inherited_forward.bind (forward_except _) fun a => ?_
        refine inherited_forward.bind (forward_except _) fun b => ?_
        exact inherited_forward.bind (forward_draw (Draw.forward_integer _ _)) fun _ =>
          inherited_forward.pure _
      · exact forward_throw _
  | randomVelocity =>
      change Forward (drawVelocityText arguments)
      unfold drawVelocityText
      split
      · exact inherited_forward.bind (forward_draw (forward_drawVelocity _ _)) fun _ =>
          inherited_forward.pure _
      · refine inherited_forward.bind (forward_except _) fun power => ?_
        refine inherited_forward.bind (forward_except _) fun maxPitch => ?_
        split
        · exact inherited_forward.bind (forward_draw (forward_drawVelocity _ _)) fun _ =>
            inherited_forward.pure _
        · exact forward_throw _
      · exact inherited_forward.pure _

theorem forward_result (scene : Scene) (call : Call) : Forward (call.result scene) := by
  refine inherited_forward.bind ?_ fun arguments => forward_apply _ arguments
  unfold Call.arguments
  split
  · exact inherited_forward.pure _
  · exact inherited_forward.mapM fun argument => forward_substitute scene _

theorem forward_expand (scene : Scene) (passes : Nat) (text : List Char) :
    Forward (expand scene passes text) := by
  induction passes generalizing text with
  | zero => exact forward_throw _
  | succ passes ih =>
      rw [expand]
      split
      · refine inherited_forward.bind ?_ fun expanded => ih expanded
        exact inherited_forward.replaceFound fun call _ _ => forward_result scene call
      · exact inherited_forward.pure text

theorem forward_resolveText (scene : Scene) (text : List Char) :
    Forward (resolveText scene text) := by
  rw [resolveText]
  exact inherited_forward.bind (forward_expand scene _ text) (forward_substitute scene)

/-! A template that does not spell `random` draws nothing. -/

/-- There is one result, whatever the source, and the source stays where it is. -/
def Settled {α : Type} (x : Resolver α) : Prop := ∃ r, ∀ source, x.run source = (r, source)

section Settled

variable {α : Type}

theorem settled_except (r : Except Error α) : Settled (r : Resolver α) := ⟨r, fun _ => rfl⟩

theorem settled_throw (e : Error) : Settled (throw e : Resolver α) := ⟨.error e, fun _ => rfl⟩

theorem inherited_settled : Inherited Settled where
  pure a := ⟨.ok a, fun _ => rfl⟩
  bind {α β x f} := by
    rintro ⟨r, settled⟩ later
    have run (source : Source) : (x >>= f).run source = ExceptT.bindCont f r source := by
      change ExceptT.bindCont f (x.run source).1 (x.run source).2 = _
      rw [settled]
    cases r with
    | ok a =>
        obtain ⟨r', settled'⟩ := later a
        exact ⟨r', fun source => (run source).trans (settled' source)⟩
    | error e => exact ⟨.error e, run⟩

/-- A value that is not drawn is settled by the scene. -/
theorem settled_lookup {name : String} (plain : name ≠ "randomRGBColor") (scene : Scene) :
    Settled (Parameter.lookup? name scene : Resolver (Option (List Char))) := by
  unfold Parameter.lookup?
  cases named : Parameter.named? name with
  | none => exact ⟨_, fun _ => rfl⟩
  | some p =>
      cases p with
      | text f => exact ⟨_, fun _ => rfl⟩
      | real f => exact ⟨_, fun _ => rfl⟩
      | integer f => exact ⟨_, fun _ => rfl⟩
      | drawn act => exact absurd (eq_of_drawn named).1 plain

theorem settled_fill {text : List Char} (h : ¬"random".toList <:+: text) (scene : Scene) :
    Settled (fill scene text) := by
  refine inherited_settled.replaceFound fun name lexeme inside => ?_
  refine inherited_settled.bind (settled_lookup ?_ scene) fun value => ?_
  · intro drawn
    obtain ⟨before, rest, seen⟩ := recognised_of_mem inside
    obtain ⟨_, rfl, _⟩ := (placeholder?_spells _ _ _ _).mp seen
    have spelled : name = "randomRGBColor".toList := by rw [← drawn, String.toList_ofList]
    have within : "random".toList <:+: spelledPlaceholder name := by
      rw [spelled]
      decide
    exact h (within.trans (lexeme_infix_of_mem placeholder?_honest inside))
  · cases value with
    | some value => exact inherited_settled.pure value
    | none => exact settled_throw _

theorem settled_resolveText {text : List Char} (h : ¬"random".toList <:+: text) (scene : Scene) :
    Settled (resolveText scene text) := by
  rw [resolveText_of_callFree (callFree_of_not_random h)]
  exact inherited_settled.bind (settled_fill h scene) fun _ =>
    inherited_settled.bind (settled_except _) fun _ => inherited_settled.pure _

end Settled

theorem forward_context {α : Type} {x : Resolver α} (h : Forward x) (c : Context) :
    ∃ count, (c.draw x).2 = { c with random := c.random.advance count } := by
  obtain ⟨count, moved⟩ := h c.random
  exact ⟨count, congrArg (Context.mk c.toScene) moved⟩

theorem settled_context {α : Type} {x : Resolver α} (h : Settled x) (scene : Scene) :
    ∃ r, ∀ source, (⟨scene, source⟩ : Context).draw x = (r, ⟨scene, source⟩) := by
  obtain ⟨r, settled⟩ := h
  refine ⟨r, fun source => ?_⟩
  exact congrArg (fun drawn => (drawn.1, (⟨scene, drawn.2⟩ : Context))) (settled source)

/-- Whatever comes of a template, the block and the actor are as before, and the source has moved
forward along its own words. A template in which `random` is nowhere spelled takes no word and comes
to the same, be it a text or an error, from any source, whatever the actor is called. -/
theorem resolve_confined :
    (∀ template c, ∃ count,
      (resolve template c).2 = { c with random := c.random.advance count }) ∧
    ∀ template : String, ¬"random".toList <:+: template.toList →
      ∀ (scene : Scene) (source other : Source),
        (resolve template ⟨scene, source⟩).1 = (resolve template ⟨scene, other⟩).1 ∧
        (resolve template ⟨scene, source⟩).2 = ⟨scene, source⟩ := by
  constructor
  · intro template c
    rw [resolve]
    refine forward_context (inherited_forward.bind (forward_resolveText _ _) fun text => ?_) c
    exact inherited_forward.pure (String.ofList text)
  · intro template h scene source other
    obtain ⟨r, drawn⟩ := settled_context (inherited_settled.bind (settled_resolveText h scene)
      fun text => inherited_settled.pure (String.ofList text)) scene
    rw [resolve, resolve, drawn, drawn]
    exact ⟨rfl, rfl⟩

end Fortune.Template
