import Fortune.Command.Basic
import Fortune.Proofs.Decimal.Layout
import Fortune.Proofs.Engine.Operation
import Fortune.Proofs.Outcome.Definition
import Fortune.Proofs.Template.Resolver

/-!
Trials on the command line. An engine that is just loaded has nothing waiting, so the ticks count
down the one outcome of the trial: it happens on the tick that its delay names if there are so many
ticks, and is still pending otherwise.
-/
namespace Fortune

/-- With an actor to reach, an outcome is one event. -/
theorem Invocation.exists_event (o : Outcome) {c : Context} (actor : c.actor.isSome) :
    ∃ event, events ⟨o, c⟩ = [event] := by
  have received : unreceived ⟨o, c⟩ = false := by
    rw [unreceived, Option.isNone_eq_false_iff.mpr actor, Bool.and_false]
  have one := length_events ⟨o, c⟩
  rw [received] at one
  exact List.length_eq_one_iff.mp one

theorem Outcome.resolve_toScene {d : Definition} {c after : Context} {r : Except Error Outcome}
    (h : Outcome.resolve d c = (r, after)) : after.toScene = c.toScene := by
  cases h
  rfl

namespace Command.Trial
open Decimal

/-- The outcome with the identifier of the trial, or what a fresh engine draws if it has none. -/
def Finds (t : Trial) (e : Engine) (d : Definition) : Prop :=
  match t.id with
  | some text => ∃ id, Identifier.parse text = .ok id ∧ e.registry.lookup id = .ok d
  | none => (e.select t.luck).1 = .ok d

/-- The trial gets as far as its outcome: there is a pack, the outcome is in it, and the position
can be read. The player stands in the middle of the block. -/
def Starts (t : Trial) (data : Option Tree) (uuid : Uuid) (d : Definition) (c : Context) : Prop :=
  ∃ documents point, Pack.documents t.pack.path data = .ok documents ∧
    t.Finds ((Engine.ofSettings ⟨t.seed, t.pack.reserved⟩).load documents).1 d ∧
    Point.parse t.pos = .ok point ∧
    c = Context.ofSeed { block := Block.containing point, actor := some {
      name := t.player, uuid, pos := (Block.containing point).center } } t.seed

/-- An event in words. The level of an effect is one above its amplifier, in 32 bits. -/
inductive Describes : Event → String → Prop where
  | effect (target : Actor) (e : StatusEffect) (level : Int) (least : -2147483648 ≤ level)
      (greatest : level ≤ 2147483647) (above : 4294967296 ∣ level - (e.amplifier + 1)) :
      Describes (.effect target e) ("EFFECT " ++ (e.id.scope ++ ":" ++ e.id.path) ++ " (level " ++
        toString level ++ ", " ++ toString e.duration ++ " ticks) on " ++ target.name)
  | sound (e : Emission) :
      Describes (.sound e) ("SOUND " ++ (e.sound.scope ++ ":" ++ e.sound.path) ++ " at " ++
        e.pos.text ++ " (volume " ++ String.ofList (floatText e.volume) ++ ", pitch " ++
        String.ofList (floatText e.pitch) ++ ", range " ++ String.ofList (floatText e.range) ++ ")")

theorem describes_eventText (event : Event) : Describes event (TrialLine.eventText event) := by
  cases event with
  | effect target e =>
      have nonzero : 0 < words32 := by decide
      have least : -2147483648 ≤ wrap32 (e.amplifier + 1) := Int.le_bmod nonzero
      have less : wrap32 (e.amplifier + 1) < 2147483648 := Int.bmod_lt nonzero
      have described := Describes.effect target e _ least (Int.le_of_lt_add_one less)
        Int.dvd_bmod_sub_self
      rw [← ofList_intText, ← ofList_intText] at described
      exact described
  | sound e => exact .sound e

theorem choose_eq_ok_iff {t : Trial} {e : Engine} {d : Definition} :
    (t.choose e).1 = .ok d ↔ t.Finds e d := by
  unfold choose Finds
  cases t.id with
  | none => exact mapError_eq_ok_iff
  | some text => simp only [bind_eq_ok_iff, mapError_eq_ok_iff]

theorem choose_scheduler (t : Trial) (e : Engine) : (t.choose e).2.scheduler = e.scheduler := by
  unfold choose
  split
  · rfl
  · rfl

theorem contextAt_eq_ok_iff {pos name : String} {uuid : Uuid} {seed : UInt64} {c : Context} :
    contextAt pos (some { name }) uuid seed = .ok c ↔
      ∃ point, Point.parse pos = .ok point ∧
        c = Context.ofSeed { block := Block.containing point, actor := some {
          name, uuid, pos := (Block.containing point).center } } seed := by
  rw [contextAt, bind_eq_ok_iff]
  refine exists_congr fun point => and_congr mapError_eq_ok_iff ?_
  constructor
  · intro made
    cases made
    rfl
  · rintro rfl
    rfl

theorem Starts.actor {t : Trial} {data : Option Tree} {uuid : Uuid} {d : Definition} {c : Context}
    (starts : t.Starts data uuid d c) : c.actor.isSome := by
  obtain ⟨_, _, _, _, _, rfl⟩ := starts
  rfl

/-- Nothing waits in the engine of a trial. -/
theorem prepare_sound {t : Trial} {data : Option Tree} {uuid : Uuid} {e : Engine} {d : Definition}
    {c : Context} (h : t.prepare data uuid = .ok (e, d, c)) :
    e.scheduler = {} ∧ t.Starts data uuid d c := by
  obtain ⟨⟨loaded, report⟩, load, h⟩ := bind_eq_ok_iff.mp h
  obtain ⟨documents, read, made⟩ := bind_eq_ok_iff.mp load
  obtain ⟨chosen, found, h⟩ := bind_eq_ok_iff.mp h
  obtain ⟨context, placed, h⟩ := bind_eq_ok_iff.mp h
  obtain ⟨point, parsed, standing⟩ := contextAt_eq_ok_iff.mp placed
  cases h
  cases made
  refine ⟨t.choose_scheduler _, documents, point, mapError_eq_ok_iff.mp read, ?_, parsed, standing⟩
  exact choose_eq_ok_iff.mp found

theorem prepare_complete {t : Trial} {data : Option Tree} {uuid : Uuid} {d : Definition}
    {c : Context} (starts : t.Starts data uuid d c) :
    ∃ e, t.prepare data uuid = .ok (e, d, c) := by
  obtain ⟨documents, point, read, found, parsed, placed⟩ := starts
  let loaded := (Engine.ofSettings ⟨t.seed, t.pack.reserved⟩).load documents
  refine ⟨(t.choose loaded.1).2, bind_eq_ok_iff.mpr ⟨loaded, ?_, ?_⟩⟩
  · exact bind_eq_ok_iff.mpr ⟨documents, mapError_eq_ok_iff.mpr read, rfl⟩
  · refine bind_eq_ok_iff.mpr ⟨d, choose_eq_ok_iff.mpr found, ?_⟩
    exact bind_eq_ok_iff.mpr ⟨c, contextAt_eq_ok_iff.mpr ⟨point, parsed, placed⟩, rfl⟩

theorem countTicks_idle {e : Engine} (idle : e.scheduler.pending = []) (count tick : Nat)
    (happened : List (Nat × Event)) : countTicks count tick e happened = (happened, e) := by
  cases count with
  | zero => rfl
  | succ count => simp [countTicks, idle]

/-- A single request happens on the tick that brings it to zero, or goes on waiting. -/
theorem countTicks_waiting {e : Engine} {ticket left : Nat} {work : Invocation}
    (waits : e.scheduler.pending = [⟨ticket, left + 1, work⟩]) (count tick : Nat)
    (happened : List (Nat × Event)) :
    (countTicks count tick e happened).1 =
        (if left < count then happened ++ work.events.map fun event => (tick + left, event)
          else happened) ∧
      (countTicks count tick e happened).2.scheduler.pending.length =
        if left < count then 0 else 1 := by
  induction count generalizing e tick left happened with
  | zero => simp [countTicks, waits]
  | succ count ih =>
      have round : countTicks (count + 1) tick e happened =
          countTicks count (tick + 1) (e.advance {}).2.1
            (happened ++ (e.advance {}).2.2.events.map fun event => (tick, event)) := by
        simp [countTicks, waits]
      rw [round]
      cases left with
      | zero =>
          have fires : (e.advance {}).2.2.events = work.events := by
            simp [Engine.advance, Scheduler.advance, Scheduler.tick, waits, Pending.countDown,
              Scheduler.fire_eq_receive, Host.receive]
          have idle : (e.advance {}).2.1.scheduler.pending = [] := by
            simp [Engine.advance, Scheduler.advance, Scheduler.tick, waits, Pending.countDown]
          rw [countTicks_idle idle, fires, idle]
          simp
      | succ left =>
          have still : (e.advance {}).2.2.events = [] := by
            simp [Engine.advance, Scheduler.advance, Scheduler.tick, waits, Pending.countDown]
          have later : (e.advance {}).2.1.scheduler.pending = [⟨ticket, left + 1, work⟩] := by
            simp [Engine.advance, Scheduler.advance, Scheduler.tick, waits, Pending.countDown]
          have rest := ih later (tick + 1) (happened ++ [])
          rw [still]
          rw [List.append_nil] at rest
          simpa [Nat.add_right_comm, Nat.add_assoc] using rest

/-- At once: one line in front of all ticks. -/
theorem linesAfter_now {engine : Engine} (empty : engine.scheduler = {}) (ticks : Nat) (o : Outcome)
    (event : Event) :
    linesAfter ticks (.executed o) engine [event] =
      [.happened 0 event, .blank, .performed 1] := by
  have idle : engine.scheduler.pending = [] := by rw [empty]
  simp [linesAfter, countTicks_idle idle, idle]

/-- Put off by a delay. -/
theorem linesAfter_later {engine : Engine} (empty : engine.scheduler = {}) (ticks : Nat)
    (o : Outcome) {c : Context} {event : Event} (events : Invocation.events ⟨o, c⟩ = [event])
    (delayed : o.delay ≠ 0) :
    linesAfter ticks (.scheduled (engine.schedule o c o.delay).1)
        (engine.schedule o c o.delay).2 [] =
      .scheduled 0 o.delay ::
        if o.delay ≤ ticks then [.happened o.delay event, .blank, .performed 1]
        else [.blank, .performed 0, .pending 1] := by
  obtain ⟨left, delay⟩ := Nat.exists_eq_succ_of_ne_zero delayed
  have waits : (engine.schedule o c o.delay).2.scheduler.pending = [⟨0, left + 1, ⟨o, c⟩⟩] := by
    simp [Engine.schedule, Scheduler.schedule, empty, delay]
  have ticket : (engine.schedule o c o.delay).1 = 0 := by
    simp [Engine.schedule, Scheduler.schedule, empty]
  have remaining : (engine.schedule o c o.delay).2.scheduler.remaining? 0 = some o.delay := by
    rw [Scheduler.remaining?, Scheduler.find?, waits, delay]
    rfl
  obtain ⟨happens, rest⟩ := countTicks_waiting waits ticks 1 []
  simp only [linesAfter, ticket, remaining, happens, rest, events]
  by_cases fired : left < ticks
  · have reached : o.delay ≤ ticks := by omega
    have tick : 1 + left = o.delay := by omega
    simp [fired, reached, tick]
  · have short : ¬o.delay ≤ ticks := by omega
    simp [fired, short]

/-- The lines behind the first one, for an outcome that is one event. -/
def linesOf (ticks delay : Nat) (event : Event) : List TrialLine :=
  (if delay = 0 then [] else [.scheduled 0 delay]) ++
    if delay ≤ ticks then [.happened delay event, .blank, .performed 1]
    else [.blank, .performed 0, .pending 1]

theorem perform_ok {t : Trial} {data : Option Tree} {uuid : Uuid} {engine : Engine}
    {d : Definition} {c after : Context} {o : Outcome}
    (prepared : t.prepare data uuid = .ok (engine, d, c))
    (resolved : Outcome.resolve d c = (.ok o, after)) {event : Event}
    (events : Invocation.events ⟨o, after⟩ = [event]) :
    Command.perform data uuid (.run t) =
      .success ((.chosen d.id :: linesOf t.ticks o.delay event).map TrialLine.text) := by
  have empty := (prepare_sound prepared).1
  by_cases now : o.delay = 0
  · have lines := linesAfter_now empty t.ticks o event
    simp only [Command.perform, run, prepared, Engine.trigger_now resolved now, events]
    change Report.success (List.map _ (_ :: linesAfter t.ticks _ engine [event])) = _
    rw [lines, linesOf, now, if_pos rfl, if_pos (Nat.zero_le _)]
    rfl
  · have lines := linesAfter_later empty t.ticks o events now
    simp only [Command.perform, run, prepared, Engine.trigger_later resolved now, lines]
    rw [linesOf, if_neg now]
    rfl

theorem text_scheduled (delay : Nat) :
    (TrialLine.scheduled 0 delay).text =
      "  [tick   0] scheduled as #0 to fire in " ++ toString delay ++ " ticks" := by
  have first : TrialLine.label 0 ++ "scheduled as #" ++ String.ofList (natText 0) ++
      " to fire in " = "  [tick   0] scheduled as #0 to fire in " := by decide
  rw [TrialLine.text, first, ofList_natText]

theorem printed_scheduled (delay : Nat) :
    printed [(TrialLine.scheduled 0 delay).text] =
      "  [tick   0] scheduled as #0 to fire in " ++ toString delay ++ " ticks\n" := by
  rw [printed_cons, printed_nil, String.append_empty, text_scheduled, String.append_assoc]
  rfl

theorem printed_happened (tick : Nat) (event : Event) :
    printed ([TrialLine.happened tick event, .blank, .performed 1].map TrialLine.text) =
      "  [tick " ++ String.ofList ((Nat.toDigits 10 tick).leftpad 3 ' ') ++ "] " ++
        TrialLine.eventText event ++ "\n\n  1 side effects performed\n" := by
  have rest : "\n" ++ printed ([TrialLine.blank, .performed 1].map TrialLine.text) =
      "\n\n  1 side effects performed\n" := by decide
  rw [List.map_cons, printed_cons, String.append_assoc, rest]
  rfl

theorem printed_missed :
    printed ([TrialLine.blank, .performed 0, .pending 1].map TrialLine.text) =
      "\n  0 side effects performed\n  1 still pending\n" := by decide

theorem printed_linesOf (ticks delay : Nat) (event : Event) :
    printed ((linesOf ticks delay event).map TrialLine.text) =
      (if delay = 0 then ""
        else "  [tick   0] scheduled as #0 to fire in " ++ toString delay ++ " ticks\n") ++
      if delay ≤ ticks then
        "  [tick " ++ String.ofList ((Nat.toDigits 10 delay).leftpad 3 ' ') ++ "] " ++
          TrialLine.eventText event ++ "\n\n  1 side effects performed\n"
      else "\n  0 side effects performed\n  1 still pending\n" := by
  rw [linesOf, List.map_append, printed_append]
  refine congrArg₂ _ ?_ ?_
  · split
    · rfl
    · exact printed_scheduled delay
  · split
    · exact printed_happened delay event
    · exact printed_missed

/-- A trial that finds and resolves its outcome has one event to print, labelled with the tick that
the delay names, if the trial lasts so long. Otherwise it prints none, and one is still pending. A
delay is announced. -/
theorem perform_exact (t : Trial) (data : Option Tree) (uuid : Uuid) :
    let report := Command.perform data uuid (.run t)
    (∀ d c, t.Starts data uuid d c →
      let first := "  Outcome " ++ (d.id.scope ++ ":" ++ d.id.path) ++ "\n"
      match Outcome.resolve d c with
      | (.error e, _) => report = ⟨1, first, "error: " ++ e.message ++ "\n"⟩
      | (.ok o, after) =>
        ∃ event words, Invocation.events ⟨o, after⟩ = [event] ∧ Describes event words ∧
          report = { code := 0, errors := "", output := first ++
            (if o.delay = 0 then ""
              else "  [tick   0] scheduled as #0 to fire in " ++ toString o.delay ++ " ticks\n") ++
            if o.delay ≤ t.ticks then
              "  [tick " ++ String.ofList ((Nat.toDigits 10 o.delay).leftpad 3 ' ') ++ "] " ++
                words ++ "\n\n  1 side effects performed\n"
            else "\n  0 side effects performed\n  1 still pending\n" }) ∧
    ((∀ d c, ¬t.Starts data uuid d c) → report.code = 1 ∧ report.output = "") := by
  intro report
  constructor
  · intro d c starts first
    obtain ⟨engine, prepared⟩ := prepare_complete starts
    cases resolved : Outcome.resolve d c with
    | mk result after =>
        cases result with
        | error e =>
            simp only [report, Command.perform, run, prepared, Engine.trigger_error resolved]
            rfl
        | ok o =>
            have actor := starts.actor
            rw [← Outcome.resolve_toScene resolved] at actor
            obtain ⟨event, events⟩ := Invocation.exists_event o actor
            refine ⟨event, _, events, describes_eventText event, ?_⟩
            have text := printed_linesOf t.ticks o.delay event
            refine (perform_ok prepared resolved events).trans (congrArg (Report.mk 0 · "") ?_)
            rw [List.map_cons, printed_cons, text, ← String.append_assoc]
            rfl
  · intro none
    cases prepared : t.prepare data uuid with
    | error why =>
        simp only [report, Command.perform, run, prepared]
        exact ⟨rfl, rfl⟩
    | ok start =>
        obtain ⟨engine, d, c⟩ := start
        exact absurd (prepare_sound prepared).2 (none d c)

/-- An effect of the greatest amplifier, put off by three ticks. -/
def haste : Tree :=
  .directory [("luckbox", .directory [("outcomes", .directory [("haste.json", .file (some (
    "\x7b\"type\":\"effect\",\"delay\":3,\"status_effect\":" ++
    "\x7b\"id\":\"haste\",\"duration\":200,\"amplifier\":2147483647\x7d\x7d")))])])]

/-- The level comes out as the least integer of 32 bits. -/
theorem perform_of_haste :
    let t : Trial := { id := some "luckbox:haste", ticks := 5 }
    Command.perform (some haste) ⟨0⟩ (.run t) = { code := 0, errors := "", output :=
      "  Outcome luckbox:haste\n  [tick   0] scheduled as #0 to fire in 3 ticks\n" ++
      "  [tick   3] EFFECT minecraft:haste (level -2147483648, 200 ticks) on Steve\n" ++
      "\n  1 side effects performed\n" } ∧
      ∃ d c o after event words, t.Starts (some haste) ⟨0⟩ d c ∧
        Outcome.resolve d c = (.ok o, after) ∧ Invocation.events ⟨o, after⟩ = [event] ∧
        Describes event words := by
  intro t
  have code : (Command.perform (some haste) ⟨0⟩ (.run t)).code = 0 := by decide +kernel
  refine ⟨by decide +kernel, ?_⟩
  obtain ⟨starting, failing⟩ := perform_exact t (some haste) ⟨0⟩
  have able : ∃ d c, t.Starts (some haste) ⟨0⟩ d c := by
    apply Classical.byContradiction
    intro unable
    have failed := (failing fun d c starts => unable ⟨d, c, starts⟩).1
    rw [code] at failed
    cases failed
  obtain ⟨d, c, starts⟩ := able
  have ends := starting d c starts
  cases resolved : Outcome.resolve d c with
  | mk result after =>
      rw [resolved] at ends
      cases result with
      | error e =>
          rw [ends] at code
          cases code
      | ok o =>
          obtain ⟨event, words, events, described, _⟩ := ends
          exact ⟨d, c, o, after, event, words, starts, resolved, events, described⟩

end Command.Trial
end Fortune
