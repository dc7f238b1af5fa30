import Fortune.Proofs.Identifier
import Fortune.Proofs.Outcome.Resolution

/-!
What loading has checked is not found lacking later, and an outcome that comes of a definition has
finite numbers and a valid identifier, in whatever way its values were written.
-/
namespace Fortune
open Document (member? asFloat? asInt32? asBool? asNat32?)

/-! Finite numbers. -/

theorem Document.asFloat?_finite {d : Document} {x : Float} (h : asFloat? d = some x) :
    x.isFinite = true :=
  (Option.filter_eq_some_iff.mp h).2

theorem Decimal.finite?_finite {text : List Char} {x : Float} (h : finite? text = some x) :
    x.isFinite = true :=
  (Option.filter_eq_some_iff.mp h).2

theorem Point.parse_finite {text : String} {p : Point} (h : Point.parse text = .ok p) :
    p.All (·.isFinite = true) := by
  unfold parse at h
  split at h
  · split at h
    · rename_i x y z
      cases h
      exact ⟨Decimal.finite?_finite x, Decimal.finite?_finite y, Decimal.finite?_finite z⟩
    · cases h
  · cases h

/-! Reasons for failure. -/

namespace Malformation

/-- Something is lacking that loading has checked. -/
def Lacking : Malformation → Prop
  | .notObject => True
  | .missing _ => True
  | _ => False

/-- The texts of the other reasons begin otherwise. -/
theorem lacking_of_first {why : Malformation} :
    why.message.toList.head? = some 'e' ∨ why.message.toList.head? = some 'm' → why.Lacking := by
  cases why with
  | notObject => exact fun _ => trivial
  | missing field => exact fun _ => trivial
  | _ =>
      unfold message
      simp

theorem lacking_of_message {why : Malformation}
    (h : why.message ∈ ["expected a JSON object", "missing 'status_effect'",
      "missing 'sound_event'"]) : why.Lacking := by
  apply lacking_of_first
  simp only [List.mem_cons, List.not_mem_nil, or_false] at h
  rcases h with same | same | same
  · exact Or.inl (by simp [same])
  · exact Or.inr (by simp [same])
  · exact Or.inr (by simp [same])

end Malformation

/-- A reading that may fail, but not for lack of what loading has checked. -/
def Supplied {α : Type} (x : Except Malformation α) : Prop := ∀ why, x = .error why → ¬why.Lacking

namespace Supplied

theorem ok {α : Type} (a : α) : Supplied (.ok a : Except Malformation α) := by
  intro why failed
  cases failed

theorem error {α : Type} {why : Malformation} (other : ¬why.Lacking) :
    Supplied (.error why : Except Malformation α) := by
  intro why' failed
  cases failed
  exact other

theorem bind {α β : Type} {x : Except Malformation α} {f : α → Except Malformation β}
    (first : Supplied x) (next : ∀ a, x = .ok a → Supplied (f a)) : Supplied (x >>= f) := by
  cases x with
  | error why => exact error (first why rfl)
  | ok a => exact next a rfl

theorem mapError {ε α : Type} {x : Except ε α} {f : ε → Malformation}
    (other : ∀ e, ¬(f e).Lacking) : Supplied (x.mapError f) := by
  cases x with
  | error e => exact error (other e)
  | ok a => exact ok a

theorem map {α β : Type} {x : Except Malformation α} {f : α → β} (h : Supplied x) :
    Supplied (x.map f) := by
  cases x with
  | error why => exact error (h why rfl)
  | ok a => exact ok _

end Supplied

namespace StatusEffect

variable {members : List (String × Document)}

def idOf (members : List (String × Document)) : Except Malformation Identifier :=
  match member? "id" members with
  | some (.string s) => (Identifier.parse s).mapError .effectId
  | _ => .error .effectIdNotString

theorem ofMembers_eq (members : List (String × Document)) :
    ofMembers members = do
      let id ← idOf members
      let duration ← integerField members "duration" 1
      let amplifier ← integerField members "amplifier" 0
      let ambient ← flagField members "ambient" false
      let showParticles ← flagField members "show_particles" true
      let showIcon ← flagField members "show_icon" true
      return { id, duration, amplifier, ambient, showParticles, showIcon } := by
  unfold ofMembers idOf
  cases member? "id" members with
  | none => rfl
  | some d => cases d <;> rfl

theorem supplied_idOf : Supplied (idOf members) := by
  unfold idOf
  split
  · exact .mapError fun _ => not_false
  · exact .error not_false

theorem supplied_integerField (key : String) (default : Int) :
    Supplied (integerField members key default) := by
  unfold integerField
  split
  · exact .ok _
  · split
    · exact .ok _
    · exact .error not_false

theorem supplied_flagField (key : String) (default : Bool) :
    Supplied (flagField members key default) := by
  unfold flagField
  split
  · exact .ok _
  · split
    · exact .ok _
    · exact .error not_false

theorem supplied_ofMembers : Supplied (ofMembers members) := by
  rw [ofMembers_eq]
  refine .bind supplied_idOf fun id _ => ?_
  refine .bind (supplied_integerField _ _) fun duration _ => ?_
  refine .bind (supplied_integerField _ _) fun amplifier _ => ?_
  refine .bind (supplied_flagField _ _) fun ambient _ => ?_
  refine .bind (supplied_flagField _ _) fun showParticles _ => ?_
  refine .bind (supplied_flagField _ _) fun showIcon _ => ?_
  exact .ok _

theorem idOf_valid {id : Identifier} (h : idOf members = .ok id) : id.Valid := by
  unfold idOf at h
  split at h
  · exact Identifier.valid_of_parse (mapError_eq_ok_iff.mp h)
  · cases h

theorem ofMembers_valid {effect : StatusEffect} (h : ofMembers members = .ok effect) :
    effect.id.Valid := by
  rw [ofMembers_eq] at h
  simp only [bind_eq_ok_iff] at h
  obtain ⟨id, named, _, _, _, _, _, _, _, _, _, _, made⟩ := h
  cases made
  exact idOf_valid named

end StatusEffect

namespace SoundEvent

def rangeOf (event : List (String × Document)) : Except Malformation (Option Float) :=
  match member? "range" event with
  | none => .ok none
  | some .null => .ok none
  | some d =>
    match asFloat? d with
    | some x => .ok (some x)
    | none => .error .soundRangeNotNumber

theorem ofValue_object (event : List (String × Document)) :
    ofValue (.object event) =
      match member? "sound_id" event with
      | some (.string s) => do
        let range ← rangeOf event
        return ⟨← (Identifier.parse s).mapError .soundId, range⟩
      | _ => .error .soundIdNotString := by
  unfold ofValue rangeOf
  dsimp only
  cases member? "sound_id" event with
  | none => rfl
  | some name =>
      cases name with
      | string s =>
          cases member? "range" event with
          | none => rfl
          | some d =>
              cases d with
              | number n =>
                  dsimp only
                  cases asFloat? (.number n) <;> rfl
              | string t =>
                  dsimp only
                  cases asFloat? (.string t) <;> rfl
              | _ => rfl
      | _ => rfl

theorem supplied_rangeOf (event : List (String × Document)) : Supplied (rangeOf event) := by
  unfold rangeOf
  split
  · exact .ok none
  · exact .ok none
  · split
    · exact .ok _
    · exact .error not_false

theorem supplied_ofValue (value : Document) : Supplied (ofValue value) := by
  cases value with
  | string s => exact .bind (.mapError fun _ => not_false) fun id _ => .ok _
  | object event =>
      rw [ofValue_object]
      split
      · refine .bind (supplied_rangeOf event) fun range _ => ?_
        refine .bind (.mapError fun _ => not_false) fun id _ => ?_
        exact .ok _
      · exact .error not_false
  | _ => exact .error not_false

theorem rangeOf_finite {event : List (String × Document)} {x : Float}
    (h : rangeOf event = .ok (some x)) : x.isFinite = true := by
  unfold rangeOf at h
  split at h
  · cases h
  · cases h
  · split at h
    · rename_i finite
      cases h
      exact Document.asFloat?_finite finite
    · cases h

/-- The range is finite where it is fixed. -/
theorem ofValue_wellFormed {value : Document} {event : SoundEvent} (h : ofValue value = .ok event) :
    event.id.Valid ∧ ∀ x, event.range = some x → x.isFinite = true := by
  cases value with
  | string s =>
      obtain ⟨id, named, made⟩ := bind_eq_ok_iff.mp h
      cases made
      refine ⟨Identifier.valid_of_parse (mapError_eq_ok_iff.mp named), ?_⟩
      intro x fixed
      cases fixed
  | object members =>
      rw [ofValue_object] at h
      split at h
      · simp only [bind_eq_ok_iff] at h
        obtain ⟨range, ranged, id, named, made⟩ := h
        cases made
        refine ⟨Identifier.valid_of_parse (mapError_eq_ok_iff.mp named), ?_⟩
        rintro x rfl
        exact rangeOf_finite ranged
      · cases h
  | _ => cases h

end SoundEvent

namespace Sound

variable {members : List (String × Document)}

/-- Its event is well formed, and its volume and pitch are finite. -/
structure WellFormed (s : Sound) : Prop where
  id : s.event.id.Valid
  range : ∀ x, s.event.range = some x → x.isFinite = true
  volume : s.volume.isFinite = true
  pitch : s.pitch.isFinite = true

theorem ofOutcome_eq {value : Document} (there : member? "sound_event" members = some value) :
    ofOutcome members = do
      let event ← SoundEvent.ofValue value
      let volume ← numberField members "volume"
      let pitch ← numberField members "pitch"
      return { event, volume, pitch } := by
  unfold ofOutcome
  rw [there]

theorem supplied_numberField (key : String) : Supplied (numberField members key) := by
  unfold numberField
  split
  · exact .ok 1
  · split
    · exact .ok _
    · exact .error not_false

theorem supplied_ofOutcome {value : Document}
    (there : member? "sound_event" members = some value) : Supplied (ofOutcome members) := by
  rw [ofOutcome_eq there]
  refine .bind (SoundEvent.supplied_ofValue value) fun event _ => ?_
  refine .bind (supplied_numberField _) fun volume _ => ?_
  refine .bind (supplied_numberField _) fun pitch _ => ?_
  exact .ok _

theorem numberField_finite {key : String} {x : Float} (h : numberField members key = .ok x) :
    x.isFinite = true := by
  unfold numberField at h
  split at h
  · cases h
    decide
  · split at h
    · rename_i finite
      cases h
      exact Document.asFloat?_finite finite
    · cases h

theorem ofOutcome_wellFormed {sound : Sound} (h : ofOutcome members = .ok sound) :
    sound.WellFormed := by
  cases there : member? "sound_event" members with
  | none =>
      unfold ofOutcome at h
      rw [there] at h
      cases h
  | some value =>
      rw [ofOutcome_eq there] at h
      simp only [bind_eq_ok_iff] at h
      obtain ⟨event, read, volume, loud, pitch, high, made⟩ := h
      cases made
      obtain ⟨valid, finite⟩ := SoundEvent.ofValue_wellFormed read
      exact ⟨valid, finite, numberField_finite loud, numberField_finite high⟩

end Sound

def Action.WellFormed : Action → Prop
  | .effect e => e.id.Valid
  | .sound s => s.WellFormed

namespace Outcome

variable {members : List (String × Document)}

/-- Its numbers are finite, and what it names is an identifier. -/
structure WellFormed (o : Outcome) : Prop where
  chance : o.chance.isFinite = true
  pos : ∀ p, o.pos = some p → p.All (·.isFinite = true)
  action : o.action.WellFormed

theorem supplied_delayOf : Supplied (delayOf members) := by
  unfold delayOf
  split
  · exact .ok 0
  · exact .ok 0
  · split
    · exact .ok _
    · exact .error not_false

theorem supplied_posOf : Supplied (posOf members) := by
  unfold posOf
  split
  · exact .ok none
  · exact .ok none
  · exact .map (.mapError fun _ => not_false)
  · split
    · exact .ok _
    · exact .error not_false
  · exact .error not_false

theorem mapM_finite {items : List Document} {xs : List Float} (h : items.mapM asFloat? = some xs) :
    ∀ x ∈ xs, x.isFinite = true := by
  induction items generalizing xs with
  | nil =>
      cases h
      exact fun x inside => absurd inside List.not_mem_nil
  | cons item items ih =>
      simp only [List.mapM_cons, Option.bind_eq_bind, Option.bind_eq_some_iff] at h
      obtain ⟨x, first, rest, others, made⟩ := h
      cases made
      exact List.forall_mem_cons.mpr ⟨Document.asFloat?_finite first, ih others⟩

theorem posOf_finite {p : Point} (h : posOf members = .ok (some p)) :
    p.All (·.isFinite = true) := by
  unfold posOf at h
  split at h
  · cases h
  · cases h
  · rename_i s _
    cases read : Point.parse s with
    | error e =>
        rw [read] at h
        cases h
    | ok q =>
        rw [read] at h
        cases h
        exact Point.parse_finite read
  · split at h
    · rename_i x y z found
      cases h
      have finite := mapM_finite found
      exact ⟨finite x (by simp), finite y (by simp), finite z (by simp)⟩
    · cases h
  · cases h

theorem actionOf_wellFormed {kind : Kind} {action : Action} (h : actionOf kind members = .ok action) :
    action.kind = kind ∧ action.WellFormed := by
  cases kind with
  | effect =>
      obtain ⟨effect, read, made⟩ := bind_eq_ok_iff.mp h
      cases made
      refine ⟨rfl, ?_⟩
      unfold StatusEffect.ofOutcome at read
      split at read
      · exact StatusEffect.ofMembers_valid read
      · cases read
  | sound =>
      obtain ⟨sound, read, made⟩ := bind_eq_ok_iff.mp h
      cases made
      exact ⟨rfl, Sound.ofOutcome_wellFormed read⟩

theorem ofDocument_wellFormed {id : Identifier} {kind : Kind} {document : Document} {o : Outcome}
    (h : ofDocument id kind document = .ok o) : o.id = id ∧ o.kind = kind ∧ o.WellFormed := by
  obtain ⟨members, delay, pos, action, _, _, placed, acts, rfl⟩ := ofDocument_eq_ok_iff.mp h
  obtain ⟨same, fit⟩ := actionOf_wellFormed acts
  refine ⟨rfl, same, ?_, ?_, fit⟩
  · cases read : (member? "chance" members).bind asFloat? with
    | none =>
        have plain : Definition.defaultChance.isFinite = true := by decide
        exact plain
    | some x =>
        obtain ⟨d, _, finite⟩ := Option.bind_eq_some_iff.mp read
        exact Document.asFloat?_finite finite
  · rintro p rfl
    exact posOf_finite placed

/-- The member that the kind needs is there, in the shape that loading asks for. -/
def HasPayload (kind : Kind) (members : List (String × Document)) : Prop :=
  match kind with
  | .effect => ∃ effect, member? "status_effect" members = some (.object effect)
  | .sound => ∃ value, member? "sound_event" members = some value

theorem hasPayload_of_check {kind : Kind} (h : Definition.checkPayload kind members = .ok ()) :
    HasPayload kind members := by
  unfold Definition.checkPayload at h
  cases kind with
  | effect =>
      dsimp only at h
      split at h
      · rename_i effect there
        exact ⟨effect, there⟩
      · cases h
      · cases h
  | sound =>
      dsimp only at h
      split at h
      · rename_i s there
        exact ⟨.string s, there⟩
      · rename_i event there
        exact ⟨.object event, there⟩
      · cases h
      · cases h

/-- Resolution takes nothing away, and an object stays one. -/
theorem HasPayload.resolve {kind : Kind} {turns : List Document.Turn}
    {members' : List (String × Document)} (h : HasPayload kind members)
    (becomes : ∀ key, Document.Becomes turns [.member key] (member? key members)
      (member? key members')) : HasPayload kind members' := by
  cases kind with
  | effect =>
      obtain ⟨effect, there⟩ := h
      have whole := becomes "status_effect"
      rw [there] at whole
      obtain ⟨effect', there', _⟩ := whole
      exact ⟨effect', there'⟩
  | sound =>
      obtain ⟨value, there⟩ := h
      have whole := becomes "sound_event"
      rw [there] at whole
      exact whole.exists_after

theorem supplied_actionOf {kind : Kind} (h : HasPayload kind members) :
    Supplied (actionOf kind members) := by
  cases kind with
  | effect =>
      obtain ⟨effect, there⟩ := h
      have read : StatusEffect.ofOutcome members = StatusEffect.ofMembers effect := by
        unfold StatusEffect.ofOutcome
        rw [there]
      refine .bind ?_ fun effect _ => .ok _
      rw [read]
      exact StatusEffect.supplied_ofMembers
  | sound =>
      obtain ⟨value, there⟩ := h
      exact .bind (Sound.supplied_ofOutcome there) fun sound _ => .ok _

theorem supplied_ofDocument {id : Identifier} {kind : Kind} (h : HasPayload kind members) :
    Supplied (ofDocument id kind (.object members)) := by
  unfold ofDocument
  refine .bind (.ok members) fun members' same => ?_
  cases same
  refine .bind supplied_delayOf fun delay _ => ?_
  refine .bind supplied_posOf fun pos _ => ?_
  refine .bind (supplied_actionOf h) fun action _ => ?_
  exact .ok _

/-- What loading let pass resolves or fails, in any context, but it never fails for lack of what
loading has checked; and the outcome that comes of it is its own and well formed, in whatever way
its values were written. -/
theorem resolve_wellFormed {id : Identifier} {document : Document} {d : Definition}
    (decoded : Definition.decode id document = .ok d) (c : Context) :
    (∀ culprit why last, resolve d c = (.error (.malformed culprit why), last) →
      why.message ∉ ["expected a JSON object", "missing 'status_effect'",
        "missing 'sound_event'"]) ∧
    ∀ o last, resolve d c = (.ok o, last) → o.id = d.id ∧ o.kind = d.kind ∧ o.WellFormed := by
  obtain ⟨members, _, whole, checked, _⟩ := Definition.exists_members decoded
  refine ⟨?_, ?_⟩
  · intro culprit why last failed lacking
    obtain ⟨_, after, resolved, unread⟩ := resolve_eq_malformed_iff.mp failed
    rw [whole] at resolved
    obtain ⟨turns, members', rfl, _, _, becomes⟩ := Document.resolve_object resolved
    have there : HasPayload d.kind members' := (hasPayload_of_check checked).resolve becomes
    exact supplied_ofDocument there why unread (Malformation.lacking_of_message lacking)
  · intro o last resolved
    obtain ⟨after, _, read⟩ := resolve_eq_ok_iff.mp resolved
    exact ofDocument_wellFormed read

/-- A number written as text, and one that a placeholder stands for. -/
theorem wellFormed_of_bell :
    let id : Identifier := ⟨"luckbox", "bell"⟩
    let document : Document :=
      .object [("sound_event", .object [("range", .string "8"), ("sound_id", .string "bell")]),
        ("type", .string "sound"), ("volume", .string "\x7bblockPosY\x7d")]
    let d : Definition :=
      { id, kind := .sound, luck := none, chance := none, delay := none, pos := none, document }
    let c : Context := ⟨{ block := ⟨0, 64, 0⟩ }, ⟨fun _ => 0, 0⟩⟩
    let o : Outcome :=
      { id, luck := 0, chance := 1, delay := 0, pos := none
        action := .sound
          { event := { id := ⟨"minecraft", "bell"⟩, range := some 8 }, volume := 64 } }
    Definition.decode id document = .ok d ∧ resolve d c = (.ok o, c) ∧
      o.id = d.id ∧ o.kind = d.kind ∧ o.WellFormed := by
  intro id document d c o
  have decoded : Definition.decode id document = .ok d := rfl
  have text (s t : String) (callFree : Template.hasCall s.toList = false)
      (drawn : c.draw (Template.substitute c.toScene s.toList) = (.ok t.toList, c)) :=
    Document.draw_string (Template.resolve_of_callFree callFree drawn)
  have event := Document.draw_object
    (Document.draw_member "range" (text "8" "8" rfl rfl)
      (Document.draw_member "sound_id" (text "bell" "bell" rfl rfl) (Document.draw_bare c)))
  have whole := Document.draw_object
    (Document.draw_member "sound_event" event
      (Document.draw_member "type" (text "sound" "sound" rfl rfl)
        (Document.draw_member "volume" (text "\x7bblockPosY\x7d" "64" rfl rfl)
          (Document.draw_bare c))))
  have resolved : resolve d c = (.ok o, c) := resolve_eq_ok_iff.mpr ⟨_, whole, rfl⟩
  exact ⟨decoded, resolved, (resolve_wellFormed decoded c).2 o c resolved⟩

end Outcome
end Fortune
