import Fortune.Proofs.Document.Replacement
import Fortune.Proofs.Outcome.WellFormed
import Fortune.Proofs.Template.Plain

/-!
What an outcome is named to do. The identifier of a sound or an effect stands in the document as a
string, which resolves like any other: an identifier that reads as a number is one by the time that
it is looked for, and then it is no identifier any more.
-/
namespace Fortune
open Document (member? literal? leaf put keyPath at?_keyPath_cons AlikeBut alikeBut_modify
  member?_modify)

/-- Where the identifier stands in definitions of a kind, and what is the matter if there is no
string when it is looked for. -/
inductive NamedAt : Kind → List String → Malformation → Prop
  | sound : NamedAt .sound ["sound_event"] .soundInvalid
  | soundObject : NamedAt .sound ["sound_event", "sound_id"] .soundIdNotString
  | effect : NamedAt .effect ["status_effect", "id"] .effectIdNotString

theorem NamedAt.exists_key {kind : Kind} {keys : List String} {why : Malformation}
    (place : NamedAt kind keys why) :
    ∃ key rest, keys = key :: rest ∧ key ≠ "type" ∧ key ∉ ["delay", "pos", "luck", "chance"] := by
  cases place <;> exact ⟨_, _, rfl, by decide, by decide⟩

/-- The same action on another identifier. -/
def Action.named (name : Identifier) : Action → Action
  | .effect e => .effect { e with id := name }
  | .sound s => .sound { s with event := { s.event with id := name } }

namespace Outcome

theorem ofDocument_alike {id : Identifier} {kind : Kind} {key : String}
    {members members' : List (String × Document)} {o : Outcome}
    (alike : AlikeBut key members members') (apart : key ∉ ["delay", "pos", "luck", "chance"])
    (read : ofDocument id kind (.object members') = .ok o) :
    actionOf kind members' = .ok o.action ∧
      ofDocument id kind (.object members) =
        (actionOf kind members).map fun action => { o with action } := by
  obtain ⟨_, delay, pos, action, ⟨⟩, delayed, placed, acts, rfl⟩ := ofDocument_eq_ok_iff.mp read
  have same (other : String) (listed : other ∈ ["delay", "pos", "luck", "chance"]) :
      member? other members' = member? other members :=
    alike other fun own => apart (own ▸ listed)
  have delayed' : delayOf members = .ok delay := by
    rw [← delayed, delayOf, delayOf, same "delay" (by simp)]
  have placed' : posOf members = .ok pos := by
    rw [← placed, posOf, posOf, same "pos" (by simp)]
  refine ⟨acts, ?_⟩
  rw [same "luck" (by simp), same "chance" (by simp)]
  cases acts : actionOf kind members <;>
    simp [ofDocument, Definition.membersOf, delayed', placed', acts, bind, Except.bind, pure,
      Except.pure, Except.map]

end Outcome

section Reading

variable {name : Identifier} {text other : String} {members members' : List (String × Document)}
  {kind : Kind} {keys : List String} {why : Malformation} {action : Action}

/-- A number is no identifier. -/
theorem Outcome.actionOf_number (place : NamedAt kind keys why) {n : Number}
    (there : (Document.object members).at? (keyPath keys) = some (.number n)) :
    Outcome.actionOf kind members = .error why := by
  cases place with
  | sound =>
      obtain ⟨_, part, ⟨⟩, inside, here⟩ := at?_keyPath_cons there
      cases here
      rw [Outcome.actionOf, Sound.ofOutcome_eq inside]
      rfl
  | soundObject =>
      obtain ⟨_, part, ⟨⟩, inside, deeper⟩ := at?_keyPath_cons there
      obtain ⟨event, part, rfl, within, here⟩ := at?_keyPath_cons deeper
      cases here
      rw [Outcome.actionOf, Sound.ofOutcome_eq inside, SoundEvent.ofValue_object, within]
      rfl
  | effect =>
      obtain ⟨_, part, ⟨⟩, inside, deeper⟩ := at?_keyPath_cons there
      obtain ⟨effect, part, rfl, within, here⟩ := at?_keyPath_cons deeper
      cases here
      rw [Outcome.actionOf, StatusEffect.ofOutcome, inside]
      dsimp only
      rw [StatusEffect.ofMembers_eq, StatusEffect.idOf, within]
      rfl

theorem Sound.ofOutcome_named {value value' : Document} {sound : Sound}
    (there : member? "sound_event" members = some value)
    (there' : member? "sound_event" members' = some value')
    (alike : AlikeBut "sound_event" members members')
    (renamed : ∀ event, SoundEvent.ofValue value' = .ok event →
      SoundEvent.ofValue value = .ok { event with id := name })
    (read : Sound.ofOutcome members' = .ok sound) :
    Sound.ofOutcome members = .ok { sound with event := { sound.event with id := name } } := by
  rw [Sound.ofOutcome_eq there'] at read
  simp only [bind_eq_ok_iff] at read
  obtain ⟨event, found, volume, loud, pitch, high, made⟩ := read
  cases made
  rw [numberField, alike "volume" (by decide)] at loud
  rw [numberField, alike "pitch" (by decide)] at high
  rw [Sound.ofOutcome_eq there]
  simp only [bind_eq_ok_iff]
  exact ⟨_, renamed event found, volume, loud, pitch, high, rfl⟩

theorem SoundEvent.ofValue_named {event event' : List (String × Document)} {read : SoundEvent}
    (there : member? "sound_id" event = some (.string text))
    (there' : member? "sound_id" event' = some (.string other))
    (alike : AlikeBut "sound_id" event event') (named : Identifier.parse text = .ok name)
    (found : SoundEvent.ofValue (.object event') = .ok read) :
    SoundEvent.ofValue (.object event) = .ok { read with id := name } := by
  rw [SoundEvent.ofValue_object, there'] at found
  simp only [bind_eq_ok_iff] at found
  obtain ⟨range, ranged, _, _, made⟩ := found
  cases made
  rw [rangeOf, alike "range" (by decide)] at ranged
  rw [SoundEvent.ofValue_object, there]
  simp only [bind_eq_ok_iff]
  exact ⟨range, ranged, name, by rw [named]; rfl, rfl⟩

theorem StatusEffect.ofMembers_named {effect effect' : List (String × Document)}
    {read : StatusEffect} (there : member? "id" effect = some (.string text))
    (alike : AlikeBut "id" effect effect') (named : Identifier.parse text = .ok name)
    (found : StatusEffect.ofMembers effect' = .ok read) :
    StatusEffect.ofMembers effect = .ok { read with id := name } := by
  rw [StatusEffect.ofMembers_eq] at found
  simp only [bind_eq_ok_iff] at found
  obtain ⟨_, _, duration, lasting, amplifier, strong, ambient, faint, particles, seen, icon, shown,
    made⟩ := found
  cases made
  rw [integerField, alike "duration" (by decide)] at lasting
  rw [integerField, alike "amplifier" (by decide)] at strong
  rw [flagField, alike "ambient" (by decide)] at faint
  rw [flagField, alike "show_particles" (by decide)] at seen
  rw [flagField, alike "show_icon" (by decide)] at shown
  rw [StatusEffect.ofMembers_eq]
  simp only [bind_eq_ok_iff]
  refine ⟨name, ?_, duration, lasting, amplifier, strong, ambient, faint, particles, seen, icon,
    shown, rfl⟩
  rw [StatusEffect.idOf, there]
  dsimp only
  rw [named]
  rfl

theorem Outcome.actionOf_string (place : NamedAt kind keys why)
    (there : (Document.object members).at? (keyPath keys) = some (.string text))
    (named : Identifier.parse text = .ok name)
    (now : put (.string other) keys (.object members) = .object members')
    (acts : Outcome.actionOf kind members' = .ok action) :
    Outcome.actionOf kind members = .ok (action.named name) := by
  cases place with
  | sound =>
      obtain ⟨_, part, ⟨⟩, inside, here⟩ := at?_keyPath_cons there
      cases here
      cases now
      obtain ⟨sound, read, made⟩ := bind_eq_ok_iff.mp acts
      cases made
      refine bind_eq_ok_iff.mpr ⟨_, ?_, rfl⟩
      refine Sound.ofOutcome_named inside (member?_modify inside) (alikeBut_modify _ _ _) ?_ read
      intro event found
      obtain ⟨_, _, made⟩ := bind_eq_ok_iff.mp found
      cases made
      exact bind_eq_ok_iff.mpr ⟨name, by rw [named]; rfl, rfl⟩
  | soundObject =>
      obtain ⟨_, part, ⟨⟩, inside, deeper⟩ := at?_keyPath_cons there
      obtain ⟨event, part, rfl, within, here⟩ := at?_keyPath_cons deeper
      cases here
      cases now
      obtain ⟨sound, read, made⟩ := bind_eq_ok_iff.mp acts
      cases made
      refine bind_eq_ok_iff.mpr ⟨_, ?_, rfl⟩
      refine Sound.ofOutcome_named inside (member?_modify inside) (alikeBut_modify _ _ _) ?_ read
      intro found
      exact SoundEvent.ofValue_named within (member?_modify within) (alikeBut_modify _ _ _) named
  | effect =>
      obtain ⟨_, part, ⟨⟩, inside, deeper⟩ := at?_keyPath_cons there
      obtain ⟨effect, part, rfl, within, here⟩ := at?_keyPath_cons deeper
      cases here
      cases now
      obtain ⟨_, read, made⟩ := bind_eq_ok_iff.mp acts
      cases made
      refine bind_eq_ok_iff.mpr ⟨_, ?_, rfl⟩
      rw [StatusEffect.ofOutcome, member?_modify inside] at read
      rw [StatusEffect.ofOutcome, inside]
      exact StatusEffect.ofMembers_named within (alikeBut_modify _ _ _) named read

end Reading

/-- A plain text that is itself resolved is so in every context. -/
theorem Document.resolve_plain {text : String} (unopened : '(' ∉ text.toList)
    (unbraced : '\x7b' ∉ text.toList) {c : Context}
    (fixed : (Template.resolve text c).1 = .ok text) (scene : Scene) :
    (Document.string text).resolve scene = pure (leaf text.toList) := by
  rw [Document.resolve, Template.resolveText_of_plain unopened unbraced fixed, pure_bind]

/-- A string that resolves to one text in all contexts has become that text in a resolved
document. -/
theorem Document.at?_resolved {d after : Document} {c last : Context} {path : Document.Path}
    {s text : String} (h : c.draw (d.resolve c.toScene) = (.ok after, last))
    (there : d.at? path = some (.string s))
    (always : ∀ mid, (Template.resolve s mid).1 = .ok text) :
    after.at? path = some (leaf text.toList) := by
  obtain ⟨turns, _, inTurn, becomes⟩ := resolve_ok d c after last h
  have part := becomes path
  rw [there] at part
  obtain ⟨t, inside, rfl, rfl, leafed⟩ := part.exists_leaf
  obtain ⟨before, behind, rfl⟩ := List.append_of_mem inside
  obtain ⟨mid, _, _, taken⟩ := inTurn.turn
  have same := always mid
  rw [taken] at same
  rw [leafed, Except.ok.inj same]

namespace Definition

variable {id : Identifier} {document new : Document} {d d' : Definition} {key : String}
  {keys : List String}

theorem decode_put (decoded : decode id document = .ok d)
    (decoded' : decode id (put new (key :: keys) document) = .ok d') (apart : key ≠ "type") :
    d'.kind = d.kind := by
  obtain ⟨members, kind, _, rfl, tagged, _, _, rfl⟩ :=
    ofDocument_eq_ok_iff.mp (decode_eq_ok_iff.mp decoded)
  obtain ⟨_, kind', _, ⟨⟩, tagged', _, _, rfl⟩ :=
    ofDocument_eq_ok_iff.mp (decode_eq_ok_iff.mp decoded')
  rw [kindOf, alikeBut_modify key _ members "type" apart.symm] at tagged'
  exact Except.ok.inj (tagged'.symm.trans tagged)

end Definition

def standIn : String := "minecraft:a"

theorem resolve_standIn (scene : Scene) :
    (Document.string standIn).resolve scene = pure (.string standIn) := by
  let c : Context := ⟨scene, ⟨fun _ => 0, 0⟩⟩
  have fixed : Template.resolve standIn c = (.ok standIn, c) :=
    Template.resolve_of_callFree rfl (by rfl)
  exact Document.resolve_plain (by decide) (by decide) (congrArg Prod.fst fixed) scene

namespace Outcome

/-- A sound that nothing but its name is given of. -/
def bareSound (text : String) : Definition where
  id := ⟨"luckbox", "bell"⟩
  kind := .sound
  luck := none
  chance := none
  delay := none
  pos := none
  document := .object [("sound_event", .string text), ("type", .string "sound")]

theorem draw_bareSound {text : String} {c : Context}
    (resolved : Template.resolve text c = (.ok text, c)) :
    c.draw ((bareSound text).document.resolve c.toScene) =
      (.ok (.object [("sound_event", leaf text.toList), ("type", .string "sound")]), c) := by
  have tag : Template.resolve "sound" c = (.ok "sound", c) :=
    Template.resolve_of_callFree rfl (by rfl)
  exact Document.draw_object (Document.draw_member "sound_event" (Document.draw_string resolved)
    (Document.draw_member "type" (Document.draw_string tag) (Document.draw_bare c)))

/-- What comes of a sound that nothing but its name is given of. -/
def barely (name : Identifier) : Outcome where
  id := ⟨"luckbox", "bell"⟩
  luck := 0
  chance := 1
  delay := 0
  pos := none
  action := .sound { event := { id := name } }

theorem resolve_bareSound {text : String} {name : Identifier} {c : Context}
    (resolved : Template.resolve text c = (.ok text, c))
    (read : SoundEvent.ofValue (leaf text.toList) = .ok { id := name }) :
    resolve (bareSound text) c = (.ok (barely name), c) := by
  refine resolve_eq_ok_iff.mpr ⟨_, draw_bareSound resolved, ?_⟩
  refine ofDocument_eq_ok_iff.mpr ⟨_, 0, none, _, rfl, rfl, rfl, ?_, rfl⟩
  refine bind_eq_ok_iff.mpr ⟨{ event := { id := name } }, ?_, rfl⟩
  rw [@Sound.ofOutcome_eq _ (leaf text.toList) rfl, read]
  rfl

theorem resolve_standInSound (c : Context) :
    resolve (bareSound standIn) c = (.ok (barely ⟨"minecraft", "a"⟩), c) :=
  resolve_bareSound (Template.resolve_of_callFree rfl (by rfl)) (by rfl)

/-- The identifier of a definition is a plain text that resolves to itself, and with another one in
its place the definition resolves. Then it does so as it is, with the same words drawn and the same
outcome but for the identifier, unless the text reads as a number: then there is no string left to
be the identifier, and that is what the error says. -/
theorem resolve_named {id : Identifier} {document : Document} {d d' : Definition}
    {c last : Context} {o : Outcome} {keys : List String} {why : Malformation} {text : String}
    {name : Identifier} (decoded : Definition.decode id document = .ok d)
    (place : NamedAt d.kind keys why)
    (there : document.at? (keyPath keys) = some (.string text))
    (valid : Identifier.parse text = .ok name)
    (fixed : (Template.resolve text c).1 = .ok text)
    (decoded' : Definition.decode id (put (.string standIn) keys document) = .ok d')
    (otherwise : resolve d' c = (.ok o, last)) :
    (literal? text.toList = none →
      resolve d c = (.ok { o with action := o.action.named name }, last)) ∧
    ∀ n, literal? text.toList = some n → resolve d c = (.error (.malformed id why), last) := by
  have chars := Identifier.chars_of_parse valid
  have unopened : '(' ∉ text.toList := fun inside => absurd (chars _ inside) (by decide)
  have unbraced : '\x7b' ∉ text.toList := fun inside => absurd (chars _ inside) (by decide)
  obtain ⟨key, rest, rfl, other, apart⟩ := place.exists_key
  obtain ⟨after', drawn, read⟩ := resolve_eq_ok_iff.mp otherwise
  have still := Document.resolve_plain unopened unbraced fixed c.toScene
  rw [Definition.decode_document decoded',
    Document.resolve_put still (resolve_standIn _) there, ← bind_pure_comp,
    Context.draw_map_ok] at drawn
  obtain ⟨after, drawn, rfl⟩ := drawn
  have found : after.at? (keyPath (key :: rest)) = some (leaf text.toList) :=
    Document.at?_resolved drawn there fun mid =>
      congrArg Prod.fst (Template.resolve_of_plain unopened unbraced fixed mid)
  obtain ⟨members, _, rfl, _⟩ := at?_keyPath_cons found
  rw [Definition.decode_id decoded', Definition.decode_put decoded decoded' other] at read
  obtain ⟨acts, reads⟩ := ofDocument_alike (alikeBut_modify key _ members) apart read
  rw [← Definition.decode_document decoded] at drawn
  constructor
  · intro unread
    rw [leaf, unread, String.ofList_toList] at found
    have acts' := actionOf_string place found valid rfl acts
    refine resolve_eq_ok_iff.mpr ⟨_, drawn, ?_⟩
    rw [Definition.decode_id decoded, reads, acts']
    rfl
  · intro n isNumber
    rw [leaf, isNumber] at found
    refine resolve_eq_malformed_iff.mpr ⟨(Definition.decode_id decoded).symm, _, drawn, ?_⟩
    rw [Definition.decode_id decoded, reads, actionOf_number place found]
    rfl

/-- A name of letters. -/
theorem named_bell :
    let id : Identifier := ⟨"luckbox", "bell"⟩
    let d := bareSound "bell"
    let d' := bareSound standIn
    let name : Identifier := ⟨"minecraft", "bell"⟩
    let c : Context := ⟨{ block := ⟨0, 60, 0⟩ }, ⟨fun _ => 0, 0⟩⟩
    Definition.decode id d.document = .ok d ∧ NamedAt d.kind ["sound_event"] .soundInvalid ∧
      d.document.at? (keyPath ["sound_event"]) = some (.string "bell") ∧
      Identifier.parse "bell" = .ok name ∧ (Template.resolve "bell" c).1 = .ok "bell" ∧
      Definition.decode id (put (.string standIn) ["sound_event"] d.document) = .ok d' ∧
      resolve d' c = (.ok (barely ⟨"minecraft", "a"⟩), c) ∧ literal? "bell".toList = none ∧
      resolve d c = (.ok (barely name), c) := by
  intro id d d' name c
  have decoded : Definition.decode id d.document = .ok d := rfl
  have place : NamedAt d.kind ["sound_event"] .soundInvalid := .sound
  have there : d.document.at? (keyPath ["sound_event"]) = some (.string "bell") := rfl
  have valid : Identifier.parse "bell" = .ok name := by rfl
  have resolved : Template.resolve "bell" c = (.ok "bell", c) :=
    Template.resolve_of_callFree rfl (by rfl)
  have fixed := congrArg Prod.fst resolved
  have decoded' :
      Definition.decode id (put (.string standIn) ["sound_event"] d.document) = .ok d' :=
    rfl
  have otherwise := resolve_standInSound c
  have unread : literal? "bell".toList = none := by rfl
  have named := (resolve_named decoded place there valid fixed decoded' otherwise).1 unread
  exact ⟨decoded, place, there, valid, fixed, decoded', otherwise, unread, named⟩

/-- A name of digits. With another name the definition resolves, with its own it does not. -/
theorem nameless_digits :
    let id : Identifier := ⟨"luckbox", "bell"⟩
    let d := bareSound "123"
    let d' := bareSound standIn
    let c : Context := .ofSeed { block := ⟨0, 60, 0⟩ } 3
    Definition.decode id d.document = .ok d ∧
      d.document.at? (keyPath ["sound_event"]) = some (.string "123") ∧
      Identifier.parse "123" = .ok ⟨"minecraft", "123"⟩ ∧
      (Template.resolve "123" c).1 = .ok "123" ∧
      Definition.decode id (put (.string standIn) ["sound_event"] d.document) = .ok d' ∧
      resolve d' c = (.ok (barely ⟨"minecraft", "a"⟩), c) ∧
      resolve d c = (.error (.malformed id .soundInvalid), c) ∧
      ¬∃ o last, resolve d c = (.ok o, last) := by
  intro id d d' c
  have resolved : Template.resolve "123" c = (.ok "123", c) :=
    Template.resolve_of_callFree rfl (by rfl)
  have lost : resolve d c = (.error (.malformed id .soundInvalid), c) :=
    resolve_eq_malformed_iff.mpr ⟨rfl, _, draw_bareSound resolved, by rfl⟩
  refine ⟨rfl, rfl, by rfl, congrArg Prod.fst resolved, rfl, resolve_standInSound c, lost, ?_⟩
  rintro ⟨o, last, found⟩
  rw [lost] at found
  cases found

end Outcome

end Fortune
