import Fortune.Proofs.Document.Resolution
import Fortune.Proofs.Outcome.Definition

/-!
From a definition to an outcome. What a member of the document is when the values are read depends
on what it was at loading, since resolution keeps the members and the shape of each.
-/
namespace Fortune
open Document (member? asInt32? asFloat?)

namespace Document

theorem at?_member (members : List (String × Document)) (key : String) :
    (object members).at? [.member key] = member? key members := by
  change ((member? key members).bind fun d => d.at? []) = _
  cases member? key members <;> rfl

section Becomes

variable {turns : List Turn} {path : Path} {after : Option Document}

theorem Becomes.exists_leaf {s : String} (h : Becomes turns path (some (.string s)) after) :
    ∃ t ∈ turns, t.path = path ∧ t.template = s ∧ after = some (leaf t.text.toList) := by
  obtain ⟨t, inside, place, template, number, text⟩ := h
  refine ⟨t, inside, place, template, ?_⟩
  unfold leaf
  cases taken : literal? t.text.toList with
  | some n => exact number n taken
  | none => rw [text taken, String.ofList_toList]

theorem Becomes.exists_after {d : Document} (h : Becomes turns path (some d) after) :
    ∃ d', after = some d' := by
  cases d with
  | string s =>
      obtain ⟨t, _, _, _, leafed⟩ := h.exists_leaf
      exact ⟨_, leafed⟩
  | array items =>
      obtain ⟨items', same, _⟩ := h
      exact ⟨_, same⟩
  | object members =>
      obtain ⟨members', same, _⟩ := h
      exact ⟨_, same⟩
  | _ => exact ⟨_, h⟩

end Becomes

/-- An object resolves to an object, member by member. -/
theorem resolve_object {members : List (String × Document)} {after : Document} {c last : Context}
    (h : c.draw ((object members).resolve c.toScene) = (.ok after, last)) :
    ∃ turns members', after = .object members' ∧
      turns.map Turn.place = (object members).leaves ∧ InTurn turns c last ∧
      ∀ key, Becomes turns [.member key] (member? key members) (member? key members') := by
  obtain ⟨turns, places, inTurn, becomes⟩ := resolve_ok _ c after last h
  obtain ⟨members', whole, _⟩ := becomes []
  obtain rfl : after = .object members' := Option.some.inj whole
  refine ⟨turns, members', rfl, places, inTurn, ?_⟩
  intro key
  have part := becomes [.member key]
  rw [at?_member, at?_member] at part
  exact part

/-! Documents that resolve, put together from parts that do. -/

theorem draw_string {s text : String} {c last : Context}
    (h : Template.resolve s c = (.ok text, last)) :
    c.draw ((string s).resolve c.toScene) = (.ok (leaf text.toList), last) := by
  rw [Template.resolve, Context.draw_map_ok] at h
  obtain ⟨chars, resolved, rfl⟩ := h
  rw [resolve, Context.draw_map_ok]
  exact ⟨chars, resolved, by rw [String.toList_ofList]⟩

/-- A string that draws nothing. -/
theorem draw_callFree (s text : String) (c : Context) (callFree : Template.hasCall s.toList = false)
    (h : c.draw (Template.substitute c.toScene s.toList) = (.ok text.toList, c)) :
    c.draw ((string s).resolve c.toScene) = (.ok (leaf text.toList), c) :=
  draw_string (Template.resolve_of_callFree callFree h)

theorem draw_object {members members' : List (String × Document)} {c last : Context}
    (h : c.draw (resolveMembers c.toScene members) = (.ok members', last)) :
    c.draw ((object members).resolve c.toScene) = (.ok (.object members'), last) := by
  rw [resolve, Context.draw_map_ok]
  exact ⟨members', h, rfl⟩

theorem draw_bare (c : Context) : c.draw (resolveMembers c.toScene []) = (.ok [], c) := by
  rw [resolveMembers, Context.draw_pure]

theorem draw_member (key : String) {item item' : Document}
    {members members' : List (String × Document)} {c mid last : Context}
    (first : c.draw (item.resolve c.toScene) = (.ok item', mid))
    (rest : mid.draw (resolveMembers mid.toScene members) = (.ok members', last)) :
    c.draw (resolveMembers c.toScene ((key, item) :: members)) =
      (.ok ((key, item') :: members'), last) := by
  rw [resolveMembers, Context.draw_bind_ok]
  refine ⟨item', mid, first, ?_⟩
  rw [Context.draw_map_ok, ← Context.draw_toScene first]
  exact ⟨members', rest, rfl⟩

end Document

namespace Outcome

theorem ofDocument_eq_ok_iff {id : Identifier} {kind : Kind} {document : Document} {o : Outcome} :
    ofDocument id kind document = .ok o ↔ ∃ members delay pos action,
      document = .object members ∧ delayOf members = .ok delay ∧ posOf members = .ok pos ∧
      actionOf kind members = .ok action ∧
      o = { id, delay, pos, action
            luck := ((member? "luck" members).bind asInt32?).getD Definition.defaultLuck
            chance := ((member? "chance" members).bind asFloat?).getD
              Definition.defaultChance } := by
  unfold ofDocument
  simp only [bind_eq_ok_iff, Definition.membersOf_eq_ok_iff]
  constructor
  · rintro ⟨members, shape, delay, delayed, pos, placed, action, acts, made⟩
    exact ⟨members, delay, pos, action, shape, delayed, placed, acts, (Except.ok.inj made).symm⟩
  · rintro ⟨members, delay, pos, action, shape, delayed, placed, acts, rfl⟩
    exact ⟨members, shape, delay, delayed, pos, placed, action, acts, rfl⟩

theorem resolve_eq_ok_iff {d : Definition} {c last : Context} {o : Outcome} :
    resolve d c = (.ok o, last) ↔ ∃ document,
      c.draw (d.document.resolve c.toScene) = (.ok document, last) ∧
      ofDocument d.id d.kind document = .ok o := by
  unfold resolve
  rcases c.draw (d.document.resolve c.toScene) with ⟨e | document, after⟩
  · simp
  · simp only [Prod.mk.injEq, mapError_eq_ok_iff, Except.ok.injEq]
    constructor
    · rintro ⟨read, rfl⟩
      exact ⟨document, ⟨rfl, rfl⟩, read⟩
    · rintro ⟨document', ⟨rfl, rfl⟩, read⟩
      exact ⟨read, rfl⟩

theorem resolve_eq_malformed_iff {d : Definition} {c last : Context} {id : Identifier}
    {why : Malformation} :
    resolve d c = (.error (.malformed id why), last) ↔ id = d.id ∧ ∃ document,
      c.draw (d.document.resolve c.toScene) = (.ok document, last) ∧
      ofDocument d.id d.kind document = .error why := by
  unfold resolve
  rcases c.draw (d.document.resolve c.toScene) with ⟨e | document, after⟩
  · simp
  · simp only [Prod.mk.injEq, mapError_eq_error_iff, Except.ok.injEq, Error.malformed.injEq]
    constructor
    · rintro ⟨⟨why, failed, rfl, rfl⟩, rfl⟩
      exact ⟨rfl, document, ⟨rfl, rfl⟩, failed⟩
    · rintro ⟨rfl, document', ⟨rfl, rfl⟩, failed⟩
      exact ⟨⟨why, failed, rfl, rfl⟩, rfl⟩

end Outcome

namespace Definition

/-- What loading has seen of a definition that it let pass. -/
theorem exists_members {id : Identifier} {document : Document} {d : Definition}
    (h : decode id document = .ok d) : ∃ members, document = .object members ∧
      d.document = .object members ∧ checkPayload d.kind members = .ok () ∧
      d.luck = (member? "luck" members).bind asInt32? ∧
      d.delay = (member? "delay" members).bind Document.asNat32? := by
  obtain ⟨members, kind, pos, rfl, _, fit, _, rfl⟩ :=
    ofDocument_eq_ok_iff.mp (decode_eq_ok_iff.mp h)
  exact ⟨members, rfl, rfl, fit, rfl, rfl⟩

end Definition
end Fortune
