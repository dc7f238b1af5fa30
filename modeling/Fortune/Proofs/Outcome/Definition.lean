import Fortune.Outcome.Definition
import Fortune.Proofs.Except

/-! Which documents make definitions, and of what. -/
namespace Fortune
open Document (member? asInt32? asFloat? asNat32?)

namespace Definition

theorem membersOf_eq_ok_iff {document : Document} {members : List (String × Document)} :
    membersOf document = .ok members ↔ document = .object members := by
  unfold membersOf
  split <;> simp_all

theorem ofDocument_eq_ok_iff {id : Identifier} {document : Document} {d : Definition} :
    ofDocument id document = .ok d ↔ ∃ members kind pos, document = .object members ∧
      kindOf members = .ok kind ∧ checkPayload kind members = .ok () ∧
      posText members = .ok pos ∧
      d = { id, kind, pos, document
            luck := (member? "luck" members).bind asInt32?
            chance := (member? "chance" members).bind asFloat?
            delay := (member? "delay" members).bind asNat32? } := by
  unfold ofDocument
  simp only [bind_eq_ok_iff, membersOf_eq_ok_iff]
  constructor
  · rintro ⟨members, shape, kind, tagged, ⟨⟩, fit, pos, placed, made⟩
    exact ⟨members, kind, pos, shape, tagged, fit, placed, (Except.ok.inj made).symm⟩
  · rintro ⟨members, kind, pos, shape, tagged, fit, placed, rfl⟩
    exact ⟨members, shape, kind, tagged, (), fit, pos, placed, rfl⟩

theorem decode_eq_ok_iff {id : Identifier} {document : Document} {d : Definition} :
    decode id document = .ok d ↔ ofDocument id document = .ok d :=
  mapError_eq_ok_iff

theorem decode_id {id : Identifier} {document : Document} {d : Definition}
    (h : decode id document = .ok d) : d.id = id := by
  obtain ⟨members, kind, pos, _, _, _, _, rfl⟩ := ofDocument_eq_ok_iff.mp (decode_eq_ok_iff.mp h)
  rfl

theorem decode_document {id : Identifier} {document : Document} {d : Definition}
    (h : decode id document = .ok d) : d.document = document := by
  obtain ⟨_, _, _, _, _, _, _, rfl⟩ := ofDocument_eq_ok_iff.mp (decode_eq_ok_iff.mp h)
  rfl

end Definition
end Fortune
