import Fortune.Identifier
import Mathlib.Data.List.TakeDrop
import Mathlib.Data.String.Basic

/-!
Identifiers: what is read is valid. Their order: namespaces decide, paths break their ties, and it is
total.
-/
namespace Fortune.Identifier

theorem fault?_eq_none_iff (id : Identifier) : fault? id.scope id.path = none ↔ id.Valid := by
  unfold fault? Valid
  by_cases bare : id.scope = ""
  · simp [bare]
  by_cases bare' : id.path = ""
  · simp [bare, bare']
  simp only [String.isEmpty_iff, bare, bare', if_false]
  constructor
  · intro clean
    split at clean
    · cases clean
    · cases clean
    · rename_i scope path
      simp only [List.find?_eq_none, Bool.not_eq_true', Bool.not_eq_false] at scope path
      exact ⟨bare, bare', scope, path⟩
  · rintro ⟨_, _, scope, path⟩
    have plain : id.scope.toList.find? (!isScopeChar ·) = none := by simpa using scope
    have plain' : id.path.toList.find? (!isPathChar ·) = none := by simpa using path
    rw [plain, plain']

theorem ofParts_eq_ok_iff {scope path : String} {id : Identifier} :
    ofParts scope path = .ok id ↔ id = ⟨scope, path⟩ ∧ id.Valid := by
  rw [← fault?_eq_none_iff]
  unfold ofParts
  constructor
  · intro made
    split at made
    · cases made
    · rename_i clean
      cases made
      exact ⟨rfl, clean⟩
  · rintro ⟨rfl, clean⟩
    rw [clean]

theorem valid_of_parse {text : String} {id : Identifier} (h : parse text = .ok id) : id.Valid := by
  unfold parse at h
  split at h
  · exact (ofParts_eq_ok_iff.mp h).2
  · exact (ofParts_eq_ok_iff.mp h).2

/-- No character of an identifier has a meaning in templates but for digits, points and hyphens. -/
theorem chars_of_parse {text : String} {name : Identifier} (h : parse text = .ok name) :
    ∀ c ∈ text.toList, isPathChar c = true ∨ c = ':' := by
  unfold parse at h
  split at h
  · rename_i scope path split
    obtain ⟨rfl, valid⟩ := ofParts_eq_ok_iff.mp h
    obtain ⟨_, _, inScope, inPath⟩ := valid
    simp only [String.toList_ofList] at inScope inPath
    have whole := List.takeWhile_append_dropWhile (p := (· != ':')) (l := text.toList)
    rw [List.span_eq_takeWhile_dropWhile, Prod.mk.injEq] at split
    rw [split.1, split.2] at whole
    intro c inside
    rw [← whole] at inside
    rcases List.mem_append.mp inside with front | behind
    · have := inScope c front
      simp [isPathChar, this]
    · rcases List.mem_cons.mp behind with colon | behind
      · exact Or.inr colon
      · exact Or.inl (inPath c behind)
  · obtain ⟨rfl, valid⟩ := ofParts_eq_ok_iff.mp h
    exact fun c inside => Or.inl (valid.2.2.2 c inside)

theorem lt_iff {a b : Identifier} :
    a < b ↔ a.scope < b.scope ∨ a.scope = b.scope ∧ a.path < b.path := by
  change a.before b = true ↔ _
  simp [before]

instance : IsStrictTotalOrder Identifier (· < ·) where
  irrefl a := by
    rw [lt_iff]
    rintro (less | ⟨_, less⟩)
    · exact lt_irrefl a.scope less
    · exact lt_irrefl a.path less
  trans a b c := by
    rw [lt_iff, lt_iff, lt_iff]
    rintro (first | ⟨same, first⟩) (second | ⟨same', second⟩)
    · exact Or.inl (first.trans second)
    · exact Or.inl (same' ▸ first)
    · exact Or.inl (same ▸ second)
    · exact Or.inr ⟨same.trans same', first.trans second⟩
  trichotomous a b notLess notMore := by
    rw [lt_iff, not_or] at notLess notMore
    have scopes : a.scope = b.scope := le_antisymm (not_lt.mp notMore.1) (not_lt.mp notLess.1)
    have paths : a.path = b.path := by
      refine le_antisymm ?_ ?_
      · exact not_lt.mp fun more => notMore.2 ⟨scopes.symm, more⟩
      · exact not_lt.mp fun less => notLess.2 ⟨scopes, less⟩
    cases a
    cases b
    exact congrArg₂ Identifier.mk scopes paths

end Fortune.Identifier
