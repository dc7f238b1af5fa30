import Fortune.Proofs.Text.Numeral
import Fortune.Proofs.Text.Pieces
import Fortune.Template.Resolve

/-!
What the scans of a template find. Placeholders and calls are found as they are spelled; all names
of functions begin alike, so a text that does not spell their common beginning has no calls.
-/
namespace Fortune.Template
open Text

def IsName (name : List Char) : Prop := name ≠ [] ∧ ∀ c ∈ name, isWord c = true

def spelledPlaceholder (name : List Char) : List Char := '\x7b' :: name ++ ['\x7d']

/-- There is a placeholder with such a name in the text. -/
def SpellsPlaceholder (such : List Char → Prop) (text : List Char) : Prop :=
  ∃ name, such name ∧ spelledPlaceholder name <:+: text

theorem unfilled_of_unbraced {such : List Char → Prop} {text : List Char} (h : '\x7b' ∉ text) :
    ¬SpellsPlaceholder such text := by
  rintro ⟨name, _, inside⟩
  exact h (inside.subset List.mem_cons_self)

theorem spelledPlaceholder_ne_nil (name : List Char) : spelledPlaceholder name ≠ [] :=
  List.cons_ne_nil _ _

theorem placeholder?_spells : placeholder?.Spells IsName spelledPlaceholder := by
  intro before text name lexeme
  constructor
  · intro h
    unfold placeholder? at h
    split at h
    · rename_i rest
      dsimp only at h
      split at h
      · rename_i after closed
        split at h
        · cases h
        · rename_i some
          cases h
          refine ⟨⟨by simpa using some, List.all_eq_true.mp List.all_takeWhile⟩, rfl, after, ?_⟩
          have whole := List.takeWhile_append_dropWhile (p := isWord) (l := rest)
          rw [closed] at whole
          simpa using whole
      · cases h
    · cases h
  · rintro ⟨⟨some, words⟩, rfl, after, rfl⟩
    have stop : ('\x7d' :: after).takeWhile isWord = [] := rfl
    obtain ⟨run, rest⟩ := span_run words stop
    have spelled : spelledPlaceholder name ++ after = '\x7b' :: (name ++ '\x7d' :: after) := by
      simp [spelledPlaceholder]
    rw [spelled]
    simp [placeholder?, run, rest, some, spelledPlaceholder]

theorem placeholder?_honest : placeholder?.Honest :=
  placeholder?_spells.honest spelledPlaceholder_ne_nil

theorem callOf?_eq_some_iff {f : Function} {text lexeme : List Char} {call : Call} :
    callOf? f text = some (call, lexeme) ↔ ∃ inside behind,
      text = f.name.toList ++ '(' :: inside ++ ')' :: behind ∧
      (∀ c ∈ inside, isParenthesis c = false) ∧ call = ⟨f, inside⟩ ∧
      lexeme = f.name.toList ++ '(' :: inside ++ [')'] := by
  constructor
  · intro h
    unfold callOf? at h
    dsimp only at h
    split at h
    · rename_i named
      obtain ⟨tail, rfl⟩ := List.isPrefixOf_iff_prefix.mp named
      rw [List.drop_left] at h
      split at h
      · rename_i rest
        split at h
        · rename_i behind closed
          cases h
          have whole := List.takeWhile_append_dropWhile (p := (!isParenthesis ·)) (l := rest)
          rw [closed] at whole
          refine ⟨rest.takeWhile (!isParenthesis ·), behind, ?_, ?_, rfl, rfl⟩
          · rw [List.append_assoc, List.cons_append, whole]
          · intro c inside
            simpa using List.all_eq_true.mp List.all_takeWhile c inside
        · cases h
      · cases h
    · cases h
  · rintro ⟨inside, behind, rfl, bare, rfl, rfl⟩
    have plain : ∀ c ∈ inside, (!isParenthesis c) = true := fun c h => by simp [bare c h]
    have stop : (')' :: behind).takeWhile (!isParenthesis ·) = [] := rfl
    obtain ⟨run, after⟩ := span_run plain stop
    have front : f.name.toList.isPrefixOf
        (f.name.toList ++ '(' :: inside ++ ')' :: behind) = true := by
      rw [List.isPrefixOf_iff_prefix, List.append_assoc]
      exact List.prefix_append _ _
    simp only [callOf?, front, if_true]
    rw [List.append_assoc, List.drop_left, List.cons_append]
    simp only [run, after]

theorem callOf?_sound {f : Function} {text lexeme : List Char} {call : Call}
    (h : callOf? f text = some (call, lexeme)) :
    (∃ behind, lexeme = f.name.toList ++ '(' :: behind) ∧ lexeme <+: text := by
  obtain ⟨inside, behind, rfl, _, _, rfl⟩ := callOf?_eq_some_iff.mp h
  exact ⟨⟨_, List.append_assoc _ _ _⟩, behind, by simp⟩

theorem call?_sound {before : Option Char} {text lexeme : List Char} {call : Call}
    (h : call? before text = some (call, lexeme)) :
    ∃ f, callOf? f text = some (call, lexeme) := by
  unfold call? at h
  split at h
  · cases h
  · obtain ⟨f, _, here⟩ := List.exists_of_findSome?_eq_some h
    exact ⟨f, here⟩

theorem call?_honest : call?.Honest := by
  intro before text call lexeme h
  obtain ⟨f, here⟩ := call?_sound h
  obtain ⟨⟨behind, rfl⟩, front⟩ := callOf?_sound here
  exact ⟨by simp, front⟩

theorem random_prefix_name (f : Function) : "random".toList <+: f.name.toList := by
  cases f <;> decide

theorem callFree_of_not_random {text : List Char} (h : ¬"random".toList <:+: text) :
    hasCall text = false := by
  rw [hasCall, List.any_eq_false]
  intro piece inside found
  cases piece with
  | plain c => cases found
  | found call lexeme =>
      obtain ⟨before, rest, seen⟩ := recognised_of_mem inside
      obtain ⟨f, here⟩ := call?_sound seen
      obtain ⟨⟨behind, spelled⟩, _⟩ := callOf?_sound here
      have front : f.name.toList <+: lexeme := ⟨_, spelled.symm⟩
      exact h (((random_prefix_name f).trans front).isInfix.trans
        (lexeme_infix_of_mem call?_honest inside))

def quotedNumeral (n : SignedNumeral) : List Char := '"' :: n.text ++ ['"']

/-- There is a quoted numeral in the text. -/
def SpellsQuotedNumeral (text : List Char) : Prop :=
  ∃ n : SignedNumeral, n.magnitude.WellFormed ∧ quotedNumeral n <:+: text

theorem quotedNumeral_ne_nil (n : SignedNumeral) : quotedNumeral n ≠ [] := List.cons_ne_nil _ _

theorem quotedNumeral?_spells :
    quotedNumeral?.Spells (fun n => n.magnitude.WellFormed) quotedNumeral := by
  intro before text n lexeme
  constructor
  · intro h
    unfold quotedNumeral? at h
    split at h
    · split at h
      · rename_i after seen
        cases h
        obtain ⟨formed, rfl, _⟩ := SignedNumeral.scan_eq_some_iff.mp seen
        exact ⟨formed, rfl, after, by simp⟩
      · cases h
    · cases h
  · rintro ⟨formed, rfl, after, rfl⟩
    have ends : n.magnitude.Ends ('"' :: after) := by
      apply Numeral.Ends.of_head
      intro c more same
      obtain rfl : '"' = c := (List.cons.inj same).1
      decide
    have seen := SignedNumeral.scan_eq_some_iff.mpr ⟨formed, rfl, ends⟩
    rw [quotedNumeral, List.cons_append, List.cons_append, List.append_assoc]
    simp [quotedNumeral?, seen]

theorem quotedNumeral?_honest : quotedNumeral?.Honest :=
  quotedNumeral?_spells.honest quotedNumeral_ne_nil

theorem unquote_of_unquoted {text : List Char} (h : ¬SpellsQuotedNumeral text) :
    unquote text = text :=
  quotedNumeral?_spells.replaceFound_absent (m := Id) quotedNumeral_ne_nil _ h

theorem unquoted_of_quoteless {text : List Char} (h : '"' ∉ text) : ¬SpellsQuotedNumeral text := by
  rintro ⟨n, _, inside⟩
  exact h (inside.subset List.mem_cons_self)

theorem unquote_of_quoteless {text : List Char} (h : '"' ∉ text) : unquote text = text :=
  unquote_of_unquoted (unquoted_of_quoteless h)

end Fortune.Template
