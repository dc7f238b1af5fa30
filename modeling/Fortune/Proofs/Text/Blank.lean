import Fortune.Proofs.Text.Numeral
import Fortune.Text.Blank
import Mathlib.Data.List.TakeDrop

/-!
Blanks around a text. Trimming takes off all of them, and leaves a text without blanks as it is; no
character of a number is a blank.
-/
namespace Fortune.Text

theorem token_solid {c : Char} (token : isToken c = true) : isBlank c = false := by
  rw [← Bool.not_eq_true, isBlank, inRanges_iff]
  rintro ⟨r, found, low, high⟩
  have all : ∀ r ∈ blankRanges, ∀ n ∈ List.range' r.1 (r.2 + 1 - r.1),
      isToken (Char.ofNat n) = false := by decide +kernel
  have blank := all r found c.toNat (List.mem_range'_1.mpr ⟨low, by omega⟩)
  rw [Char.ofNat_toNat, token] at blank
  cases blank

theorem digit_solid {c : Char} (digit : isDigit c = true) : isBlank c = false :=
  token_solid (isToken_of_isAlphanumeric (isAlphanumeric_of_isDigit digit))

theorem dropWhile_blanks {blanks text : List Char} (blank : ∀ c ∈ blanks, isBlank c = true)
    (solid : ∀ c ∈ text.head?, isBlank c = false) :
    (blanks ++ text).dropWhile isBlank = text := by
  rw [List.dropWhile_append_of_pos blank]
  cases text with
  | nil => rfl
  | cons c text => exact List.dropWhile_cons_of_neg (by simp [solid c rfl])

/-- Blanks before and behind a text. -/
structure Margin where
  before : List Char
  after : List Char
  before_blank : ∀ c ∈ before, isBlank c = true
  after_blank : ∀ c ∈ after, isBlank c = true

namespace Margin

def around (m : Margin) (text : List Char) : List Char := m.before ++ text ++ m.after

def none : Margin := ⟨[], [], List.forall_mem_nil _, List.forall_mem_nil _⟩

theorem around_none (text : List Char) : none.around text = text :=
  List.append_nil text

theorem trim_around (m : Margin) {text : List Char}
    (solid : ∀ c ∈ text, isBlank c = false) : trim (m.around text) = text := by
  cases text with
  | nil =>
      have blank : ∀ c ∈ m.before ++ m.after, isBlank c = true := by
        intro c hc
        rcases List.mem_append.mp hc with hc | hc
        · exact m.before_blank c hc
        · exact m.after_blank c hc
      rw [around, List.append_nil, trim, ← List.append_nil (m.before ++ m.after),
        dropWhile_blanks blank (by simp)]
      rfl
  | cons c text =>
      rw [around, List.append_assoc, trim, dropWhile_blanks m.before_blank, List.reverse_append,
        dropWhile_blanks, List.reverse_reverse]
      · intro d hd
        exact m.after_blank d (List.mem_reverse.mp hd)
      · intro d hd
        exact solid d (List.mem_reverse.mp (List.mem_of_head? hd))
      · rintro d hd
        cases hd
        exact solid c List.mem_cons_self

theorem not_mem_around (m : Margin) {mark : Char} (solid : isBlank mark = false)
    {text : List Char} (absent : mark ∉ text) : mark ∉ m.around text := by
  have apart {c : Char} (blank : isBlank c = true) : mark ≠ c := by
    rintro rfl
    rw [solid] at blank
    cases blank
  simp only [around, List.mem_append, not_or]
  exact ⟨⟨fun h => apart (m.before_blank _ h) rfl, absent⟩, fun h => apart (m.after_blank _ h) rfl⟩

end Margin

/-- A text without blanks is left as it is. -/
theorem trim_of_solid {text : List Char} (solid : ∀ c ∈ text, isBlank c = false) :
    trim text = text := by
  have trimmed := Margin.none.trim_around solid
  rwa [Margin.around_none] at trimmed

end Fortune.Text
