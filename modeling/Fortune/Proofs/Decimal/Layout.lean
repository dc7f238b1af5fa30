import Fortune.Decimal.Layout
import Fortune.Proofs.Text.Numeral

/-!
The characters of a number that is written without an exponent: letters, digits and points, and
behind a minus nothing else.
-/
namespace Fortune.Decimal
open Text

theorem isDigit_natText (n : Nat) : ∀ c ∈ natText n, isDigit c = true := by
  intro c inside
  have digit : c.isDigit = true := Nat.isDigit_of_mem_toDigits (by decide) (Nat.le_refl 10) inside
  simpa [Char.isDigit, isDigit, Char.le_def, UInt32.le_iff_toNat_le] using digit

theorem ofList_natText (n : Nat) : String.ofList (natText n) = toString n := rfl

theorem ofList_intText (n : Int) : String.ofList (intText n) = toString n := by
  cases n with
  | ofNat n => rfl
  | negSucc n =>
      change String.ofList (['-'] ++ natText (n + 1)) = "-" ++ String.ofList (natText (n + 1))
      exact String.ofList_append

theorem isToken_natText (n : Nat) : ∀ c ∈ natText n, isToken c = true :=
  fun c inside => isToken_of_isAlphanumeric (isAlphanumeric_of_isDigit (isDigit_natText n c inside))

theorem isToken_positionalText (pointZero : Bool) (d : Scaled) :
    ∀ c ∈ positionalText pointZero d, isToken c = true := by
  intro c inside
  have zero : isToken '0' = true := by decide
  have point : isToken '.' = true := by decide
  have digits := isToken_natText d.digits
  unfold positionalText at inside
  dsimp only at inside
  split at inside
  · simp only [List.mem_append, List.mem_replicate] at inside
    rcases inside with (own | ⟨_, rfl⟩) | behind
    · exact digits c own
    · exact zero
    · cases pointZero with
      | false => cases behind
      | true =>
          rcases List.mem_cons.mp behind with rfl | behind
          · exact point
          · rw [List.mem_singleton.mp behind]
            exact zero
  · split at inside
    · rcases List.mem_append.mp inside with whole | fraction
      · exact digits c (List.mem_of_mem_take whole)
      · rcases List.mem_cons.mp fraction with rfl | own
        · exact point
        · exact digits c (List.mem_of_mem_drop own)
    · simp only [List.cons_append, List.mem_cons, List.mem_append, List.mem_replicate] at inside
      rcases inside with rfl | rfl | ⟨_, rfl⟩ | own
      · exact zero
      · exact point
      · exact zero
      · exact digits c own

/-- The text of a float, and whether there is a minus in front of it. -/
theorem floatText_tokens (x : Float) :
    ∃ magnitude, (∀ c ∈ magnitude, isToken c = true) ∧
      (floatText x = magnitude ∨ floatText x = '-' :: magnitude) := by
  unfold floatText Layout.text
  split
  · exact ⟨['N', 'a', 'N'], List.all_eq_true.mp (by decide), Or.inl rfl⟩
  · refine ⟨['i', 'n', 'f'], List.all_eq_true.mp (by decide), ?_⟩
    split
    · exact Or.inr rfl
    · exact Or.inl rfl
  · rename_i negative m q _
    refine ⟨if m == 0 then ['0'] else
      positionalText false ((Positive.ofParts m q).shortest .away), ?_, ?_⟩
    · split
      · exact List.all_eq_true.mp (by decide)
      · exact isToken_positionalText _ _
    · cases negative
      · exact Or.inl rfl
      · exact Or.inr rfl

theorem not_mem_floatText {mark : Char} (apart : isToken mark = false) (plain : mark ≠ '-')
    (x : Float) : mark ∉ floatText x := by
  obtain ⟨magnitude, tokens, shape⟩ := floatText_tokens x
  have bare : mark ∉ magnitude := fun inside => by simp [tokens mark inside] at apart
  rcases shape with shape | shape
  · rw [shape]
    exact bare
  · rw [shape]
    simp [plain, bare]

theorem not_mem_intText {mark : Char} (apart : isToken mark = false) (plain : mark ≠ '-')
    (n : Int) : mark ∉ intText n := by
  have bare (n : Nat) : mark ∉ natText n := fun inside => by
    simp [isToken_natText n mark inside] at apart
  cases n with
  | ofNat n => exact bare n
  | negSucc n => simp [intText, plain, bare]

end Fortune.Decimal
