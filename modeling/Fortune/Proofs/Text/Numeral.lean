import Fortune.Text.Numeral

/-!
Numerals at the front of a text. A scan finds a well-formed numeral, and finds it exactly where the
text does not go on with more of it.
-/
namespace Fortune.Text

/-- What follows continues neither the digits of the numeral nor, by a point and a digit, a numeral
without a fraction. -/
def Numeral.Ends (n : Numeral) (rest : List Char) : Prop :=
  rest.takeWhile isDigit = [] ∧
    (n.fraction = [] → ∀ more, rest = '.' :: more → more.takeWhile isDigit = [])

theorem dropWhile_of_takeWhile_nil {α : Type} {p : α → Bool} {l : List α}
    (h : l.takeWhile p = []) : l.dropWhile p = l := by
  have whole := List.takeWhile_append_dropWhile (p := p) (l := l)
  rw [h] at whole
  exact whole

theorem takeWhile_dropWhile {α : Type} (p : α → Bool) (l : List α) :
    (l.dropWhile p).takeWhile p = [] := by
  induction l with
  | nil => rfl
  | cons a l ih =>
      by_cases h : p a = true
      · rw [List.dropWhile_cons_of_pos h, ih]
      · rw [List.dropWhile_cons_of_neg h, List.takeWhile_cons_of_neg h]

/-- A run that stops where the rest begins is cut off whole. -/
theorem span_run {α : Type} {p : α → Bool} {run rest : List α} (all : ∀ a ∈ run, p a = true)
    (stop : rest.takeWhile p = []) :
    (run ++ rest).takeWhile p = run ∧ (run ++ rest).dropWhile p = rest := by
  constructor
  · rw [List.takeWhile_append_of_pos all, stop, List.append_nil]
  · rw [List.dropWhile_append_of_pos all, dropWhile_of_takeWhile_nil stop]

theorem isDigit_point : isDigit '.' = false := by decide

theorem isToken_of_isAlphanumeric {c : Char} (h : isAlphanumeric c = true) : isToken c = true := by
  simp [isToken, h]

theorem isAlphanumeric_of_isDigit {c : Char} (h : isDigit c = true) : isAlphanumeric c = true := by
  have range : '0' ≤ c ∧ c ≤ '9' := by simpa [isDigit] using h
  have small : c.toNat < 128 := by
    have top : c.toNat ≤ '9'.toNat := range.2
    exact Nat.lt_of_le_of_lt top (by decide)
  have joined : c ≠ '_' := by
    rintro rfl
    cases h
  simp [isAlphanumeric, isAsciiWord, small, h, joined]

namespace Numeral

theorem WellFormed.text_cons {n : Numeral} (h : n.WellFormed) :
    ∃ c rest, n.text = c :: rest ∧ isDigit c = true := by
  obtain ⟨whole, fraction⟩ := n
  obtain ⟨some, digits, _⟩ := h
  cases whole with
  | nil => exact absurd rfl some
  | cons c rest =>
      have first : isDigit c = true := digits c List.mem_cons_self
      by_cases empty : fraction.isEmpty = true
      · exact ⟨c, rest, by simp [text, empty], first⟩
      · exact ⟨c, rest ++ '.' :: fraction, by simp [text, empty], first⟩

theorem Ends.of_head {n : Numeral} {rest : List Char}
    (h : ∀ c more, rest = c :: more → isDigit c = false ∧ c ≠ '.') : n.Ends rest := by
  cases rest with
  | nil => exact ⟨rfl, fun _ more same => by cases same⟩
  | cons c more =>
      obtain ⟨digit, point⟩ := h c more rfl
      refine ⟨List.takeWhile_cons_of_neg (by simp [digit]), ?_⟩
      intro _ other same
      exact absurd (List.cons.inj same).1 point

theorem scan_sound {text rest : List Char} {n : Numeral} (h : scan text = some (n, rest)) :
    n.WellFormed ∧ text = n.text ++ rest ∧ n.Ends rest := by
  have split := List.takeWhile_append_dropWhile (p := isDigit) (l := text)
  have stop := takeWhile_dropWhile isDigit text
  have digits : ∀ c ∈ text.takeWhile isDigit, isDigit c = true :=
    List.all_eq_true.mp List.all_takeWhile
  unfold scan at h
  simp only at h
  split at h
  · cases h
  · rename_i some
    have nonempty : text.takeWhile isDigit ≠ [] := by simpa using some
    split at h
    · rename_i more point
      split at h
      · rename_i none
        cases h
        have stop' : more.takeWhile isDigit = [] := by simpa using none
        refine ⟨⟨nonempty, digits, fun c hc => absurd hc List.not_mem_nil⟩, split.symm, stop, ?_⟩
        intro _ other same
        rw [point] at same
        obtain rfl := (List.cons.inj same).2
        exact stop'
      · rename_i someFraction
        cases h
        have fraction : more.takeWhile isDigit ≠ [] := by simpa using someFraction
        refine ⟨⟨nonempty, digits, List.all_eq_true.mp List.all_takeWhile⟩, ?_,
          takeWhile_dropWhile isDigit more, fun none => absurd none fraction⟩
        have split' := List.takeWhile_append_dropWhile (p := isDigit) (l := more)
        rw [Numeral.text, if_neg someFraction, List.append_assoc, List.cons_append, split',
          ← point, split]
    · rename_i noPoint
      cases h
      refine ⟨⟨nonempty, digits, fun c hc => absurd hc List.not_mem_nil⟩, split.symm, stop, ?_⟩
      intro _ more point
      exact absurd point (noPoint more)

theorem scan_complete {n : Numeral} (formed : n.WellFormed) {rest : List Char}
    (ends : n.Ends rest) : scan (n.text ++ rest) = some (n, rest) := by
  obtain ⟨whole, fraction⟩ := n
  obtain ⟨some, digits, digits'⟩ := formed
  obtain ⟨stop, stop'⟩ := ends
  simp only at some digits digits' stop'
  have nonempty : whole.isEmpty = false := List.isEmpty_eq_false_iff.mpr some
  cases fraction with
  | nil =>
      obtain ⟨run, after⟩ := span_run digits stop
      change scan (whole ++ rest) = _
      simp only [scan, run, after, nonempty, Bool.false_eq_true, if_false]
      split
      · rename_i more
        have none : more.takeWhile isDigit = [] := stop' rfl more rfl
        simp [none]
      · rfl
  | cons d fraction =>
      have point : ('.' :: (d :: fraction ++ rest)).takeWhile isDigit = [] := by
        simp [isDigit_point]
      obtain ⟨run, after⟩ := span_run digits point
      obtain ⟨run', after'⟩ := span_run digits' stop
      have spelled : text ⟨whole, d :: fraction⟩ ++ rest =
          whole ++ '.' :: (d :: fraction ++ rest) := by
        simp [text]
      rw [spelled]
      simp only [scan, run, after, nonempty, run', after', List.isEmpty_cons, Bool.false_eq_true,
        if_false]

theorem scan_eq_none_iff {text : List Char} :
    scan text = none ↔ text.takeWhile isDigit = [] := by
  unfold scan
  dsimp only
  rw [← List.isEmpty_iff]
  split
  · simp_all
  · split
    · split <;> simp_all
    · simp_all

theorem scan_whole {text rest : List Char} {n : Numeral} (h : scan text = some (n, rest)) :
    n.whole = text.takeWhile isDigit := by
  simp only [scan] at h
  split at h
  · cases h
  · split at h
    · split at h
      · cases h
        rfl
      · cases h
        rfl
    · cases h
      rfl

theorem length_whole_le (n : Numeral) : n.whole.length ≤ n.text.length := by
  unfold text
  split
  · exact Nat.le_refl _
  · simp

/-- What follows can make the numeral longer, but not shorter. -/
theorem WellFormed.scan_covers {n : Numeral} (formed : n.WellFormed) (rest : List Char) :
    ∃ m more, scan (n.text ++ rest) = some (m, more) ∧ n.text.length ≤ m.text.length := by
  obtain ⟨whole, fraction⟩ := n
  obtain ⟨some, digits, digits'⟩ := formed
  simp only at some digits digits'
  cases fraction with
  | nil =>
      change ∃ m more, scan (whole ++ rest) = .some (m, more) ∧ whole.length ≤ m.text.length
      have front : (whole ++ rest).takeWhile isDigit = whole ++ rest.takeWhile isDigit :=
        List.takeWhile_append_of_pos digits
      cases seen : scan (whole ++ rest) with
      | none =>
          rw [scan_eq_none_iff, front] at seen
          exact absurd (List.append_eq_nil_iff.mp seen).1 some
      | some found =>
          obtain ⟨m, more⟩ := found
          refine ⟨m, more, rfl, ?_⟩
          have longer := m.length_whole_le
          rw [scan_whole seen, front, List.length_append] at longer
          omega
  | cons d fraction =>
      let m : Numeral := ⟨whole, d :: fraction ++ rest.takeWhile isDigit⟩
      have formed : m.WellFormed := by
        refine ⟨some, digits, ?_⟩
        intro c inside
        rcases List.mem_append.mp inside with own | later
        · exact digits' c own
        · exact List.all_eq_true.mp List.all_takeWhile c later
      have ends : m.Ends (rest.dropWhile isDigit) :=
        ⟨takeWhile_dropWhile isDigit rest, fun none => by cases none⟩
      have spelled : text ⟨whole, d :: fraction⟩ ++ rest = m.text ++ rest.dropWhile isDigit := by
        simp [text, m]
      refine ⟨m, rest.dropWhile isDigit, ?_, ?_⟩
      · rw [spelled]
        exact scan_complete formed ends
      · simp [text, m]

end Numeral

/-- The text is not empty, and its last character is a digit. -/
def EndsInDigit (text : List Char) : Prop := ∃ front d, text = front ++ [d] ∧ isDigit d = true

theorem EndsInDigit.behind {text : List Char} (h : EndsInDigit text) (front : List Char) :
    EndsInDigit (front ++ text) := by
  obtain ⟨before, d, rfl, digit⟩ := h
  exact ⟨front ++ before, d, (List.append_assoc _ _ _).symm, digit⟩

theorem endsInDigit_of_digits {digits : List Char} (some : digits ≠ [])
    (all : ∀ c ∈ digits, isDigit c = true) : EndsInDigit digits :=
  ⟨digits.dropLast, digits.getLast some, (List.dropLast_concat_getLast some).symm,
    all _ (List.getLast_mem some)⟩

theorem Numeral.WellFormed.endsInDigit {n : Numeral} (h : n.WellFormed) : EndsInDigit n.text := by
  obtain ⟨some, digits, digits'⟩ := h
  unfold Numeral.text
  split
  · exact endsInDigit_of_digits some digits
  · rename_i fraction
    have some' : n.fraction ≠ [] := by simpa using fraction
    rw [List.append_cons]
    exact (endsInDigit_of_digits some' digits').behind _

theorem Numeral.WellFormed.digit_or_point {n : Numeral} (h : n.WellFormed) :
    ∀ c ∈ n.text, isDigit c = true ∨ c = '.' := by
  obtain ⟨_, digits, digits'⟩ := h
  intro c inside
  unfold Numeral.text at inside
  split at inside
  · exact .inl (digits c inside)
  · rcases List.mem_append.mp inside with whole | behind
    · exact .inl (digits c whole)
    · rcases List.mem_cons.mp behind with point | fraction
      · exact .inr point
      · exact .inl (digits' c fraction)

namespace SignedNumeral

theorem endsInDigit {n : SignedNumeral} (formed : n.magnitude.WellFormed) :
    EndsInDigit n.text := by
  unfold SignedNumeral.text
  split
  · exact formed.endsInDigit.behind ['-']
  · exact formed.endsInDigit

theorem scan_minus (text : List Char) :
    scan ('-' :: text) = (Numeral.scan text).map fun (n, more) => (⟨true, n⟩, more) := rfl

theorem scan_plain {c : Char} (plain : c ≠ '-') (text : List Char) :
    scan (c :: text) = (Numeral.scan (c :: text)).map fun (n, more) => (⟨false, n⟩, more) := by
  unfold scan
  split
  · rename_i same
    exact absurd (List.cons.inj same).1 plain
  · rfl

theorem scan_unsigned {n : Numeral} (formed : n.WellFormed) (rest : List Char) :
    scan (n.text ++ rest) =
      (Numeral.scan (n.text ++ rest)).map fun (n, more) => (⟨false, n⟩, more) := by
  obtain ⟨c, tail, spelled, digit⟩ := formed.text_cons
  rw [spelled, List.cons_append]
  refine scan_plain ?_ _
  rintro rfl
  exact absurd digit (by decide)

theorem scan_eq_some_iff {text rest : List Char} {n : SignedNumeral} :
    scan text = some (n, rest) ↔
      n.magnitude.WellFormed ∧ text = n.text ++ rest ∧ n.magnitude.Ends rest := by
  constructor
  · intro h
    unfold scan at h
    split at h
    · obtain ⟨⟨m, more⟩, seen, made⟩ := Option.map_eq_some_iff.mp h
      cases made
      obtain ⟨formed, rfl, ends⟩ := Numeral.scan_sound seen
      exact ⟨formed, rfl, ends⟩
    · obtain ⟨⟨m, more⟩, seen, made⟩ := Option.map_eq_some_iff.mp h
      cases made
      exact Numeral.scan_sound seen
  · rintro ⟨formed, rfl, ends⟩
    obtain ⟨negative, m⟩ := n
    have seen := Numeral.scan_complete formed ends
    cases negative with
    | true =>
        change scan ('-' :: (m.text ++ rest)) = _
        rw [scan_minus, seen]
        rfl
    | false =>
        change scan (m.text ++ rest) = _
        rw [scan_unsigned formed, seen]
        rfl

theorem scan_sound {text rest : List Char} {n : SignedNumeral} (h : scan text = some (n, rest)) :
    text = n.text ++ rest ∧ EndsInDigit n.text := by
  obtain ⟨formed, split, _⟩ := scan_eq_some_iff.mp h
  exact ⟨split, endsInDigit formed⟩

theorem scan_covers {n : SignedNumeral} (formed : n.magnitude.WellFormed) (rest : List Char) :
    ∃ m more, scan (n.text ++ rest) = some (m, more) ∧ n.text.length ≤ m.text.length := by
  obtain ⟨negative, n⟩ := n
  obtain ⟨m, more, seen, longer⟩ := formed.scan_covers rest
  cases negative with
  | true =>
      refine ⟨⟨true, m⟩, more, ?_, Nat.succ_le_succ longer⟩
      change scan ('-' :: (n.text ++ rest)) = _
      rw [scan_minus, seen]
      rfl
  | false =>
      refine ⟨⟨false, m⟩, more, ?_, longer⟩
      change scan (n.text ++ rest) = _
      rw [scan_unsigned formed, seen]
      rfl

end SignedNumeral

end Fortune.Text
