import Fortune.Proofs.Template.Chain

/-!
Words of letters and digits with single hyphens between them. Computing leaves such a text as it
is, unless two or more of its words, from the first on, are numbers and the next one begins with a
letter: then these numbers stand alone as a chain.
-/
namespace Fortune.Template
open Text

def hyphenated : List (List Char) → List Char
  | [] => []
  | word :: words => word ++ words.flatMap ('-' :: ·)

/-- A word: at least one character, and letters and digits only. -/
def IsWord (word : List Char) : Prop := word ≠ [] ∧ ∀ c ∈ word, isAlphanumeric c = true

def IsNumber (word : List Char) : Prop := ∀ c ∈ word, isDigit c = true

/-- The words begin with two numbers or more, and what follows the last of them begins with a
letter. -/
structure LeadingChain (words run rest : List (List Char)) : Prop where
  split : words = run ++ rest
  two : 2 ≤ run.length
  numbers : ∀ word ∈ run, IsNumber word
  letter : ∀ word ∈ rest.head?, ∀ c ∈ word.head?, isDigit c = false

namespace LeadingChain

variable {words run rest : List (List Char)} (h : LeadingChain words run rest)
include h

theorem run_ne_nil : run ≠ [] := List.ne_nil_of_length_pos (Nat.lt_of_lt_of_le (by decide) h.two)

theorem runs_numbers (fit : ∀ word ∈ words, IsWord word) :
    ∀ word ∈ run, word ≠ [] ∧ IsNumber word := by
  intro word inside
  have member : word ∈ words := h.split ▸ List.mem_append_left rest inside
  exact ⟨(fit word member).1, h.numbers word inside⟩

end LeadingChain

theorem hyphenated_append {run : List (List Char)} (some : run ≠ []) (rest : List (List Char)) :
    hyphenated (run ++ rest) = hyphenated run ++ rest.flatMap ('-' :: ·) := by
  cases run with
  | nil => exact absurd rfl some
  | cons word run => simp [hyphenated]

theorem not_mem_behind {mark : Char} (apart : isAlphanumeric mark = false) (plain : mark ≠ '-')
    {words : List (List Char)} (fit : ∀ word ∈ words, IsWord word) :
    mark ∉ words.flatMap ('-' :: ·) := by
  intro inside
  obtain ⟨word, member, here⟩ := List.mem_flatMap.mp inside
  rcases List.mem_cons.mp here with same | within
  · exact plain same
  · exact absurd ((fit word member).2 mark within) (by simp [apart])

theorem not_mem_hyphenated {mark : Char} (apart : isAlphanumeric mark = false)
    (plain : mark ≠ '-') {words : List (List Char)} (fit : ∀ word ∈ words, IsWord word) :
    mark ∉ hyphenated words := by
  cases words with
  | nil => exact List.not_mem_nil
  | cons word words =>
      intro inside
      exact not_mem_behind apart plain fit (List.mem_cons_of_mem '-' inside)

theorem Runs.word {word rest : List Char} (letters : ∀ c ∈ word, isAlphanumeric c = true)
    (runs : Runs rest) : Runs (word ++ rest) := by
  induction word with
  | nil => exact runs
  | cons c word ih =>
      refine .char (letters c List.mem_cons_self) (ih ?_)
      exact fun d inside => letters d (List.mem_cons_of_mem c inside)

theorem runs_behind {words : List (List Char)} (fit : ∀ word ∈ words, IsWord word) :
    Runs (words.flatMap ('-' :: ·)) := by
  induction words with
  | nil => exact .nil
  | cons word words ih =>
      have rest := ih fun other inside => fit other (List.mem_cons_of_mem word inside)
      obtain ⟨some, letters⟩ := fit word List.mem_cons_self
      cases word with
      | nil => exact absurd rfl some
      | cons c word => exact .hyphen (letters c List.mem_cons_self) (rest.word letters)

theorem runs_hyphenated {words : List (List Char)} (fit : ∀ word ∈ words, IsWord word) :
    Runs (hyphenated words) := by
  cases words with
  | nil => exact .nil
  | cons word words =>
      refine (runs_behind fun other inside => ?_).word (fit word List.mem_cons_self).2
      exact fit other (List.mem_cons_of_mem word inside)

/-- Neither a digit nor a point comes next. -/
def Stops (text : List Char) : Prop := ∀ c ∈ text.head?, isDigit c = false ∧ c ≠ '.'

theorem stops_behind (words : List (List Char)) : Stops (words.flatMap ('-' :: ·)) := by
  intro c first
  cases words with
  | nil => cases first
  | cons word words =>
      cases Option.some.inj first
      decide

theorem stops_letter {c : Char} (letter : isAlphanumeric c = true) (digit : isDigit c = false)
    (text : List Char) : Stops (c :: text) := by
  intro d first
  cases Option.some.inj first
  exact ⟨digit, ne_of_isAlphanumeric letter (by decide)⟩

theorem scan_number {word rest : List Char} (some : word ≠ []) (number : IsNumber word)
    (stops : Stops rest) :
    SignedNumeral.scan (word ++ rest) = .some (⟨false, ⟨word, []⟩⟩, rest) := by
  have formed : Numeral.WellFormed ⟨word, []⟩ := ⟨some, number, fun c inside => by cases inside⟩
  have ends : Numeral.Ends ⟨word, []⟩ rest := by
    refine .of_head ?_
    rintro c more rfl
    exact stops c rfl
  have seen := Numeral.scan_complete formed ends
  cases word with
  | nil => exact absurd rfl some
  | cons c word =>
      have plain : c ≠ '-' := by
        rintro rfl
        exact absurd (number '-' List.mem_cons_self) (by decide)
      rw [List.cons_append, SignedNumeral.scan_plain plain]
      exact congrArg (Option.map _) seen

theorem scan_letter {c : Char} (letter : isAlphanumeric c = true) (digit : isDigit c = false)
    (text : List Char) : SignedNumeral.scan (c :: text) = none := by
  rw [SignedNumeral.scan_plain (ne_of_isAlphanumeric letter (by decide))]
  simp [Numeral.scan, digit]

/-- Each number takes one round. -/
theorem chainTail_numbers {run : List (List Char)}
    (numbers : ∀ word ∈ run, word ≠ [] ∧ IsNumber word) {rest : List Char} (stops : Stops rest)
    (fuel : Nat) :
    chainTail (run.length + fuel) (run.flatMap ('-' :: ·) ++ rest) =
      run.flatMap ('-' :: ·) ++ chainTail fuel rest := by
  induction run with
  | nil => simp
  | cons word run ih =>
      obtain ⟨some, number⟩ := numbers word List.mem_cons_self
      have next : Stops (run.flatMap ('-' :: ·) ++ rest) := by
        cases run with
        | nil => exact stops
        | cons other run => exact stops_behind (other :: run)
      have later := ih fun other inside => numbers other (List.mem_cons_of_mem word inside)
      have seen := scan_number some number next
      rw [List.length_cons, Nat.add_right_comm, List.flatMap_cons, List.append_assoc,
        List.cons_append]
      simp only [chainTail, isOperator, seen, later]
      simp [SignedNumeral.text, Numeral.text]

theorem chainTail_letter {words : List (List Char)} (fit : ∀ word ∈ words, IsWord word)
    (letter : ∀ word ∈ words.head?, ∀ c ∈ word.head?, isDigit c = false) (fuel : Nat) :
    chainTail fuel (words.flatMap ('-' :: ·)) = [] := by
  cases fuel with
  | zero => rfl
  | succ fuel =>
      cases words with
      | nil => rfl
      | cons word words =>
          obtain ⟨some, letters⟩ := fit word List.mem_cons_self
          cases word with
          | nil => exact absurd rfl some
          | cons c word =>
              have digit := letter (c :: word) rfl c rfl
              have seen := scan_letter (letters c List.mem_cons_self) digit
              simp [chainTail, seen]

/-- A number and the chain behind it. -/
theorem exists_chainText? {first : List Char} (some : first ≠ []) (number : IsNumber first)
    {run : List (List Char)} (numbers : ∀ word ∈ run, word ≠ [] ∧ IsNumber word)
    (words : List (List Char)) :
    ∃ fuel, words.length ≤ fuel ∧
      let tail := run.flatMap ('-' :: ·) ++ chainTail fuel (words.flatMap ('-' :: ·))
      chainText? (hyphenated (first :: run ++ words)) =
        if tail.isEmpty then none else .some (first ++ tail) := by
  have long (list : List (List Char)) : list.length ≤ (list.flatMap ('-' :: ·)).length := by
    induction list with
    | nil => exact Nat.le_refl _
    | cons word list ih =>
        simp only [List.flatMap_cons, List.length_cons, List.length_append]
        omega
  let fuel := (run.flatMap ('-' :: ·)).length - run.length + (words.flatMap ('-' :: ·)).length
  refine ⟨fuel, Nat.le_trans (long words) (Nat.le_add_left _ _), ?_⟩
  have total : ((run ++ words).flatMap ('-' :: ·)).length = run.length + fuel := by
    have := long run
    rw [List.flatMap_append, List.length_append]
    omega
  have seen := scan_number some number (stops_behind (run ++ words))
  have rounds := chainTail_numbers numbers (stops_behind words) fuel
  rw [← List.flatMap_append, ← total] at rounds
  simp only [hyphenated, List.cons_append, chainText?, seen, rounds, SignedNumeral.text,
    Numeral.text, List.isEmpty_nil, Bool.false_eq_true, if_true, if_false]

/-- The chain that the words begin with is found. -/
theorem LeadingChain.found {words run rest : List (List Char)} (h : LeadingChain words run rest)
    (fit : ∀ word ∈ words, IsWord word) :
    chainText? (hyphenated words) = some (hyphenated run) := by
  have own := h.runs_numbers fit
  obtain ⟨rfl, two, numbers, letter⟩ := h
  cases run with
  | nil => cases two
  | cons first run =>
      obtain ⟨some, number⟩ := own first List.mem_cons_self
      obtain ⟨fuel, _, chain⟩ := exists_chainText? some number
        (fun word inside => own word (List.mem_cons_of_mem first inside)) rest
      rw [chain, chainTail_letter (fun word inside => fit word (List.mem_append_right _ inside))
        letter, List.append_nil]
      cases run with
      | nil => exact absurd two (by simp)
      | cons second run => rfl

theorem exists_span {α : Type} (p : α → Bool) (l : List α) :
    ∃ front back, l = front ++ back ∧ (∀ a ∈ front, p a = true) ∧
      ∀ a ∈ back.head?, p a = false := by
  refine ⟨l.takeWhile p, l.dropWhile p, List.takeWhile_append_dropWhile.symm,
    List.all_eq_true.mp List.all_takeWhile, ?_⟩
  intro a first
  have stop := List.head?_dropWhile_not p l
  rw [Option.mem_def.mp first] at stop
  simpa using stop

theorem chainTail_stops {c : Char} (letter : isAlphanumeric c = true) (text : List Char)
    (fuel : Nat) : chainTail fuel (c :: text) = [] := by
  have apart : isOperator c = false := by
    have plain (sign : Char) (mark : isAlphanumeric sign = false) : c ≠ sign :=
      ne_of_isAlphanumeric letter mark
    simp [isOperator, plain '*' (by decide), plain '/' (by decide), plain '+' (by decide),
      plain '-' (by decide)]
  cases fuel with
  | zero => rfl
  | succ fuel => simp [chainTail, apart]

/-- A first word that is no number begins no chain. -/
theorem chainText?_of_letter {front text : List Char} {c : Char} (digits : IsNumber front)
    (letter : isAlphanumeric c = true) (digit : isDigit c = false) :
    chainText? (front ++ c :: text) = none := by
  unfold chainText?
  cases front with
  | nil => rw [List.nil_append, scan_letter letter digit]
  | cons d front =>
      rw [scan_number (List.cons_ne_nil _ _) digits (stops_letter letter digit text)]
      simp [chainTail_stops letter]

/-- A chain that goes on inside a word is part of something longer. -/
theorem chainTail_inside {front : List Char} {c : Char} (some : front ≠ [])
    (digits : IsNumber front) (letter : isAlphanumeric c = true) (digit : isDigit c = false)
    (back text : List Char) {fuel : Nat} (enough : 0 < fuel) :
    chainTail fuel ('-' :: (front ++ c :: back) ++ text) = '-' :: front := by
  obtain ⟨fuel, rfl⟩ := Nat.exists_eq_add_of_le' enough
  have stops := stops_letter letter digit (back ++ text)
  have seen := scan_number some digits stops
  have stopped := chainTail_stops letter (back ++ text) fuel
  rw [List.cons_append, List.append_assoc, List.cons_append]
  simp only [chainTail, isOperator, seen, stopped]
  simp [SignedNumeral.text, Numeral.text]

/-- Up to the first word that is no number: it begins with a letter, or with digits. -/
theorem exists_numbers {words : List (List Char)} (fit : ∀ word ∈ words, IsWord word) :
    ∃ run rest, words = run ++ rest ∧ (∀ word ∈ run, IsNumber word) ∧
      (rest = [] ∨ ∃ front c back others, rest = (front ++ c :: back) :: others ∧
        IsNumber front ∧ isDigit c = false) := by
  obtain ⟨run, rest, rfl, numbers, stop⟩ := exists_span (List.all · isDigit) words
  simp only [List.all_eq_true] at numbers
  refine ⟨run, rest, rfl, numbers, ?_⟩
  cases rest with
  | nil => exact Or.inl rfl
  | cons word others =>
      obtain ⟨front, back, rfl, digits, letter⟩ := exists_span isDigit word
      cases back with
      | nil =>
          have all := List.all_eq_true.mpr digits
          rw [← List.append_nil front, stop _ rfl] at all
          cases all
      | cons c back => exact Or.inr ⟨front, c, back, others, rfl, digits, letter c rfl⟩

/-- A single number before a letter is no chain. -/
theorem compute_short {run rest : List (List Char)} (fit : ∀ word ∈ run ++ rest, IsWord word)
    (numbers : ∀ word ∈ run, IsNumber word) (short : run.length < 2)
    (letter : ∀ word ∈ rest.head?, ∀ c ∈ word.head?, isDigit c = false) :
    compute (hyphenated (run ++ rest)) = .ok (hyphenated (run ++ rest)) := by
  refine compute_unchained (runs_hyphenated fit) ?_
  match run, short with
  | [], _ =>
      cases rest with
      | nil => rfl
      | cons word rest =>
          obtain ⟨some, letters⟩ := fit word List.mem_cons_self
          cases word with
          | nil => exact absurd rfl some
          | cons c word =>
              have digit := letter (c :: word) rfl c rfl
              have none : IsNumber [] := fun c inside => by cases inside
              exact chainText?_of_letter none (letters c List.mem_cons_self) digit
  | [number], _ =>
      obtain ⟨some, _⟩ := fit number List.mem_cons_self
      have bare : ∀ word ∈ ([] : List (List Char)), word ≠ [] ∧ IsNumber word :=
        fun word inside => by cases inside
      obtain ⟨fuel, _, chain⟩ :=
        exists_chainText? some (numbers number List.mem_cons_self) bare rest
      have behind (word : List Char) (inside : word ∈ rest) : IsWord word :=
        fit word (List.mem_cons_of_mem number inside)
      rw [chain, chainTail_letter behind letter]
      rfl

section Inside

variable {run others : List (List Char)} {front back : List Char} {c : Char}
  (fit : ∀ word ∈ run ++ (front ++ c :: back) :: others, IsWord word)
  (numbers : ∀ word ∈ run, IsNumber word) (digits : IsNumber front) (digit : isDigit c = false)
include fit numbers digits digit

/-- A word that begins with digits and goes on with a letter is no number, and the chain that leads
into it is part of something longer. -/
theorem compute_inside (some : front ≠ []) :
    compute (hyphenated (run ++ (front ++ c :: back) :: others)) =
      .ok (hyphenated (run ++ (front ++ c :: back) :: others)) := by
  have runs := runs_hyphenated fit
  have letter : isAlphanumeric c = true := (fit (front ++ c :: back) (by simp)).2 c (by simp)
  cases run with
  | nil =>
      refine compute_unchained runs ?_
      rw [List.nil_append, hyphenated, List.append_assoc]
      exact chainText?_of_letter digits letter digit
  | cons first run =>
      have own (word : List Char) (inside : word ∈ first :: run) : word ≠ [] ∧ IsNumber word :=
        ⟨(fit word (List.mem_append_left _ inside)).1, numbers word inside⟩
      obtain ⟨some', number⟩ := own first List.mem_cons_self
      obtain ⟨fuel, enough, chain⟩ := exists_chainText? some' number
        (fun word inside => own word (List.mem_cons_of_mem first inside))
        ((front ++ c :: back) :: others)
      have goesOn := chainTail_inside some digits letter digit back (others.flatMap ('-' :: ·))
        (Nat.zero_lt_of_lt enough)
      let lexeme := first ++ (run.flatMap ('-' :: ·) ++ '-' :: front)
      have lead : chainText? (hyphenated (first :: run ++ (front ++ c :: back) :: others)) =
          Option.some lexeme := by
        rw [chain, List.flatMap_cons, goesOn]
        simp [lexeme]
      have split : hyphenated (first :: run ++ (front ++ c :: back) :: others) =
          lexeme ++ (c :: back ++ others.flatMap ('-' :: ·)) := by
        simp [hyphenated, lexeme]
      rw [compute_chained runs lead split, List.cons_append, List.head?_cons, Option.any_some,
        isToken_of_isAlphanumeric letter, split]
      rfl

end Inside

/-- Without a leading chain of numbers, computing leaves the words as they are. -/
theorem compute_words {words : List (List Char)} (fit : ∀ word ∈ words, IsWord word)
    (unled : ¬∃ run rest, LeadingChain words run rest) :
    compute (hyphenated words) = .ok (hyphenated words) := by
  obtain ⟨run, rest, rfl, numbers, stop⟩ := exists_numbers fit
  have short (letter : ∀ word ∈ rest.head?, ∀ c ∈ word.head?, isDigit c = false) : run.length < 2 :=
    Nat.lt_of_not_le fun two => unled ⟨run, rest, rfl, two, numbers, letter⟩
  rcases stop with rfl | ⟨front, c, back, others, rfl, digits, digit⟩
  · have letter : ∀ word ∈ ([] : List (List Char)).head?, ∀ c ∈ word.head?, isDigit c = false :=
      fun word inside => by cases inside
    exact compute_short fit numbers (short letter) letter
  · cases front with
    | nil =>
        have letter : ∀ word ∈ (([] ++ c :: back) :: others).head?, ∀ d ∈ word.head?,
            isDigit d = false := by
          intro word head d here
          cases Option.some.inj head
          cases Option.some.inj here
          exact digit
        exact compute_short fit numbers (short letter) letter
    | cons d front => exact compute_inside fit numbers digits digit (List.cons_ne_nil d front)

/-- A leading chain of numbers is computed, and the other words stay. -/
theorem compute_leadingChain {words run rest : List (List Char)}
    (fit : ∀ word ∈ words, IsWord word) (lead : LeadingChain words run rest) :
    compute (hyphenated words) =
      (chainValue false (hyphenated run)).map (· ++ rest.flatMap ('-' :: ·)) := by
  have split := hyphenated_append lead.run_ne_nil rest
  rw [← lead.split] at split
  rw [compute_chained (runs_hyphenated fit) (lead.found fit) split]
  cases rest <;> rfl

end Fortune.Template
