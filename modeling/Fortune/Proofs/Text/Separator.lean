import Fortune.Proofs.Text.Numeral
import Fortune.Proofs.Text.Pieces

/-!
Scans of texts with a separator between them. Where no pattern reaches up to the separator or looks
beyond it, the pieces of the joined text are those of its parts.
-/
namespace Fortune.Text

variable {α : Type} {recognise : Recogniser α} {sep : Char}

/-- Up to the separator a text is read as if it ended there, behind it as if it began there. -/
structure Recogniser.HaltsAt (recognise : Recogniser α) (sep : Char) : Prop where
  empty : ∀ before, recognise before [] = none
  ahead : ∀ before text rest, recognise before (text ++ sep :: rest) = recognise before text
  behind : ∀ text, recognise (some sep) text = recognise none text

theorem piecesFrom_behind (halts : recognise.HaltsAt sep) (text : List Char) :
    piecesFrom recognise 0 (some sep) text = pieces recognise text := by
  cases text with
  | nil => rfl
  | cons c text => rw [pieces, piecesFrom, piecesFrom, halts.behind]

theorem pieces_halt (honest : recognise.Honest) (halts : recognise.HaltsAt sep)
    (text rest : List Char) :
    pieces recognise (text ++ sep :: rest) =
      pieces recognise text ++ .plain sep :: pieces recognise rest := by
  have ahead (before : Option Char) (c : Char) (text : List Char) :
      recognise before (c :: text ++ sep :: rest) = recognise before (c :: text) :=
    halts.ahead before (c :: text) rest
  have none (before : Option Char) : recognise before (sep :: rest) = .none :=
    (halts.ahead before [] rest).trans (halts.empty before)
  rw [pieces, piecesFrom_append honest ahead (Nat.zero_le _), piecesFrom, none,
    piecesFrom_behind halts]
  rfl

/-- Texts with a separator between them are replaced one by one. -/
theorem replaceFound_halt {m : Type → Type} [Monad m] [LawfulMonad m] (honest : recognise.Honest)
    (halts : recognise.HaltsAt sep) (replacement : α → List Char → m (List Char))
    (text rest : List Char) :
    replaceFound replacement (pieces recognise (text ++ sep :: rest)) = do
      let first ← replaceFound replacement (pieces recognise text)
      return first ++ sep :: (← replaceFound replacement (pieces recognise rest)) := by
  rw [pieces_halt honest halts, replaceFound_append]
  simp [replaceFound]

/-- Texts without the separator are found again between the separators. -/
theorem splitOn_intercalate {between : String} (single : between.toList = [sep])
    {texts : List String} (some : texts ≠ []) (plain : ∀ text ∈ texts, sep ∉ text.toList) :
    (between.intercalate texts).toList.splitOn sep = texts.map String.toList := by
  rw [String.toList_intercalate, single]
  refine List.splitOn_intercalate sep ?_ (by simpa using some)
  intro word inside
  obtain ⟨text, member, rfl⟩ := List.mem_map.mp inside
  exact plain text member

theorem length_splitOn (sep : Char) (text : List Char) :
    (text.splitOn sep).length = text.count sep + 1 := by
  induction text with
  | nil => rfl
  | cons c text ih =>
      rw [List.splitOn_cons_eq_if_modifyHead, List.count_cons]
      split
      · rw [List.length_cons, ih]
      · rw [List.length_modifyHead, ih, Nat.add_zero]

theorem not_mem_of_mem_splitOn {text part : List Char} (h : part ∈ text.splitOn sep) :
    sep ∉ part := by
  induction text generalizing part with
  | nil =>
      cases List.mem_singleton.mp h
      exact List.not_mem_nil
  | cons c text ih =>
      rw [List.splitOn_cons_eq_if_modifyHead] at h
      split at h
      · cases h with
        | head => exact List.not_mem_nil
        | tail _ h => exact ih h
      · rename_i other
        obtain ⟨first, parts, split⟩ :=
          List.exists_cons_of_ne_nil (List.splitOn_ne_nil sep text)
        rw [split] at h ih
        cases h with
        | head =>
            rw [List.mem_cons]
            rintro (rfl | inside)
            · exact other (beq_self_eq_true sep)
            · exact ih List.mem_cons_self inside
        | tail _ h => exact ih (List.mem_cons_of_mem first h)

/-! Numerals do not reach beyond a character that is neither a digit nor a point. -/

theorem takeWhile_halt {p : Char → Bool} (stop : p sep = false) (text rest : List Char) :
    (text ++ sep :: rest).takeWhile p = text.takeWhile p := by
  induction text with
  | nil => simp [stop]
  | cons c text ih => simp [List.takeWhile_cons, ih]

theorem dropWhile_halt {p : Char → Bool} (stop : p sep = false) (text rest : List Char) :
    (text ++ sep :: rest).dropWhile p = text.dropWhile p ++ sep :: rest := by
  induction text with
  | nil => simp [stop]
  | cons c text ih =>
      by_cases h : p c = true
      · simp [h, ih]
      · simp [h]

theorem Numeral.Ends.halt {n : Numeral} {text : List Char} (h : n.Ends text)
    (digit : isDigit sep = false) (point : sep ≠ '.') (rest : List Char) :
    n.Ends (text ++ sep :: rest) := by
  refine ⟨(takeWhile_halt digit text rest).trans h.1, ?_⟩
  intro none more same
  cases text with
  | nil => exact absurd (List.cons.inj same).1 point
  | cons c text =>
      obtain ⟨rfl, rfl⟩ := List.cons.inj same
      exact (takeWhile_halt digit text rest).trans (h.2 none text rfl)

theorem Numeral.scan_halt (digit : isDigit sep = false) (point : sep ≠ '.')
    (text rest : List Char) :
    scan (text ++ sep :: rest) = (scan text).map fun (n, more) => (n, more ++ sep :: rest) := by
  cases seen : scan text with
  | none =>
      rw [Option.map_none, scan_eq_none_iff, takeWhile_halt digit]
      exact scan_eq_none_iff.mp seen
  | some found =>
      obtain ⟨n, more⟩ := found
      obtain ⟨formed, rfl, ends⟩ := scan_sound seen
      rw [List.append_assoc, Option.map_some]
      exact scan_complete formed (ends.halt digit point rest)

end Fortune.Text
