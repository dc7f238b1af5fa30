import Fortune.Document.Name
import Fortune.Document.Reader
import Fortune.Proofs.Identifier
import Fortune.Proofs.Text.Numeral
import Fortune.Proofs.Text.Pieces

/-!
Identifiers as texts, alone and in documents. Which texts are read is said by two alphabets and the
first colon; what an identifier is written as, in either place, is read back as the same identifier.
-/
namespace Fortune.Identifier

def scopeAlphabet : List Char := "-.0123456789_abcdefghijklmnopqrstuvwxyz".toList

def pathAlphabet : List Char := "-./0123456789_abcdefghijklmnopqrstuvwxyz".toList

theorem isPathChar_ascii {c : Char} (h : isPathChar c = true) : c.toNat < 128 := by
  have below {c d : Char} (least : d.toNat < 128) (le : c ≤ d) : c.toNat < 128 :=
    Nat.lt_of_le_of_lt (Char.le_def.mp le) least
  simp only [isPathChar, isScopeChar, Bool.or_eq_true, Bool.and_eq_true, decide_eq_true_eq,
    beq_iff_eq] at h
  rcases h with ((((letter | digit) | rfl) | rfl) | rfl) | rfl
  · exact below (by decide) letter.2
  · exact below (by decide) digit.2
  · decide
  · decide
  · decide
  · decide

theorem isPathChar_of_isScopeChar {c : Char} (h : isScopeChar c = true) : isPathChar c = true := by
  rw [isPathChar, h, Bool.true_or]

/-- A class of ASCII characters is an alphabet if that is all it takes of the first 128. -/
theorem mem_alphabet_iff {p : Char → Bool} {alphabet : List Char} {c : Char}
    (ascii : p c = true → c.toNat < 128)
    (table : ((List.range 128).map Char.ofNat).filter p = alphabet) :
    p c = true ↔ c ∈ alphabet := by
  rw [← table, List.mem_filter]
  constructor
  · intro h
    have low : c.toNat ∈ List.range 128 := List.mem_range.mpr (ascii h)
    exact ⟨List.mem_map.mpr ⟨c.toNat, low, Char.ofNat_toNat c⟩, h⟩
  · exact fun ⟨_, h⟩ => h

theorem isScopeChar_iff {c : Char} : isScopeChar c = true ↔ c ∈ scopeAlphabet :=
  mem_alphabet_iff (fun h => isPathChar_ascii (isPathChar_of_isScopeChar h)) (by decide)

theorem isPathChar_iff {c : Char} : isPathChar c = true ↔ c ∈ pathAlphabet :=
  mem_alphabet_iff isPathChar_ascii (by decide)

theorem valid_iff {id : Identifier} :
    id.Valid ↔ id.scope ≠ "" ∧ id.path ≠ "" ∧ (∀ c ∈ id.scope.toList, c ∈ scopeAlphabet) ∧
      ∀ c ∈ id.path.toList, c ∈ pathAlphabet := by
  simp only [Valid, isScopeChar_iff, isPathChar_iff]

/-- A path alone has the default namespace. -/
theorem valid_default {path : String} (some : path ≠ "")
    (inPath : ∀ c ∈ path.toList, c ∈ pathAlphabet) : Valid ⟨defaultScope, path⟩ := by
  have named : defaultScope.toList.all isScopeChar = true := by decide
  have there : defaultScope ≠ "" := by decide
  exact ⟨there, some, List.all_eq_true.mp named, fun c h => isPathChar_iff.mpr (inPath c h)⟩

/-! Where a text is split. -/

theorem span_colon {front rest : List Char} (first : ':' ∉ front)
    (stop : rest.takeWhile (· != ':') = []) :
    (front ++ rest).span (· != ':') = (front, rest) := by
  have plain : ∀ c ∈ front, (c != ':') = true := by
    intro c inside
    exact bne_iff_ne.mpr fun same => first (same ▸ inside)
  obtain ⟨run, after⟩ := Text.span_run plain stop
  rw [List.span_eq_takeWhile_dropWhile, run, after]

theorem parse_of_colon {s : String} {scope path : List Char}
    (split : s.toList = scope ++ ':' :: path) (first : ':' ∉ scope) :
    parse s = ofParts (String.ofList scope) (String.ofList path) := by
  have stop : (':' :: path).takeWhile (· != ':') = [] := by simp
  rw [parse, split, span_colon first stop]
  rfl

theorem parse_of_bare {s : String} (bare : ':' ∉ s.toList) : parse s = ofParts defaultScope s := by
  have whole := span_colon bare List.takeWhile_nil
  rw [List.append_nil] at whole
  rw [parse, whole]

theorem toList_text (id : Identifier) :
    id.text.toList = id.scope.toList ++ ':' :: id.path.toList := by
  simp [text]

theorem colon_not_scope {scope : List Char} (h : ∀ c ∈ scope, isScopeChar c = true) :
    ':' ∉ scope := by
  intro inside
  have colon : isScopeChar ':' = false := by decide
  rw [h _ inside] at colon
  cases colon

/-- What is written is read back. -/
theorem parse_text {id : Identifier} (valid : id.Valid) : parse id.text = .ok id := by
  rw [parse_of_colon (toList_text id) (colon_not_scope valid.2.2.1), String.ofList_toList,
    String.ofList_toList]
  exact ofParts_eq_ok_iff.mpr ⟨rfl, valid⟩

theorem text_of_parse {s : String} {id : Identifier} (h : parse s = .ok id) :
    id.text = if ':' ∈ s.toList then s else "minecraft:" ++ s := by
  by_cases colon : ':' ∈ s.toList
  · obtain ⟨scope, path, split, first⟩ := List.eq_append_cons_of_mem colon
    rw [parse_of_colon split first] at h
    obtain ⟨rfl, _⟩ := ofParts_eq_ok_iff.mp h
    rw [if_pos colon, ← String.toList_inj, toList_text, String.toList_ofList, String.toList_ofList,
      split]
  · rw [parse_of_bare colon] at h
    obtain ⟨rfl, _⟩ := ofParts_eq_ok_iff.mp h
    rw [if_neg colon]
    rfl

/-- Two identifiers are not written alike. -/
theorem text_injective {a b : Identifier} (valid : a.Valid) (valid' : b.Valid)
    (same : a.text = b.text) : a = b := by
  have read := parse_text valid
  rw [same, parse_text valid'] at read
  exact (Except.ok.inj read).symm

/-- What is read of a text without a colon, and of one with it. -/
theorem parse_eq_ok_iff {s : String} {id : Identifier} :
    parse s = .ok id ↔
      (':' ∉ s.toList ∧ s ≠ "" ∧ (∀ c ∈ s.toList, c ∈ pathAlphabet) ∧ id = ⟨"minecraft", s⟩) ∨
      ∃ scope path, s = scope ++ ":" ++ path ∧ ':' ∉ scope.toList ∧
        (scope ≠ "" ∧ ∀ c ∈ scope.toList, c ∈ scopeAlphabet) ∧
        (path ≠ "" ∧ ∀ c ∈ path.toList, c ∈ pathAlphabet) ∧ id = ⟨scope, path⟩ := by
  constructor
  · intro h
    by_cases colon : ':' ∈ s.toList
    · obtain ⟨scope, path, split, first⟩ := List.eq_append_cons_of_mem colon
      rw [parse_of_colon split first] at h
      obtain ⟨rfl, valid⟩ := ofParts_eq_ok_iff.mp h
      obtain ⟨some, some', inScope, inPath⟩ := valid_iff.mp valid
      refine Or.inr ⟨_, _, ?_, ?_, ⟨some, inScope⟩, ⟨some', inPath⟩, rfl⟩
      · rw [← String.toList_inj, split]
        simp
      · rw [String.toList_ofList]
        exact first
    · rw [parse_of_bare colon] at h
      obtain ⟨rfl, valid⟩ := ofParts_eq_ok_iff.mp h
      obtain ⟨_, some, _, inPath⟩ := valid_iff.mp valid
      exact Or.inl ⟨colon, some, inPath, rfl⟩
  · rintro (⟨bare, some, inPath, rfl⟩ |
      ⟨scope, path, rfl, _, ⟨some, inScope⟩, ⟨some', inPath⟩, rfl⟩)
    · rw [parse_of_bare bare]
      exact ofParts_eq_ok_iff.mpr ⟨rfl, valid_default some inPath⟩
    · have valid : Valid ⟨scope, path⟩ := valid_iff.mpr ⟨some, some', inScope, inPath⟩
      change parse (text ⟨scope, path⟩) = _
      exact parse_text valid

end Fortune.Identifier

namespace Fortune.Document
open Text Identifier

/-! Strings without anything to escape. -/

/-- A character that stands for itself between quotes. -/
def isPlainChar (c : Char) : Bool := 0x20 ≤ c.toNat && c != '"' && c != '\\'

theorem escape_plain {c : Char} (h : isPlainChar c = true) : escape c = [c] := by
  simp only [isPlainChar, Bool.and_eq_true, decide_eq_true_eq, bne_iff_ne] at h
  obtain ⟨⟨printed, quote⟩, backslash⟩ := h
  simp [escape, printed, quote, backslash]

theorem quote_plain {s : String} (h : ∀ c ∈ s.toList, isPlainChar c = true) :
    quote s = '"' :: s.toList ++ ['"'] := by
  have same : s.toList.flatMap escape = s.toList.flatMap fun c => [c] :=
    List.flatMap_congr fun c inside => escape_plain (h c inside)
  rw [quote, same, List.flatMap_singleton']

theorem glyphs_plain {c : Char} (h : isPlainChar c = true) (rest : List Char) :
    glyphs (c :: rest) = (glyphs rest).map fun (more, after) => (.char c :: more, after) := by
  simp only [isPlainChar, Bool.and_eq_true, decide_eq_true_eq, bne_iff_ne] at h
  obtain ⟨⟨printed, quote⟩, backslash⟩ := h
  have unescaped : ¬((decide (c.toNat < 0x20) || c == '\\') = true) := by
    rw [Bool.or_eq_true, decide_eq_true_eq, beq_iff_eq]
    exact not_or.mpr ⟨Nat.not_lt.mpr printed, backslash⟩
  conv_lhs => unfold glyphs
  split
  · rename_i same
    cases same
  · rename_i same
    exact absurd (List.cons.inj same).1 quote
  · rename_i same
    exact absurd (List.cons.inj same).1 backslash
  · rename_i same
    exact absurd (List.cons.inj same).1 backslash
  · rename_i same
    obtain ⟨rfl, rfl⟩ := List.cons.inj same
    rw [if_neg unescaped]
    cases glyphs rest <;> rfl

theorem glyphs_run {text : List Char} (h : ∀ c ∈ text, isPlainChar c = true) (rest : List Char) :
    glyphs (text ++ '"' :: rest) = some (text.map .char, rest) := by
  induction text with
  | nil => rfl
  | cons c text ih =>
      obtain ⟨own, others⟩ := List.forall_mem_cons.mp h
      rw [List.cons_append, glyphs_plain own, ih others]
      rfl

theorem characters_map (text : List Char) : characters (text.map .char) = some text := by
  induction text with
  | nil => rfl
  | cons c text ih => rw [List.map_cons, characters, ih, Option.map_some]

theorem readString_plain {text : List Char} (h : ∀ c ∈ text, isPlainChar c = true)
    (rest : List Char) : readString (text ++ '"' :: rest) = some (String.ofList text, rest) := by
  simp only [readString, glyphs_run h, characters_map, Option.bind_eq_bind, Option.bind_some]
  rfl

theorem token?_plain {text : List Char} (h : ∀ c ∈ text, isPlainChar c = true)
    (before : Option Char) :
    token? before ('"' :: text ++ ['"']) =
      some (some (.scalar (.string (String.ofList text))), '"' :: text ++ ['"']) := by
  have read : readString (text ++ ['"']) = _ := readString_plain h []
  have whole : upTo ('"' :: text ++ ['"']) [] = '"' :: text ++ ['"'] := List.take_length
  change (readString (text ++ ['"'])).map _ = _
  rw [read, Option.map_some]
  exact congrArg (fun lexeme => some (some (Token.scalar (.string (String.ofList text))), lexeme))
    whole

/-- A string between quotes with nothing to escape is a document of its own. -/
theorem read_plain {s : String} (h : ∀ c ∈ s.toList, isPlainChar c = true) :
    read ("\"" ++ s ++ "\"") = some (.string s) := by
  have spelled : ("\"" ++ s ++ "\"").toList = '"' :: (s.toList ++ ['"'] ++ []) := by simp
  have found := token?_plain h none
  rw [String.ofList_toList] at found
  have scanned : pieces token? ('"' :: (s.toList ++ ['"'] ++ [])) =
      [.found (some (.scalar (.string s))) ('"' :: s.toList ++ ['"'])] := by
    rw [pieces, piecesFrom_found (by rw [List.append_nil]; exact found)]
    rfl
  rw [read, spelled, scanned]
  rfl

/-! Identifiers. -/

theorem isPlainChar_of_valid {id : Identifier} (valid : id.Valid) :
    ∀ c ∈ id.text.toList, isPlainChar c = true := by
  have all : pathAlphabet.all isPlainChar = true := by decide
  have path := List.all_eq_true.mp all
  intro c inside
  rw [toList_text] at inside
  rcases List.mem_append.mp inside with front | behind
  · exact path c (isPathChar_iff.mp (isPathChar_of_isScopeChar (valid.2.2.1 c front)))
  · rcases List.mem_cons.mp behind with rfl | behind
    · decide
    · exact path c (isPathChar_iff.mp (valid.2.2.2 c behind))

theorem write_ofName {id : Identifier} (valid : id.Valid) :
    String.ofList (ofName id).write = "\"" ++ id.text ++ "\"" := by
  have written : (ofName id).write = quote id.text := rfl
  rw [← String.toList_inj, String.toList_ofList, written, quote_plain (isPlainChar_of_valid valid)]
  simp

end Fortune.Document

namespace Fortune.Identifier

/-- A text is read exactly if it keeps to the alphabets: on its own as a path, or on both sides of
its first colon. What is read is written as that text, with the namespace in front where the text
had none; in a document it is written without escapes; it is read back from either place, and no
other identifier is written alike. -/
theorem parse_exact (s : String) :
    (∀ id, parse s = .ok id ↔
      (':' ∉ s.toList ∧ s ≠ "" ∧ (∀ c ∈ s.toList, c ∈ pathAlphabet) ∧ id = ⟨"minecraft", s⟩) ∨
      ∃ scope path, s = scope ++ ":" ++ path ∧ ':' ∉ scope.toList ∧
        (scope ≠ "" ∧ ∀ c ∈ scope.toList, c ∈ scopeAlphabet) ∧
        (path ≠ "" ∧ ∀ c ∈ path.toList, c ∈ pathAlphabet) ∧ id = ⟨scope, path⟩) ∧
    ∀ id, parse s = .ok id →
      id.text = (if ':' ∈ s.toList then s else "minecraft:" ++ s) ∧
      parse id.text = .ok id ∧
      String.ofList (Document.ofName id).write = "\"" ++ id.text ++ "\"" ∧
      (∃ d, Document.read ("\"" ++ id.text ++ "\"") = some d ∧ d.name = .ok id) ∧
      ∀ s' id', parse s' = .ok id' → id'.text = id.text → id' = id := by
  refine ⟨fun id => parse_eq_ok_iff, ?_⟩
  intro id h
  have valid := valid_of_parse h
  have read := Document.read_plain (Document.isPlainChar_of_valid valid)
  have named : (Document.string id.text).name = .ok id := by
    rw [Document.name, parse_text valid]
    rfl
  refine ⟨text_of_parse h, parse_text valid, Document.write_ofName valid, ⟨_, read, named⟩, ?_⟩
  exact fun s' id' h' same => text_injective (valid_of_parse h') valid same

end Fortune.Identifier
