import Fortune.Proofs.Decimal.Layout
import Fortune.Proofs.Template.Links
import Fortune.Proofs.Template.Plain
import Fortune.Position
import Mathlib.Data.List.Chain

/-!
Idle texts: what a template may hold without any of it being taken for more than text. No call, no
placeholder and no quoted numeral is in them, and a chain only as part of something longer.
-/
namespace Fortune.Template
open Text Decimal

/-- A letter, a digit, an underscore or a point is right before the place or right behind it. -/
def Touches (front rest : List Char) : Prop :=
  (∃ c ∈ front.getLast?, isToken c = true) ∨ ∃ c ∈ rest.head?, isToken c = true

structure Idle (text : List Char) : Prop where
  callFree : ¬SpellsCall text
  unfilled : ¬SpellsPlaceholder IsName text
  unquoted : ¬SpellsQuotedNumeral text
  glued : ∀ front chain rest, ComesBy IsChain text front chain rest → Touches front rest

/-- The template is its own value, and nothing is drawn for it. -/
def Kept (text : String) : Prop := ∀ c : Context, resolve text c = (.ok text, c)

theorem touches_iff {front rest : List Char} :
    (front.getLast?.any isToken || rest.head?.any isToken) = true ↔ Touches front rest := by
  have any (o : Option Char) : o.any isToken = true ↔ ∃ c ∈ o, isToken c = true := by
    cases o <;> simp
  rw [Bool.or_eq_true, any, any]
  rfl

/-- The scan tells the chains that touch something from those that stand alone. -/
theorem all_glued_iff {text : List Char} :
    (∀ glued lexeme, .found glued lexeme ∈ pieces chain? text → glued = true) ↔
      ∀ front chain rest, ComesBy IsChain text front chain rest → Touches front rest := by
  constructor
  · intro all front chain rest comes
    let glued := front.getLast?.any isToken || rest.head?.any isToken
    have seen : chain? front.getLast? (chain ++ rest) = some (glued, chain) := by
      rw [chain?, chainText?_eq_some_iff.mpr comes.2, Option.map_some, List.drop_left]
    apply touches_iff.mp
    apply all glued chain
    exact (found_iff chain?_honest chain?_takes).mpr ⟨front, rest, comes, seen⟩
  · intro touch glued lexeme inside
    obtain ⟨front, rest, comes, seen⟩ := (found_iff chain?_honest chain?_takes).mp inside
    rw [(chain?_sound seen).2, List.drop_left]
    exact touches_iff.mpr (touch front lexeme rest comes)

theorem Idle.kept {text : String} (idle : Idle text.toList) : Kept text := by
  intro c
  have computed : compute text.toList = .ok text.toList := by
    rw [compute_eq, replaceFound_glued (all_glued_iff.mpr idle.glued), pieces_text chain?_honest]
  apply resolve_of_callFree (callFree_iff.mpr idle.callFree)
  rw [substitute, fill_of_unfilled idle.unfilled, pure_bind, unquote_of_unquoted idle.unquoted,
    computed]
  change c.draw (pure (unquote text.toList) : Resolver (List Char)) = _
  rw [unquote_of_unquoted idle.unquoted]
  rfl

/-! Every chain has an operator right behind a digit. -/

/-- No operator stands right behind a digit. -/
def Unlinked (text : List Char) : Prop :=
  text.IsChain fun d o => isDigit d = true → isOperator o = false

theorem IsChain.linked {text : List Char} (h : IsChain text) : ¬Unlinked text := by
  obtain ⟨⟨first, links⟩, ⟨linked, formed, _⟩, rfl⟩ := h
  intro unlinked
  obtain ⟨l, links, rfl⟩ := List.exists_cons_of_ne_nil linked
  obtain ⟨front, d, spelled, digit⟩ := SignedNumeral.endsInDigit formed
  have last : d ∈ first.text.getLast? := by
    rw [spelled, List.getLast?_concat]
    rfl
  have apart := (List.isChain_append.mp unlinked).2.2 d last l.operator.char rfl digit
  rw [isOperator_iff.mpr ⟨l.operator, rfl⟩] at apart
  cases apart

theorem Unlinked.idle {text : List Char} (unlinked : Unlinked text) (unopened : '(' ∉ text)
    (unbraced : '\x7b' ∉ text) (unquoted : ¬SpellsQuotedNumeral text) : Idle text where
  callFree := uncalled_of_unopened unopened
  unfilled := unfilled_of_unbraced unbraced
  unquoted := unquoted
  glued _ _ _ comes := by
    have apart : Unlinked _ := List.IsChain.infix unlinked comes.within
    exact absurd apart comes.2.member.linked

theorem unlinked_of_digitless {text : List Char} (h : ∀ d ∈ text, isDigit d = false) :
    Unlinked text := by
  induction text with
  | nil => exact .nil
  | cons d text ih =>
      obtain ⟨here, behind⟩ := List.forall_mem_cons.mp h
      apply (ih behind).cons
      intro o _ digit
      rw [here] at digit
      cases digit

theorem idle_of_digitless {text : List Char} (digitless : ∀ c ∈ text, isDigit c = false)
    (unopened : '(' ∉ text) (unbraced : '\x7b' ∉ text) : Idle text := by
  refine (unlinked_of_digitless digitless).idle unopened unbraced ?_
  rintro ⟨n, formed, inside⟩
  obtain ⟨front, d, spelled, digit⟩ := SignedNumeral.endsInDigit formed
  have within : d ∈ quotedNumeral n := by simp [quotedNumeral, spelled]
  rw [digitless d (inside.subset within)] at digit
  cases digit

/-! Numbers, as they are written and as they are shown. -/

theorem isOperator_of_isToken {c : Char} (h : isToken c = true) : isOperator c = false := by
  rw [← Bool.not_eq_true, isOperator_iff]
  rintro ⟨o, rfl⟩
  cases o <;> exact absurd h (by decide)

theorem unlinked_of_tail (c : Char) {text : List Char} (h : ∀ o ∈ text, isToken o = true) :
    Unlinked (c :: text) := by
  induction text generalizing c with
  | nil => exact .singleton c
  | cons o text ih =>
      obtain ⟨here, behind⟩ := List.forall_mem_cons.mp h
      exact .cons_cons (fun _ => isOperator_of_isToken here) (ih o behind)

/-- Letters, digits, underscores and points, with a sign before them or not. -/
def IsSigned (text : List Char) : Prop :=
  ∃ magnitude, (∀ c ∈ magnitude, isToken c = true) ∧
    ∃ sign ∈ [[], ['-'], ['+']], text = sign ++ magnitude

namespace IsSigned

variable {text : List Char} (signed : IsSigned text)
include signed

theorem unlinked : Unlinked text := by
  obtain ⟨magnitude, tokens, sign, member, rfl⟩ := signed
  have behind (c : Char) : Unlinked (c :: magnitude) := unlinked_of_tail c tokens
  simp only [List.mem_cons, List.not_mem_nil, or_false] at member
  rcases member with rfl | rfl | rfl
  · exact (behind '0').tail
  · exact behind '-'
  · exact behind '+'

theorem not_mem {mark : Char} (foreign : isToken mark = false) (unsigned : mark ∉ ['-', '+']) :
    mark ∉ text := by
  obtain ⟨magnitude, tokens, sign, member, rfl⟩ := signed
  intro inside
  rcases List.mem_append.mp inside with front | within
  · apply unsigned
    simp only [List.mem_cons, List.not_mem_nil, or_false] at member
    rcases member with rfl | rfl | rfl
    · cases front
    · exact List.mem_cons.mpr (.inl (List.mem_singleton.mp front))
    · exact List.mem_cons_of_mem _ front
  · rw [tokens mark within] at foreign
    cases foreign

end IsSigned

theorem isSigned_numeral {n : Numeral} (formed : n.WellFormed) {sign : List Char}
    (member : sign ∈ [[], ['-'], ['+']]) : IsSigned (sign ++ n.text) := by
  refine ⟨n.text, ?_, sign, member, rfl⟩
  intro c inside
  rcases formed.digit_or_point c inside with digit | rfl
  · exact isToken_of_isAlphanumeric (isAlphanumeric_of_isDigit digit)
  · decide

theorem isSigned_floatText (x : Float) : IsSigned (floatText x) := by
  obtain ⟨magnitude, tokens, shape⟩ := floatText_tokens x
  refine ⟨magnitude, tokens, ?_⟩
  rcases shape with shape | shape
  · exact ⟨[], by decide, shape⟩
  · exact ⟨['-'], by decide, shape⟩

/-- A comma belongs to no chain. -/
theorem Unlinked.joined {text rest : List Char} (h : Unlinked text) (h' : Unlinked rest) :
    Unlinked (text ++ ',' :: rest) := by
  refine h.append (h'.cons fun o _ digit => absurd digit (by decide)) ?_
  intro d _ c first _
  obtain rfl : ',' = c := Option.some.inj first
  decide

theorem idle_point (p : Point) : Idle p.text.toList := by
  have spelled : p.text.toList =
      floatText p.x ++ ',' :: (floatText p.y ++ ',' :: floatText p.z) := by
    simp [Point.text, Point.joined]
  have foreign (mark : Char) (apart : isToken mark = false) (unsigned : mark ∉ ['-', '+'])
      (comma : mark ≠ ',') : mark ∉ p.text.toList := by
    rw [spelled]
    have component (x : Float) := (isSigned_floatText x).not_mem apart unsigned
    simp [component, comma]
  have unlinked : Unlinked p.text.toList := by
    rw [spelled]
    have component (x : Float) := (isSigned_floatText x).unlinked
    exact (component p.x).joined ((component p.y).joined (component p.z))
  apply unlinked.idle
  · exact foreign '(' (by decide) (by decide) (by decide)
  · exact foreign '\x7b' (by decide) (by decide) (by decide)
  · exact unquoted_of_quoteless (foreign '"' (by decide) (by decide) (by decide))

theorem idle_numeral {n : Numeral} (formed : n.WellFormed) {sign : List Char}
    (member : sign ∈ [[], ['-'], ['+']]) : Idle (sign ++ n.text) := by
  have signed := isSigned_numeral formed member
  apply signed.unlinked.idle
  · exact signed.not_mem (by decide) (by decide)
  · exact signed.not_mem (by decide) (by decide)
  · exact unquoted_of_quoteless (signed.not_mem (by decide) (by decide))

/-- Idle texts are kept in every context. Among them are all texts without digits, opening braces
and opening parentheses, all decimal numerals, signed or not, and the texts of all points. -/
theorem resolve_idle :
    (∀ text : String, Idle text.toList → Kept text) ∧
    (∀ text : String, (∀ c ∈ text.toList, isDigit c = false ∧ c ≠ '\x7b' ∧ c ≠ '(') → Kept text) ∧
    (∀ n : Numeral, n.WellFormed → ∀ sign ∈ [[], ['-'], ['+']],
      Kept (String.ofList (sign ++ n.text))) ∧
    ∀ p : Point, Kept p.text := by
  refine ⟨fun text idle => idle.kept, ?_, ?_, fun p => (idle_point p).kept⟩
  · intro text bare
    apply Idle.kept
    apply idle_of_digitless (fun c inside => (bare c inside).1)
    · exact fun inside => (bare '(' inside).2.2 rfl
    · exact fun inside => (bare '\x7b' inside).2.1 rfl
  · intro n formed sign member
    apply Idle.kept
    rw [String.toList_ofList]
    exact idle_numeral formed member

/-- Braces, quotes and parentheses that spell nothing, and chains inside longer words. -/
def harmless : String := "\x7b\x7d say(2) \"x1\" random 550e8400-12-34-e29b v1.0-5 \"7"

theorem kept_harmless : Idle harmless.toList ∧ Kept harmless := by
  have unfilled : ¬SpellsPlaceholder IsName harmless.toList := by
    intro spelled
    have found := (placeholder?_spells.isFound_iff spelledPlaceholder_ne_nil).mpr spelled
    exact absurd found (by decide)
  have unquoted : ¬SpellsQuotedNumeral harmless.toList := by
    intro spelled
    have found := (quotedNumeral?_spells.isFound_iff quotedNumeral_ne_nil).mpr spelled
    exact absurd found (by decide)
  have glued : ((pieces chain? harmless.toList).all fun
      | .found glued _ => glued
      | .plain _ => true) = true := by
    decide
  have idle : Idle harmless.toList := by
    refine ⟨callFree_iff.mp (by decide), unfilled, unquoted, all_glued_iff.mp ?_⟩
    exact fun _ _ inside => List.all_eq_true.mp glued _ inside
  exact ⟨idle, resolve_idle.1 _ idle⟩

end Fortune.Template
