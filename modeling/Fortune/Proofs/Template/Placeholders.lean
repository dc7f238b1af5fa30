import Fortune.Proofs.Template.Chain
import Fortune.Proofs.Template.Plain
import Fortune.Proofs.Text.Separator

/-!
Placeholders in a text. They are filled from left to right, each by itself: what one of them brings
in is not read again, and the first whose name stands for nothing ends the work.
-/
namespace Fortune.Template
open Text

/-- A character that is in no name, and closes none, ends what may be a placeholder before it. -/
theorem placeholder?_ahead {mark : Char} (foreign : isWord mark = false) (open_ : mark ≠ '\x7d')
    (before : Option Char) (c : Char) (text rest : List Char) :
    placeholder? before (c :: text ++ mark :: rest) = placeholder? before (c :: text) := by
  by_cases brace : c = '\x7b'
  · subst brace
    simp only [List.cons_append, placeholder?, takeWhile_halt foreign, dropWhile_halt foreign]
    cases text.dropWhile isWord with
    | nil => simp [open_]
    | cons d more =>
        by_cases closed : d = '\x7d'
        · subst closed
          rfl
        · simp [closed]
  · simp [placeholder?, brace]

theorem pieces_placeholder {name : List Char} (named : IsName name) (front rest : List Char) :
    pieces placeholder? (front ++ (spelledPlaceholder name ++ rest)) =
      pieces placeholder? front ++
        .found name (spelledPlaceholder name) :: pieces placeholder? rest := by
  have ahead (before : Option Char) (c : Char) (text : List Char) :
      placeholder? before (c :: text ++ (spelledPlaceholder name ++ rest)) =
        placeholder? before (c :: text) :=
    placeholder?_ahead (by decide) (by decide) before c text _
  have here (before : Option Char) : placeholder? before (spelledPlaceholder name ++ rest) =
      some (name, spelledPlaceholder name) :=
    (placeholder?_spells _ _ _ _).mpr ⟨named, rfl, List.prefix_append _ rest⟩
  obtain ⟨rest', split, parts⟩ :=
    piecesFrom_recognised placeholder?_honest (here (front.getLast?.or none))
  obtain rfl := List.append_cancel_left split
  rw [pieces, piecesFrom_append placeholder?_honest ahead (Nat.zero_le _), parts,
    placeholder?_spells.piecesFrom_eq, placeholder?_spells.piecesFrom_eq]

/-- The leftmost placeholder with such a name, and what stands before and behind it. -/
structure Leftmost (such : List Char → Prop) (text front name behind : List Char) : Prop where
  split : text = front ++ (spelledPlaceholder name ++ behind)
  fits : such name
  first : ∀ front' other behind', such other →
    text = front' ++ (spelledPlaceholder other ++ behind') → front.length ≤ front'.length

theorem SpellsPlaceholder.mono {such : List Char → Prop} {text part : List Char}
    (h : SpellsPlaceholder such part) (inside : part <:+: text) : SpellsPlaceholder such text := by
  obtain ⟨name, fits, here⟩ := h
  exact ⟨name, fits, here.trans inside⟩

namespace Leftmost

variable {such : List Char → Prop} {text front name behind : List Char}
  (h : Leftmost such text front name behind)
include h

theorem not_before : ¬SpellsPlaceholder such front := by
  rintro ⟨other, fits, front', behind', rfl⟩
  have le := h.first front' other (behind' ++ (spelledPlaceholder name ++ behind)) fits (by
    rw [h.split]
    simp only [List.append_assoc])
  simp only [List.length_append, spelledPlaceholder, List.length_cons] at le
  omega

theorem behind_within : behind <:+: text := by
  rw [h.split, ← List.append_assoc]
  exact (List.suffix_append _ behind).isInfix

theorem length_behind_lt : behind.length < text.length := by
  rw [h.split]
  simp only [List.length_append, spelledPlaceholder, List.length_cons]
  omega

end Leftmost

theorem SpellsPlaceholder.exists_leftmost {such : List Char → Prop} {text : List Char}
    (h : SpellsPlaceholder such text) :
    ∃ front name behind, Leftmost such text front name behind := by
  obtain ⟨name, fits, front, behind, split⟩ := h
  rw [List.append_assoc] at split
  induction size : front.length using Nat.strongRecOn generalizing front name behind with
  | ind size ih =>
      by_cases earlier : ∃ front' other behind', such other ∧
          text = front' ++ (spelledPlaceholder other ++ behind') ∧ front'.length < front.length
      · obtain ⟨front', other, behind', fits', split', shorter⟩ := earlier
        exact ih front'.length (size ▸ shorter) other fits' front' behind' split'.symm rfl
      · refine ⟨front, name, behind, split.symm, fits, ?_⟩
        intro front' other behind' fits' split'
        apply Nat.le_of_not_lt
        exact fun shorter => earlier ⟨front', other, behind', fits', split', shorter⟩

/-! Names. -/

/-- A name that none of the tables has. -/
def IsUnknown (name : List Char) : Prop :=
  IsName name ∧ ∀ table ∈ [Parameter.texts, Parameter.reals, Parameter.integers],
    String.ofList name ∉ table.map Prod.fst

theorem isUnknown_iff {name : List Char} :
    IsUnknown name ↔ IsName name ∧ Parameter.named? (String.ofList name) = none := by
  have absent (table : List (String × Parameter)) (key : String) :
      table.lookup key = none ↔ key ∉ table.map Prod.fst := by
    rw [List.lookup_eq_none_iff]
    constructor
    · intro apart inside
      obtain ⟨entry, member, same⟩ := List.mem_map.mp inside
      exact bne_iff_ne.mp (apart entry member) same.symm
    · intro apart entry member
      exact bne_iff_ne.mpr fun same => apart (same ▸ List.mem_map_of_mem member)
  rw [IsUnknown, Parameter.named?, absent]
  simp

theorem IsUnknown.draw {name : List Char} (unknown : IsUnknown name) (scene : Scene) (c : Context) :
    c.draw (Parameter.lookup? (String.ofList name) scene) = (none, c) := by
  unfold Parameter.lookup?
  rw [(isUnknown_iff.mp unknown).2]
  rfl

theorem exists_draw_of_known {name : List Char} (named : IsName name) (known : ¬IsUnknown name)
    (scene : Scene) (c : Context) :
    ∃ value mid, c.draw (Parameter.lookup? (String.ofList name) scene) = (some value, mid) := by
  unfold Parameter.lookup?
  cases found : Parameter.named? (String.ofList name) with
  | none => exact absurd (isUnknown_iff.mpr ⟨named, found⟩) known
  | some p => exact ⟨_, _, rfl⟩

/-! Filling. -/

/-- What filling puts in the place of a placeholder. -/
def placeholderValue (scene : Scene) (name : List Char) : Resolver (List Char) := do
  match ← Parameter.lookup? (String.ofList name) scene with
  | some value => return value
  | none => throw (.unknownParameter (String.ofList name))

theorem fill_eq (scene : Scene) (text : List Char) :
    fill scene text =
      replaceFound (fun name _ => placeholderValue scene name) (pieces placeholder? text) := rfl

theorem fill_placeholder {name : List Char} (named : IsName name) (scene : Scene)
    (front behind : List Char) :
    fill scene (front ++ (spelledPlaceholder name ++ behind)) = do
      let before ← fill scene front
      let value ← placeholderValue scene name
      return before ++ (value ++ (← fill scene behind)) := by
  rw [fill_eq, pieces_placeholder named, replaceFound_append, replaceFound]
  simp only [bind_assoc, pure_bind]
  rfl

theorem draw_placeholderValue (scene : Scene) (name : List Char) (c : Context) :
    c.draw (placeholderValue scene name) =
      match c.draw (Parameter.lookup? (String.ofList name) scene) with
      | (some value, mid) => (.ok value, mid)
      | (none, mid) => (.error (.unknownParameter (String.ofList name)), mid) := by
  have looked : c.draw (Parameter.lookup? (String.ofList name) scene : Resolver _) =
      (.ok (c.draw (Parameter.lookup? (String.ofList name) scene)).1,
        (c.draw (Parameter.lookup? (String.ofList name) scene)).2) := rfl
  rw [placeholderValue, Context.draw_bind_of_ok looked]
  rcases c.draw (Parameter.lookup? (String.ofList name) scene) with ⟨_ | value, mid⟩
  · rfl
  · rfl

/-- The text with a value in the place of each placeholder, drawn one after another. What a value
brings in is not looked at again. -/
inductive Fills : List Char → Context → List Char → Context → Prop
  | done {text : List Char} {c : Context} (none : ¬SpellsPlaceholder IsName text) :
      Fills text c text c
  | value {text front name behind value rest : List Char} {c mid last : Context}
      (next : Leftmost IsName text front name behind)
      (known : c.draw (Parameter.lookup? (String.ofList name) c.toScene) = (some value, mid))
      (tail : Fills behind mid rest last) : Fills text c (front ++ (value ++ rest)) last

theorem Fills.draw {text filled : List Char} {c last : Context} (h : Fills text c filled last) :
    c.draw (fill c.toScene text) = (.ok filled, last) := by
  induction h with
  | @done text c none =>
      rw [fill_of_unfilled none]
      rfl
  | @value text front name behind value rest c mid last next known tail ih =>
      have here : c.draw (placeholderValue c.toScene name) = (.ok value, mid) := by
        rw [draw_placeholderValue, known]
      rw [Context.draw_toScene known] at ih
      rw [next.split, fill_placeholder next.fits, fill_of_unfilled next.not_before, pure_bind,
        Context.draw_bind_of_ok here, Context.draw_bind_of_ok ih]
      rfl

theorem exists_fills {text : List Char} (known : ¬SpellsPlaceholder IsUnknown text) (c : Context) :
    ∃ filled last, Fills text c filled last := by
  induction size : text.length using Nat.strongRecOn generalizing text c with
  | ind size ih =>
      by_cases bare : SpellsPlaceholder IsName text
      · obtain ⟨front, name, behind, next⟩ := bare.exists_leftmost
        have here : ¬IsUnknown name := by
          intro unknown
          exact known ⟨name, unknown, front, behind, by rw [next.split, List.append_assoc]⟩
        have later : ¬SpellsPlaceholder IsUnknown behind :=
          fun unknown => known (unknown.mono next.behind_within)
        obtain ⟨value, mid, drawn⟩ := exists_draw_of_known next.fits here c.toScene c
        obtain ⟨rest, last, tail⟩ := ih behind.length (size ▸ next.length_behind_lt) later mid rfl
        exact ⟨_, last, .value next drawn tail⟩
      · exact ⟨text, c, .done bare⟩

theorem Leftmost.draw_fill {text front name behind : List Char}
    (h : Leftmost IsUnknown text front name behind) (c : Context) :
    ∃ last, c.draw (fill c.toScene text) =
      (.error (.unknownParameter (String.ofList name)), last) := by
  obtain ⟨filled, mid, fills⟩ := exists_fills h.not_before c
  have here : mid.draw (placeholderValue c.toScene name) =
      (.error (.unknownParameter (String.ofList name)), mid) := by
    rw [draw_placeholderValue, h.fits.draw]
  refine ⟨mid, ?_⟩
  rw [h.split, fill_placeholder h.fits.1, Context.draw_bind_of_ok fills.draw]
  exact Context.draw_bind_of_error here

/-! The whole template. -/

theorem compute_error {text : List Char} {e : Error} (h : compute text = .error e) :
    ∃ expression fault, e = .arithmetic expression fault := by
  rw [compute_eq] at h
  obtain ⟨glued, lexeme, _, failed⟩ := replaceFound_error h
  unfold chainValue at failed
  split at failed
  · cases failed
  · split at failed
    · cases failed
    · cases failed
      exact ⟨_, _, rfl⟩

section Resolve

variable {template : String} (callFree : ¬SpellsCall template.toList)
include callFree

theorem Leftmost.resolve {front name behind : List Char}
    (h : Leftmost IsUnknown template.toList front name behind) (c : Context) :
    (resolve template c).1 = .error (.unknownParameter (String.ofList name)) := by
  obtain ⟨last, drawn⟩ := h.draw_fill c
  rw [Template.resolve, resolveText_of_callFree (callFree_iff.mpr callFree)]
  exact congrArg Prod.fst (Context.draw_bind_of_error (Context.draw_bind_of_error drawn))

theorem Fills.resolve {filled : List Char} {c last : Context}
    (h : Fills template.toList c filled last) :
    resolve template c =
      ((compute (unquote filled)).map fun text => String.ofList (unquote text), last) := by
  have substituted : c.draw (substitute c.toScene template.toList) =
      ((compute (unquote filled)).map unquote, last) := by
    rw [substitute, Context.draw_bind_of_ok h.draw]
    cases compute (unquote filled) <;> rfl
  rw [Template.resolve, resolveText_of_callFree (callFree_iff.mpr callFree), Context.draw_bind,
    substituted]
  cases compute (unquote filled) <;> rfl

theorem resolve_unknownParameter_iff (c : Context) (name : String) :
    (resolve template c).1 = .error (.unknownParameter name) ↔
      ∃ front behind, Leftmost IsUnknown template.toList front name.toList behind := by
  constructor
  · intro failed
    by_cases unknown : SpellsPlaceholder IsUnknown template.toList
    · obtain ⟨front, other, behind, first⟩ := unknown.exists_leftmost
      rw [first.resolve callFree c] at failed
      cases failed
      rw [String.toList_ofList]
      exact ⟨front, behind, first⟩
    · obtain ⟨filled, last, fills⟩ := exists_fills unknown c
      rw [fills.resolve callFree] at failed
      cases computed : compute (unquote filled) with
      | ok text =>
          rw [computed] at failed
          cases failed
      | error e =>
          obtain ⟨expression, fault, rfl⟩ := compute_error computed
          rw [computed] at failed
          cases failed
  · rintro ⟨front, behind, first⟩
    have failed := first.resolve callFree c
    rw [String.ofList_toList] at failed
    exact failed

end Resolve

/-- The leftmost placeholder with an unknown name is the error, in every context and before any
arithmetic. Without one, each placeholder gets its value and the values are not read again, so that
only arithmetic can fail. -/
theorem resolve_unknown {template : String} (callFree : ¬SpellsCall template.toList) :
    (∀ c name, (resolve template c).1 = .error (.unknownParameter name) ↔
      ∃ front behind, Leftmost IsUnknown template.toList front name.toList behind) ∧
    (∀ c c' name, (resolve template c).1 = .error (.unknownParameter name) ↔
      (resolve template c').1 = .error (.unknownParameter name)) ∧
    (∀ c, SpellsPlaceholder IsUnknown template.toList →
      ∃ name, (resolve template c).1 = .error (.unknownParameter name)) ∧
    ∀ c, ¬SpellsPlaceholder IsUnknown template.toList → ∃ filled last,
      Fills template.toList c filled last ∧
      resolve template c =
        ((compute (unquote filled)).map fun text => String.ofList (unquote text), last) := by
  refine ⟨resolve_unknownParameter_iff callFree, ?_, ?_, ?_⟩
  · intro c c' name
    rw [resolve_unknownParameter_iff callFree, resolve_unknownParameter_iff callFree]
  · intro c unknown
    obtain ⟨front, name, behind, first⟩ := unknown.exists_leftmost
    exact ⟨_, first.resolve callFree c⟩
  · intro c known
    obtain ⟨filled, last, fills⟩ := exists_fills known c
    exact ⟨filled, last, fills, fills.resolve callFree⟩

/-- The name of the actor spells a placeholder. -/
def mimic : Context :=
  .ofSeed ⟨⟨0, 60, 0⟩, some { name := "\x7bzip\x7d", uuid := ⟨0⟩, pos := ⟨3.4, 64, -9.5⟩ }⟩ 3

/-- Two names of nothing behind a division by zero. -/
def unanswered : String := "1/0 \x7bplayerName\x7d \x7bzap\x7d \x7bzip\x7d"

theorem resolve_unanswered :
    ¬SpellsCall unanswered.toList ∧
      (∃ front behind, Leftmost IsUnknown unanswered.toList front "zap".toList behind) ∧
      (∀ c, (resolve unanswered c).1 = .error (.unknownParameter "zap")) ∧
      resolve "\x7bplayerName\x7d" mimic = (.ok "\x7bzip\x7d", mimic) := by
  have callFree : ¬SpellsCall unanswered.toList := callFree_iff.mp rfl
  have failed : (resolve unanswered mimic).1 = .error (.unknownParameter "zap") := rfl
  obtain ⟨leftmost, everywhere, _⟩ := resolve_unknown callFree
  refine ⟨callFree, (leftmost mimic "zap").mp failed, ?_, resolve_of_callFree rfl rfl⟩
  exact fun c => (everywhere c mimic "zap").mpr failed

end Fortune.Template
