import Fortune.Proofs.Decimal.Finite
import Fortune.Proofs.Document.Replacement
import Fortune.Proofs.Template.Joined
import Fortune.Proofs.Text.Numeral
import Mathlib.Data.Option.Basic

/-!
Positions in two spellings: three templates as items of an array, or one template with commas
between them. Item by item a text becomes a number or a string and is read leniently; all at once it
is split, trimmed and read. As numbers the coordinates are the same.
-/
namespace Fortune
open Document (member? asFloat? leaf literal? AlikeBut alikeBut_modify member?_modify)
open Decimal Text

/-! One coordinate. -/

/-- Both missing, or equal as numbers: a zero has two signs. -/
abbrev SameNumber : Option Float → Option Float → Prop := Option.Rel fun x y => (x == y) = true

theorem sameNumber_finite (x : Option Float) :
    SameNumber (x.filter Float.isFinite) (x.filter Float.isFinite) := by
  cases kept : x.filter Float.isFinite with
  | none => exact .none
  | some a => exact .some (beq_self_of_isFinite (Option.filter_eq_some_iff.mp kept).2)

theorem nearestFloat_natural (n : Nat) : nearestFloat n 0 = Float.ofNat n := by
  unfold nearestFloat
  by_cases zero : n = 0
  · subst zero
    decide +kernel
  · simp [zero]
    rfl

/-- The float of an integer is the float of its digits, but for the sign of zero. -/
theorem floatOf_integer {m : SignedNumeral} (whole : m.magnitude.fraction = []) :
    Float.ofInt (integerOf m) = floatOf m ∨ Float.ofInt (integerOf m) = 0 ∧ floatOf m = -0 := by
  obtain ⟨negative, digits, fraction⟩ := m
  obtain rfl : fraction = [] := whole
  have magnitude : numeralFloat ⟨digits, []⟩ = Float.ofNat (natOfDigits digits) := by
    rw [numeralFloat, List.append_nil]
    exact nearestFloat_natural _
  simp only [integerOf, floatOf, magnitude]
  cases negative with
  | false => exact Or.inl rfl
  | true =>
      cases natOfDigits digits with
      | zero => exact Or.inr ⟨rfl, rfl⟩
      | succ n => exact Or.inl rfl

theorem comma_not_mem_text {m : SignedNumeral} (formed : m.magnitude.WellFormed) :
    ',' ∉ m.text := by
  have magnitude : ',' ∉ m.magnitude.text := by
    intro inside
    have other : ¬(isDigit ',' = true ∨ ',' = '.') := by decide
    exact other (formed.digit_or_point ',' inside)
  obtain ⟨negative, n⟩ := m
  cases negative with
  | true => exact List.not_mem_cons_of_ne_of_not_mem (by decide) magnitude
  | false => exact magnitude

/-- A text with a comma is a string. -/
theorem leaf_separated {text : List Char} (comma : ',' ∈ text) :
    leaf text = .string (String.ofList text) := by
  cases taken : literal? text with
  | none => rw [leaf, taken]
  | some n =>
      obtain ⟨m, formed, rfl⟩ := Document.signed_of_literal? taken
      exact absurd comma (comma_not_mem_text formed)

/-- Taken for a number or left as a string, a text is read as the same coordinate. -/
theorem asFloat?_leaf (text : List Char) :
    SameNumber (asFloat? (leaf text)) (finite? (trim text)) := by
  cases taken : literal? text with
  | none =>
      rw [leaf, taken]
      change SameNumber ((float? (trim (String.ofList text).toList)).filter Float.isFinite) _
      rw [String.toList_ofList]
      exact sameNumber_finite _
  | some n =>
      obtain ⟨m, formed, rfl, denoted⟩ := Document.literal?_iff.mp taken
      rw [leaf, taken, trim_of_solid (SignedNumeral.solid formed), finite?, float?_signed formed]
      change SameNumber ((some n.toFloat).filter Float.isFinite) _
      unfold Document.denoted? at denoted
      split at denoted
      · rename_i fits
        cases denoted
        rcases floatOf_integer fits.1 with same | ⟨zero, zero'⟩
        · rw [Number.toFloat, same]
          exact sameNumber_finite _
        · rw [Number.toFloat, zero, zero']
          exact .some (by decide)
      · split at denoted
        · cases denoted
          exact sameNumber_finite _
        · cases denoted

/-! The position. -/

theorem beq_point {x y z x' y' z' : Float} (east : (x == x') = true) (up : (y == y') = true)
    (south : (z == z') = true) : ((⟨x, y, z⟩ : Point) == ⟨x', y', z'⟩) = true := by
  change (x == x' && (y == y' && z == z')) = true
  rw [east, up, south]
  rfl

def pointOf {ε : Type} (e : ε) :
    Option Float → Option Float → Option Float → Except ε (Option Point)
  | some x, some y, some z => .ok (some ⟨x, y, z⟩)
  | _, _, _ => .error e

theorem pointOf_same {ε ε' : Type} (e : ε) (e' : ε') {x y z x' y' z' : Option Float}
    (east : SameNumber x x') (up : SameNumber y y') (south : SameNumber z z') :
    (∃ p p', pointOf e x y z = .ok (some p) ∧ pointOf e' x' y' z' = .ok (some p') ∧
      (p == p') = true) ∨
    pointOf e x y z = .error e ∧ pointOf e' x' y' z' = .error e' := by
  cases east with
  | none => exact .inr ⟨rfl, rfl⟩
  | some east =>
      cases up with
      | none => exact .inr ⟨rfl, rfl⟩
      | some up =>
          cases south with
          | none => exact .inr ⟨rfl, rfl⟩
          | some south => exact .inl ⟨_, _, rfl, rfl, beq_point east up south⟩

namespace Outcome

variable {members members' : List (String × Document)} {a b c : String}

theorem posOf_listed
    (there : member? "pos" members = some (.array ([a, b, c].map fun s => leaf s.toList))) :
    posOf members = pointOf .posNotNumbers (asFloat? (leaf a.toList)) (asFloat? (leaf b.toList))
      (asFloat? (leaf c.toList)) := by
  rw [posOf, there]
  simp only [List.map_cons, List.map_nil, List.mapM_cons, List.mapM_nil]
  cases asFloat? (leaf a.toList) <;> cases asFloat? (leaf b.toList) <;>
    cases asFloat? (leaf c.toList) <;> rfl

theorem posOf_spelled (plain : ∀ text ∈ [a, b, c], ',' ∉ text.toList)
    (there : member? "pos" members = some (leaf (Template.joined [a, b, c]).toList)) :
    posOf members = pointOf (.posNotVector ⟨Template.joined [a, b, c]⟩) (finite? (trim a.toList))
      (finite? (trim b.toList)) (finite? (trim c.toList)) := by
  have comma : ',' ∈ (Template.joined [a, b, c]).toList := by
    rw [Template.toList_joined_cons a (List.cons_ne_nil _ _)]
    simp
  rw [leaf_separated comma, String.ofList_toList] at there
  rw [posOf, there]
  dsimp only
  have parts : (Template.joined [a, b, c]).toList.splitOn ',' = [a, b, c].map String.toList :=
    splitOn_intercalate rfl (List.cons_ne_nil _ _) plain
  rw [Point.parse, parts]
  simp only [List.map_cons, List.map_nil]
  cases finite? (trim a.toList) <;> cases finite? (trim b.toList) <;>
    cases finite? (trim c.toList) <;> rfl

end Outcome
/-! Three templates, one by one and all at once. -/

namespace Template

theorem resolve_three {x y z text : String} (unopened : ∀ t ∈ [x, y, z], '(' ∉ t.toList)
    {c last : Context} :
    resolve (joined [x, y, z]) c = (.ok text, last) ↔
      ∃ texts, OneByOne [x, y, z] c texts last ∧ text = joined texts :=
  have behind := (List.forall_mem_cons.mp unopened).2
  have two : Apart [y, z] := (apart_singleton z).cons (List.cons_ne_nil _ _) behind
  two.cons (List.cons_ne_nil _ _) unopened c last text

end Template

namespace Document

theorem draw_items {ts : List String} {c last : Context} {items : List Document} :
    c.draw (resolveItems c.toScene (ts.map .string)) = (.ok items, last) ↔
      ∃ texts, Template.OneByOne ts c texts last ∧ items = texts.map fun s => leaf s.toList := by
  induction ts generalizing c items with
  | nil =>
      rw [List.map_nil, resolveItems, Context.draw_pure]
      constructor
      · intro drawn
        cases drawn
        exact ⟨[], .done _, rfl⟩
      · rintro ⟨texts, separate, rfl⟩
        obtain ⟨rfl, rfl⟩ := Template.oneByOne_nil.mp separate
        rfl
  | cons t ts ih =>
      rw [List.map_cons, resolveItems, Context.draw_bind_ok]
      constructor
      · rintro ⟨item, mid, first, rest⟩
        rw [Context.draw_map_ok, ← Context.draw_toScene first] at rest
        obtain ⟨items, rest, rfl⟩ := rest
        obtain ⟨text, resolved, rfl⟩ := draw_string_ok first
        obtain ⟨texts, separate, rfl⟩ := ih.mp rest
        exact ⟨text :: texts, .next resolved separate, rfl⟩
      · rintro ⟨texts, separate, rfl⟩
        obtain ⟨text, mid, texts, resolved, others, rfl⟩ := Template.oneByOne_cons.mp separate
        have first := draw_string resolved
        refine ⟨_, mid, first, ?_⟩
        rw [Context.draw_map_ok, ← Context.draw_toScene first]
        exact ⟨_, ih.mpr ⟨texts, others, rfl⟩, rfl⟩

theorem draw_listed {ts : List String} {c last : Context} {after : Document} :
    c.draw ((array (ts.map .string)).resolve c.toScene) = (.ok after, last) ↔
      ∃ texts, Template.OneByOne ts c texts last ∧
        after = .array (texts.map fun s => leaf s.toList) := by
  rw [resolve, Context.draw_map_ok]
  simp only [draw_items]
  constructor
  · rintro ⟨_, ⟨texts, separate, rfl⟩, rfl⟩
    exact ⟨texts, separate, rfl⟩
  · rintro ⟨texts, separate, rfl⟩
    exact ⟨_, ⟨texts, separate, rfl⟩, rfl⟩

theorem draw_spelled {x y z : String} (unopened : ∀ t ∈ [x, y, z], '(' ∉ t.toList)
    {c last : Context} {after : Document} :
    c.draw ((string (Template.joined [x, y, z])).resolve c.toScene) = (.ok after, last) ↔
      ∃ texts, Template.OneByOne [x, y, z] c texts last ∧
        after = leaf (Template.joined texts).toList := by
  constructor
  · intro h
    obtain ⟨text, resolved, rfl⟩ := draw_string_ok h
    obtain ⟨texts, separate, rfl⟩ := (Template.resolve_three unopened).mp resolved
    exact ⟨texts, separate, rfl⟩
  · rintro ⟨texts, separate, rfl⟩
    exact draw_string ((Template.resolve_three unopened).mpr ⟨texts, separate, rfl⟩)

/-- If whatever comes of one document has a counterpart that comes of another, then a member that is
the one may be exchanged for the other. -/
theorem draw_modify {key : String} {before before' : Document} {R : Document → Document → Prop}
    (own : ∀ {c last : Context} {after}, c.draw (before.resolve c.toScene) = (.ok after, last) →
      ∃ after', R after after' ∧ c.draw (before'.resolve c.toScene) = (.ok after', last))
    {members after : List (String × Document)} (there : member? key members = some before)
    {c last : Context} (h : c.draw (resolveMembers c.toScene members) = (.ok after, last)) :
    ∃ part part', R part part' ∧ member? key after = some part ∧
      c.draw (resolveMembers c.toScene (Keyed.modify key (fun _ => before') members)) =
        (.ok (Keyed.modify key (fun _ => part') after), last) := by
  induction members generalizing c after with
  | nil => cases there
  | cons member members ih =>
      obtain ⟨k, item⟩ := member
      rw [resolveMembers, Context.draw_bind_ok] at h
      obtain ⟨item', mid, first, h⟩ := h
      rw [Context.draw_map_ok, ← Context.draw_toScene first] at h
      obtain ⟨rest, others, rfl⟩ := h
      rw [member?, Keyed.find?] at there
      by_cases same : key = k
      · rw [if_pos same] at there
        cases there
        obtain ⟨part', related, drawn⟩ := own first
        refine ⟨item', part', related, ?_, ?_⟩
        · rw [member?, Keyed.find?, if_pos same]
        · rw [Keyed.modify, Keyed.modify, if_pos same, if_pos same]
          exact draw_member k drawn others
      · rw [if_neg same] at there
        obtain ⟨part, part', related, found, drawn⟩ := ih there others
        refine ⟨part, part', related, ?_, ?_⟩
        · rw [member?, Keyed.find?, if_neg same]
          exact found
        · rw [Keyed.modify, Keyed.modify, if_neg same, if_neg same]
          exact draw_member k first drawn

/-- The texts that come of the position's items have no comma. -/
def Unseparated (document : Document) (c : Context) : Prop :=
  ∀ turns last, turns.map Turn.place = document.leaves → InTurn turns c last →
    ∀ t ∈ turns, ∀ i, t.path = [.member "pos", .item i] → ',' ∉ t.text.toList

/-- The position's items, one by one, in an array that has resolved. -/
theorem Unseparated.texts {members after : List (String × Document)} {c last : Context}
    (h : Unseparated (.object members) c)
    (drawn : c.draw ((object members).resolve c.toScene) = (.ok (.object after), last))
    (ts : List String) {texts : List String}
    (there : member? "pos" members = some (.array (ts.map .string)))
    (there' : member? "pos" after = some (.array (texts.map fun s => leaf s.toList)))
    (length : texts.length = ts.length) : ∀ text ∈ texts, ',' ∉ text.toList := by
  intro text inside comma
  obtain ⟨turns, places, inTurn, becomes⟩ := resolve_ok _ c _ last drawn
  obtain ⟨i, bound, rfl⟩ := List.getElem_of_mem inside
  have bound' : i < ts.length := length ▸ bound
  have before : (object members).at? [.member "pos", .item i] = some (.string ts[i]) := by
    simp [at?, there, bound']
  have behind : (object after).at? [.member "pos", .item i] = some (leaf texts[i].toList) := by
    simp [at?, there', bound]
  have own := becomes [.member "pos", .item i]
  rw [before, behind] at own
  obtain ⟨t, taken, place, _, same⟩ := own.exists_leaf
  -- A text with a comma is left as it is, so it is the text of the turn.
  rw [leaf_separated comma, String.ofList_toList, Option.some_inj] at same
  have whole : t.text = texts[i] := by
    unfold leaf at same
    split at same
    · cases same
    · rw [String.ofList_toList] at same
      exact (Document.string.inj same).symm
  exact h turns last places inTurn t taken i place (whole ▸ comma)

end Document

namespace Outcome

variable {members members' : List (String × Document)}

/-- The positions of both are equal as numbers, or neither has one that can be read. -/
def SamePosition (members members' : List (String × Document)) : Prop :=
  (∃ p p', posOf members = .ok (some p) ∧ posOf members' = .ok (some p') ∧ (p == p') = true) ∨
    ∃ e e', posOf members = .error e ∧ posOf members' = .error e'

theorem samePosition_of_texts {texts : List String} (three : texts.length = 3)
    (plain : ∀ text ∈ texts, ',' ∉ text.toList)
    (there : member? "pos" members = some (.array (texts.map fun s => leaf s.toList)))
    (there' : member? "pos" members' = some (leaf (Template.joined texts).toList)) :
    SamePosition members members' := by
  obtain ⟨a, b, d, rfl⟩ := List.length_eq_three.mp three
  rw [SamePosition, posOf_listed there, posOf_spelled plain there']
  rcases pointOf_same Malformation.posNotNumbers
    (Malformation.posNotVector ⟨Template.joined [a, b, d]⟩)
    (asFloat?_leaf a.toList) (asFloat?_leaf b.toList) (asFloat?_leaf d.toList) with read | unread
  · exact Or.inl read
  · exact Or.inr ⟨_, _, unread⟩

theorem actionOf_alike {key : String} (alike : AlikeBut key members members')
    (apart : key ∉ ["status_effect", "sound_event", "volume", "pitch"]) (kind : Kind) :
    actionOf kind members' = actionOf kind members := by
  have same (other : String)
      (listed : other ∈ ["status_effect", "sound_event", "volume", "pitch"]) :
      member? other members' = member? other members :=
    alike other fun own => apart (own ▸ listed)
  cases kind with
  | effect => simp only [actionOf, StatusEffect.ofOutcome, same "status_effect" (by simp)]
  | sound =>
      simp only [actionOf, Sound.ofOutcome, Sound.numberField, same "sound_event" (by simp),
        same "volume" (by simp), same "pitch" (by simp)]

theorem posOf_of_ofDocument {id : Identifier} {kind : Kind} {o : Outcome}
    (read : ofDocument id kind (.object members) = .ok o) : posOf members = .ok o.pos := by
  obtain ⟨_, delay, pos, action, ⟨⟩, _, placed, _, rfl⟩ := ofDocument_eq_ok_iff.mp read
  exact placed

/-- Nothing else of an outcome depends on the position. -/
theorem ofDocument_moved {id : Identifier} {kind : Kind} {o : Outcome} {pos : Option Point}
    (alike : AlikeBut "pos" members members') (placed : posOf members' = .ok pos)
    (read : ofDocument id kind (.object members) = .ok o) :
    ofDocument id kind (.object members') = .ok { o with pos } := by
  obtain ⟨_, delay, _, action, ⟨⟩, delayed, _, acts, rfl⟩ := ofDocument_eq_ok_iff.mp read
  refine ofDocument_eq_ok_iff.mpr ⟨members', delay, pos, action, rfl, ?_, placed, ?_, ?_⟩
  · rw [← delayed, delayOf, delayOf, alike "delay" (by decide)]
  · rw [actionOf_alike alike (by decide), acts]
  · rw [alike "luck" (by decide), alike "chance" (by decide)]

/-- Two resolutions fail both, or they leave the same context behind and their outcomes are the same
at positions that are equal as numbers. -/
inductive Alike : Except Error Outcome × Context → Except Error Outcome × Context → Prop
  | fail (e e' : Error) (last last' : Context) : Alike (.error e, last) (.error e', last')
  | succeed {o : Outcome} {p p' : Point} (last : Context) (placed : o.pos = some p)
      (same : (p == p') = true) : Alike (.ok o, last) (.ok { o with pos := some p' }, last)

theorem alike_of {r r' : Except Error Outcome × Context}
    (onto : ∀ o last, r = (.ok o, last) → ∃ p p', o.pos = some p ∧ (p == p') = true ∧
      r' = (.ok { o with pos := some p' }, last))
    (back : ∀ o last, r' = (.ok o, last) → ∃ o', r = (.ok o', last)) : Alike r r' := by
  obtain ⟨e | o, last⟩ := r
  · obtain ⟨e' | o', last'⟩ := r'
    · exact .fail e e' last last'
    · obtain ⟨_, impossible⟩ := back o' last' rfl
      cases impossible
  · obtain ⟨p, p', placed, same, rfl⟩ := onto o last rfl
    exact .succeed last placed same

theorem resolve_members_iff {d : Definition} {members : List (String × Document)}
    (document : d.document = .object members) {c last : Context} {o : Outcome} :
    resolve d c = (.ok o, last) ↔ ∃ after,
      c.draw (Document.resolveMembers c.toScene members) = (.ok after, last) ∧
      ofDocument d.id d.kind (.object after) = .ok o := by
  rw [resolve_eq_ok_iff, document]
  simp only [Document.resolve, Context.draw_map_ok]
  constructor
  · rintro ⟨_, ⟨after, drawn, rfl⟩, read⟩
    exact ⟨after, drawn, read⟩
  · rintro ⟨after, drawn, read⟩
    exact ⟨_, ⟨after, drawn, rfl⟩, read⟩

section Spellings

variable {x y z : String} {c : Context}

/-- What comes of one spelling, and of the other. -/
def Counterparts (listed spelled : Document) : Prop :=
  ∃ texts : List String, texts.length = 3 ∧
    listed = .array (texts.map fun s => leaf s.toList) ∧
    spelled = leaf (Template.joined texts).toList

/-- The members with the position as one text. -/
def respelled (x y z : String) (members : List (String × Document)) : List (String × Document) :=
  Keyed.modify "pos" (fun _ => .string (Template.joined [x, y, z])) members

theorem exists_spelled {last : Context} {after : Document}
    (unopened : ∀ t ∈ [x, y, z], '(' ∉ t.toList)
    (h : c.draw ((Document.array [.string x, .string y, .string z]).resolve c.toScene) =
      (.ok after, last)) :
    ∃ after', Counterparts after after' ∧
      c.draw ((Document.string (Template.joined [x, y, z])).resolve c.toScene) =
        (.ok after', last) := by
  obtain ⟨texts, separate, rfl⟩ := (@Document.draw_listed [x, y, z] c last after).mp h
  exact ⟨_, ⟨texts, separate.length_eq, rfl, rfl⟩,
    (Document.draw_spelled unopened).mpr ⟨texts, separate, rfl⟩⟩

theorem exists_listed {last : Context} {after : Document}
    (unopened : ∀ t ∈ [x, y, z], '(' ∉ t.toList)
    (h : c.draw ((Document.string (Template.joined [x, y, z])).resolve c.toScene) =
      (.ok after, last)) :
    ∃ after', Counterparts after' after ∧
      c.draw ((Document.array [.string x, .string y, .string z]).resolve c.toScene) =
        (.ok after', last) := by
  obtain ⟨texts, separate, rfl⟩ := (Document.draw_spelled unopened).mp h
  exact ⟨_, ⟨texts, separate.length_eq, rfl, rfl⟩,
    (@Document.draw_listed [x, y, z] c last _).mpr ⟨texts, separate, rfl⟩⟩

variable {members : List (String × Document)}

/-- However the position is spelled, what comes of the members differs in the position only. -/
theorem draw_respelled (unopened : ∀ t ∈ [x, y, z], '(' ∉ t.toList)
    (there : member? "pos" members = some (.array [.string x, .string y, .string z]))
    (plain : Document.Unseparated (.object members) c) {last : Context}
    {after : List (String × Document)}
    (drawn : c.draw (Document.resolveMembers c.toScene members) = (.ok after, last)) :
    ∃ after', c.draw (Document.resolveMembers c.toScene (respelled x y z members)) =
      (.ok after', last) ∧ AlikeBut "pos" after after' ∧ SamePosition after after' := by
  obtain ⟨_, _, ⟨texts, three, rfl, rfl⟩, found, drawn'⟩ :=
    Document.draw_modify (exists_spelled unopened) there drawn
  have clear : ∀ text ∈ texts, ',' ∉ text.toList :=
    plain.texts (Document.draw_object drawn) [x, y, z] there found three
  exact ⟨_, drawn', alikeBut_modify _ _ _,
    samePosition_of_texts three clear found (member?_modify found)⟩

theorem draw_of_respelled (unopened : ∀ t ∈ [x, y, z], '(' ∉ t.toList)
    (there : member? "pos" members = some (.array [.string x, .string y, .string z]))
    {last : Context} {after' : List (String × Document)}
    (drawn' : c.draw (Document.resolveMembers c.toScene (respelled x y z members)) =
      (.ok after', last)) :
    ∃ after, c.draw (Document.resolveMembers c.toScene members) = (.ok after, last) := by
  obtain ⟨_, _, _, _, drawn⟩ := Document.draw_modify
    (R := fun spelled listed => Counterparts listed spelled) (exists_listed unopened)
    (member?_modify there) drawn'
  rw [respelled, Keyed.modify_modify _ there] at drawn
  exact ⟨_, drawn⟩

theorem resolve_respelled (unopened : ∀ t ∈ [x, y, z], '(' ∉ t.toList)
    (there : member? "pos" members = some (.array [.string x, .string y, .string z]))
    (plain : Document.Unseparated (.object members) c) {d : Definition}
    (document : d.document = .object members) :
    Alike (resolve d c) (resolve { d with document := .object (respelled x y z members) } c) := by
  refine alike_of ?_ ?_
  · intro o last resolved
    obtain ⟨after, drawn, read⟩ := (resolve_members_iff document).mp resolved
    obtain ⟨after', drawn', alike, position⟩ := draw_respelled unopened there plain drawn
    have own := posOf_of_ofDocument read
    rcases position with ⟨p, p', placed, placed', same⟩ | ⟨e, _, failed, _⟩
    · refine ⟨p, p', Except.ok.inj (own.symm.trans placed), same, ?_⟩
      exact (resolve_members_iff rfl).mpr ⟨after', drawn', ofDocument_moved alike placed' read⟩
    · cases own.symm.trans failed
  · intro o' last resolved
    obtain ⟨after', drawn', read'⟩ := (resolve_members_iff rfl).mp resolved
    obtain ⟨after, drawn⟩ := draw_of_respelled unopened there drawn'
    obtain ⟨_, again, alike, position⟩ := draw_respelled unopened there plain drawn
    cases again.symm.trans drawn'
    have own := posOf_of_ofDocument read'
    rcases position with ⟨p, _, placed, _⟩ | ⟨_, _, _, failed⟩
    · exact ⟨_, (resolve_members_iff document).mpr
        ⟨after, drawn, ofDocument_moved alike.symm placed read'⟩⟩
    · cases own.symm.trans failed

theorem posText_listed
    (there : member? "pos" members = some (.array [.string x, .string y, .string z])) :
    Definition.posText members = .ok (some (Template.joined [x, y, z])) := by
  have text : String.ofList (Point.joined x.toList y.toList z.toList) =
      Template.joined [x, y, z] := by
    rw [← String.toList_inj, String.toList_ofList, Template.toList_joined_cons x (by simp),
      Template.toList_joined_cons y (by simp), Template.joined_singleton]
    exact List.append_assoc _ _ _
  rw [Definition.posText, there]
  exact congrArg (fun s => Except.ok (some s)) text

/-- Loading an object whose position has a text. -/
theorem decode_object (id : Identifier) {pos : Option String}
    (placed : Definition.posText members = .ok pos) :
    Definition.decode id (.object members) =
      ((Definition.kindOf members).bind fun kind =>
        (Definition.checkPayload kind members).map fun _ =>
          { id, kind, pos, document := .object members
            luck := (member? "luck" members).bind Document.asInt32?
            chance := (member? "chance" members).bind asFloat?
            delay := (member? "delay" members).bind Document.asNat32? : Definition }).mapError
        (.malformed id) := by
  unfold Definition.decode Definition.ofDocument Definition.membersOf
  simp only [bind, Except.bind, placed]
  cases Definition.kindOf members with
  | error e => rfl
  | ok kind =>
      dsimp only
      cases Definition.checkPayload kind members <;> rfl

/-- Loading reads the same ahead of both spellings. -/
theorem decode_respelled (id : Identifier)
    (there : member? "pos" members = some (.array [.string x, .string y, .string z])) :
    Definition.decode id (.object (respelled x y z members)) =
      (Definition.decode id (.object members)).map fun d =>
        { d with document := .object (respelled x y z members) } := by
  have alike : AlikeBut "pos" members (respelled x y z members) := alikeBut_modify _ _ _
  have kind : Definition.kindOf (respelled x y z members) = Definition.kindOf members := by
    rw [Definition.kindOf, Definition.kindOf, alike "type" (by decide)]
  have payload (kind : Kind) : Definition.checkPayload kind (respelled x y z members) =
      Definition.checkPayload kind members := by
    cases kind with
    | effect => simp only [Definition.checkPayload, alike "status_effect" (by decide)]
    | sound => simp only [Definition.checkPayload, alike "sound_event" (by decide)]
  have pos : Definition.posText (respelled x y z members) =
      .ok (some (Template.joined [x, y, z])) := by
    rw [Definition.posText, respelled, member?_modify there]
  rw [decode_object id pos, decode_object id (posText_listed there), kind,
    alike "luck" (by decide), alike "chance" (by decide), alike "delay" (by decide)]
  simp only [payload]
  cases Definition.kindOf members with
  | error e => rfl
  | ok kind =>
      dsimp only [Except.bind]
      cases Definition.checkPayload kind members <;> rfl

/-- A position as an array of three templates without parentheses, and as the same templates with
commas between, is the same text at loading. In any context in which no comma comes of the three,
resolution fails for both spellings or for none; then the context left behind is the same, and so is
the outcome, at positions that are equal as numbers. -/
theorem resolve_spellings
    (there : member? "pos" members = some (.array [.string x, .string y, .string z]))
    (unopened : ∀ t ∈ [x, y, z], '(' ∉ t.toList) (id : Identifier)
    (plain : Document.Unseparated (.object members) c) :
    let listed := Document.object members
    let spelled := Document.object (respelled x y z members)
    Definition.decode id spelled =
        (Definition.decode id listed).map (fun d => { d with document := spelled }) ∧
      ∀ d, Definition.decode id listed = .ok d →
        d.pos = some (Template.joined [x, y, z]) ∧
        Alike (resolve d c) (resolve { d with document := spelled } c) := by
  intro listed spelled
  refine ⟨decode_respelled id there, ?_⟩
  intro d decoded
  have document := Definition.decode_document decoded
  refine ⟨?_, resolve_respelled unopened there plain document⟩
  obtain ⟨_, _, pos, same, _, _, read, rfl⟩ :=
    Definition.ofDocument_eq_ok_iff.mp (Definition.decode_eq_ok_iff.mp decoded)
  obtain rfl := Document.object.inj same
  exact Except.ok.inj (read.symm.trans (posText_listed there))

end Spellings

/-- A placeholder, a zero with a minus, and a number between blanks. -/
theorem spellings_of_zero :
    let pos : Document := .array [.string "\x7bblockPosY\x7d", .string "-0", .string " 7.5 "]
    let members := [("pos", pos), ("sound_event", .string "bell"), ("type", .string "sound")]
    let spelled := respelled "\x7bblockPosY\x7d" "-0" " 7.5 " members
    let c : Context := ⟨{ block := ⟨0, 64, 0⟩ }, ⟨fun _ => 0, 0⟩⟩
    let d : Definition :=
      { id := ⟨"luckbox", "bell"⟩, kind := .sound, luck := none, chance := none, delay := none
        pos := some "\x7bblockPosY\x7d,-0, 7.5 ", document := .object members }
    let o : Outcome :=
      { id := ⟨"luckbox", "bell"⟩, luck := 0, chance := 1, delay := 0, pos := some ⟨64, 0, 7.5⟩
        action := .sound { event := { id := ⟨"minecraft", "bell"⟩ } } }
    Definition.decode ⟨"luckbox", "bell"⟩ (.object members) = .ok d ∧
      Document.Unseparated (.object members) c ∧ resolve d c = (.ok o, c) ∧
      ∃ p, (⟨64, 0, 7.5⟩ == p) = true ∧
        resolve { d with document := .object spelled } c = (.ok { o with pos := some p }, c) := by
  intro pos members spelled c d o
  have there : member? "pos" members = some pos := rfl
  have unopened : ∀ t ∈ ["\x7bblockPosY\x7d", "-0", " 7.5 "], '(' ∉ t.toList := by decide
  have decoded : Definition.decode ⟨"luckbox", "bell"⟩ (.object members) = .ok d := rfl
  have text (s t : String) (callFree : Template.hasCall s.toList = false)
      (drawn : c.draw (Template.substitute c.toScene s.toList) = (.ok t.toList, c)) :=
    Template.resolve_of_callFree callFree drawn
  have east := text "\x7bblockPosY\x7d" "64" rfl rfl
  have up := text "-0" "-0" rfl rfl
  have south := text " 7.5 " " 7.5 " rfl rfl
  have bell := text "bell" "bell" rfl rfl
  have tag := text "sound" "sound" rfl rfl
  have plain : Document.Unseparated (.object members) c := by
    intro turns last places inTurn t inside i place
    let known : List Document.Turn :=
      [⟨[.member "pos", .item 0], "\x7bblockPosY\x7d", "64"⟩,
        ⟨[.member "pos", .item 1], "-0", "-0"⟩, ⟨[.member "pos", .item 2], " 7.5 ", " 7.5 "⟩,
        ⟨[.member "sound_event"], "bell", "bell"⟩, ⟨[.member "type"], "sound", "sound"⟩]
    have taken : Document.InTurn known c c :=
      .next east (.next up (.next south (.next bell (.next tag (.done c)))))
    have own : turns = known := inTurn.unique taken places
    have clear : ∀ t ∈ known, ',' ∉ t.text.toList := by decide
    exact clear t (own ▸ inside)
  have listed := (@Document.draw_listed ["\x7bblockPosY\x7d", "-0", " 7.5 "] c c _).mpr
    ⟨_, .next east (.next up (.next south (.done c))), rfl⟩
  have whole := Document.draw_member "pos" listed
    (Document.draw_member "sound_event" (Document.draw_string bell)
      (Document.draw_member "type" (Document.draw_string tag) (Document.draw_bare c)))
  have resolved : resolve d c = (.ok o, c) := (resolve_members_iff rfl).mpr ⟨_, whole, rfl⟩
  refine ⟨decoded, plain, resolved, ?_⟩
  obtain ⟨_, alike⟩ := (resolve_spellings there unopened ⟨"luckbox", "bell"⟩ plain).2 d decoded
  rw [resolved] at alike
  generalize resolve { d with document := .object spelled } c = other at alike ⊢
  cases alike with
  | succeed last placed same =>
      cases placed
      exact ⟨_, same, rfl⟩

end Outcome
end Fortune
