import Fortune.Proofs.Outcome.Resolution

/-!
Reading ahead. A definition reads its luck and its delay from the document as it stands; an outcome
reads them from the resolved one, in which a numeral is no longer text. Where resolution leaves the
texts as they are, both come to the same integers.
-/
namespace Fortune
open Document (member? asInt32? asInt64? asNat32? InTurn Turn)

namespace Document
open Decimal Text

/-- A float as the integer that it is cut off to. -/
def cutOff (x : Float) : Int := (Binary64.ofFloat x).truncate least64 greatest64

theorem asInt64?_string (s : String) :
    asInt64? (.string s) =
      (int64? (trim s.toList)).or ((finite? (trim s.toList)).map cutOff) := by
  unfold asInt64?
  cases read : int64? (trim s.toList) with
  | some n => simp only [read, Option.some_or]
  | none =>
      simp only [read, Option.none_or]
      rfl

theorem asInt64?_integer {n : Int} (fits : n ≤ greatest64) :
    asInt64? (.number (.integer n)) = some n := by
  simp only [asInt64?, if_pos fits]

theorem asInt64?_real {x : Float} (finite : x.isFinite = true) :
    asInt64? (.number (.real x)) = some (cutOff x) := by
  have read : asFloat? (.number (.real x)) = some x := Option.filter_eq_some_iff.mpr ⟨rfl, finite⟩
  simp only [asInt64?, read, Option.map_some]
  rfl

/-- A text reads as the same integer whether or not it has been taken for a number before. -/
theorem asInt64?_leaf (text : List Char) :
    asInt64? (leaf text) = asInt64? (.string (String.ofList text)) := by
  unfold leaf
  cases taken : literal? text with
  | none => rfl
  | some n =>
      -- A numeral has no blanks to trim, so one text decides what either side reads.
      obtain ⟨m, formed, rfl, denoted⟩ := literal?_iff.mp taken
      rw [asInt64?_string, String.toList_ofList, trim_of_solid (SignedNumeral.solid formed),
        int64?_signed formed, finite?, float?_signed formed]
      unfold denoted? at denoted
      split at denoted
      · rename_i fits
        cases denoted
        rw [if_pos fits, Option.some_or]
        exact asInt64?_integer fits.2.2
      · rename_i unfit
        rw [if_neg unfit, Option.none_or]
        split at denoted
        · rename_i finite
          cases denoted
          rw [Option.filter_some, if_pos finite]
          exact asInt64?_real finite
        · cases denoted

theorem leaf_ne_null (text : List Char) : leaf text ≠ .null := by
  unfold leaf
  split
  · exact fun same => by cases same
  · exact fun same => by cases same

section Becomes

variable {turns : List Turn} {path : Path} {before after : Option Document}

/-- What comes out of its turn as it went in still reads as the same integer. -/
theorem Becomes.asInt64?_eq (h : Becomes turns path before after)
    (same : ∀ t ∈ turns, t.path = path → before = some (.string t.template) →
      t.text = t.template) : after.bind asInt64? = before.bind asInt64? := by
  rcases before with _ | d
  · rw [show after = none from h]
  · cases d with
    | string s =>
        obtain ⟨t, inside, place, rfl, rfl⟩ := h.exists_leaf
        rw [Option.bind_some, Option.bind_some, asInt64?_leaf, String.ofList_toList,
          same t inside place rfl]
    -- Arrays and objects read as no integer, whatever becomes of what is in them.
    | array items =>
        obtain ⟨items', rfl, _⟩ := h
        rfl
    | object members =>
        obtain ⟨members', rfl, _⟩ := h
        rfl
    | null => rw [show after = some .null from h]
    | bool b => rw [show after = some (.bool b) from h]
    | number n => rw [show after = some (.number n) from h]

theorem Becomes.ne_null {d : Document} (h : Becomes turns path (some d) after) (real : d ≠ .null) :
    after ≠ some .null := by
  cases d with
  | string s =>
      obtain ⟨t, _, _, _, rfl⟩ := h.exists_leaf
      exact fun null => leaf_ne_null _ (Option.some.inj null)
  | array items =>
      obtain ⟨items', rfl, _⟩ := h
      exact fun null => by cases null
  | object members =>
      obtain ⟨members', rfl, _⟩ := h
      exact fun null => by cases null
  | null => exact absurd rfl real
  | bool b =>
      obtain rfl : after = some (.bool b) := h
      exact fun null => by cases null
  | number n =>
      obtain rfl : after = some (.number n) := h
      exact fun null => by cases null

end Becomes

theorem bind_asInt32? (o : Option Document) :
    o.bind asInt32? = (o.bind asInt64?).filter fun n => least32 ≤ n && n ≤ greatest32 := by
  cases o <;> rfl

theorem bind_asNat32? (o : Option Document) :
    o.bind asNat32? =
      ((o.bind asInt64?).filter fun n => 0 ≤ n && n.toNat < words32).map Int.toNat := by
  cases o <;> rfl

end Document

/-- The string under the key, if there is one, comes out of its turn as it went in, whenever the
ones before it resolve. -/
def Definition.Verbatim (d : Definition) (key : String) (c : Context) : Prop :=
  ∀ s turns later mid, d.document.at? [.member key] = some (.string s) →
    d.document.leaves = turns.map Turn.place ++ ([.member key], s) :: later → InTurn turns c mid →
    ∃ after, Template.resolve s mid = (.ok s, after)

namespace Outcome

variable {members members' : List (String × Document)} {d : Definition} {key : String}
  {c last : Context} {turns : List Turn}

theorem text_of_verbatim (verbatim : d.Verbatim key c)
    (places : turns.map Turn.place = d.document.leaves) (inTurn : InTurn turns c last) {t : Turn}
    (inside : t ∈ turns) (place : t.path = [.member key])
    (there : d.document.at? [.member key] = some (.string t.template)) : t.text = t.template := by
  obtain ⟨before, later, rfl⟩ := List.append_of_mem inside
  obtain ⟨mid, after, earlier, taken⟩ := inTurn.turn
  rw [List.map_append, List.map_cons, Turn.place, place] at places
  obtain ⟨_, kept⟩ := verbatim t.template before _ mid there places.symm earlier
  rw [taken] at kept
  exact Except.ok.inj (Prod.mk.inj kept).1

theorem integer_of_verbatim (whole : d.document = .object members) (verbatim : d.Verbatim key c)
    (places : turns.map Turn.place = (Document.object members).leaves) (inTurn : InTurn turns c last)
    (becomes : Document.Becomes turns [.member key] (member? key members) (member? key members')) :
    (member? key members').bind asInt64? = (member? key members).bind asInt64? := by
  refine becomes.asInt64?_eq fun t inside place there => ?_
  rw [← whole] at places
  rw [← Document.at?_member, ← whole] at there
  exact text_of_verbatim verbatim places inTurn inside place there

theorem eq_of_delayOf {n : Nat} (h : delayOf members = .ok n) :
    n = ((member? "delay" members).bind asNat32?).getD 0 := by
  unfold delayOf at h
  split at h
  · rename_i absent
    cases h
    rw [absent, Option.bind_none, Option.getD_none]
  · rename_i null
    cases h
    rw [null]
    rfl
  · rename_i value there
    split at h
    · rename_i read
      cases h
      rw [there, Option.bind_some, read, Option.getD_some]
    · cases h

theorem delayOf_unread {value : Document} (there : member? "delay" members = some value)
    (real : value ≠ .null) (unread : asNat32? value = none) :
    delayOf members = .error .delayNotNatural := by
  unfold delayOf
  split
  · rename_i absent
    rw [absent] at there
    cases there
  · rename_i null
    rw [null] at there
    exact absurd (Option.some.inj there).symm real
  · rename_i value' _ there'
    obtain rfl : value' = value := Option.some.inj (there'.symm.trans there)
    rw [unread]

/-- The delay is the first of the values that are read. -/
theorem ofDocument_of_delayOf {id : Identifier} {kind : Kind} {why : Malformation}
    (h : delayOf members = .error why) : ofDocument id kind (.object members) = .error why := by
  change (delayOf members >>= _) = _
  rw [h]
  rfl

theorem ofDocument_unread {id : Identifier} {kind : Kind} {value : Document}
    (becomes : Document.Becomes turns [.member "delay"] (some value) (member? "delay" members'))
    (real : value ≠ .null) (unread : (member? "delay" members').bind asNat32? = none) :
    ofDocument id kind (.object members') = .error .delayNotNatural := by
  obtain ⟨value', there⟩ := becomes.exists_after
  rw [there] at unread
  have real' : value' ≠ .null := fun null => becomes.ne_null real (null ▸ there)
  exact ofDocument_of_delayOf (delayOf_unread there real' unread)

/-- Where the texts of luck and delay come out as they went in, what was read ahead is what the
outcome has; and a delay that could not be read ahead is no delay of an outcome. -/
theorem readAhead_exact {id : Identifier} {document : Document} {d : Definition}
    (decoded : Definition.decode id document = .ok d) {c : Context} (luck : d.Verbatim "luck" c)
    (delay : d.Verbatim "delay" c) :
    (∀ o last, resolve d c = (.ok o, last) →
      o.luck = d.effectiveLuck ∧ o.delay = d.delay.getD 0) ∧
    ∀ value, document.at? [.member "delay"] = some value → value ≠ .null → d.delay = none →
      ∃ e last, resolve d c = (.error e, last) ∧
        ((∃ cause, e = .template cause) ∨ e = .malformed d.id .delayNotNatural) := by
  obtain ⟨members, rfl, whole, _, ahead, ahead'⟩ := Definition.exists_members decoded
  refine ⟨?_, ?_⟩
  · intro o last resolved
    obtain ⟨after, drawn, read⟩ := resolve_eq_ok_iff.mp resolved
    rw [whole] at drawn
    obtain ⟨turns, members', rfl, places, inTurn, becomes⟩ := Document.resolve_object drawn
    have lucks := integer_of_verbatim whole luck places inTurn (becomes "luck")
    have delays := integer_of_verbatim whole delay places inTurn (becomes "delay")
    obtain ⟨_, delay', _, _, same, delayed, _, _, rfl⟩ := ofDocument_eq_ok_iff.mp read
    cases same
    refine ⟨?_, ?_⟩
    · change ((member? "luck" members').bind asInt32?).getD Definition.defaultLuck = _
      rw [Document.bind_asInt32?, lucks, ← Document.bind_asInt32?, ← ahead]
      rfl
    · change delay' = _
      rw [eq_of_delayOf delayed, Document.bind_asNat32?, delays, ← Document.bind_asNat32?, ← ahead']
  · intro value there real unread
    rw [Document.at?_member] at there
    rcases drawn : c.draw (d.document.resolve c.toScene) with ⟨cause | after, last⟩
    · exact ⟨.template cause, last, by rw [resolve, drawn], .inl ⟨cause, rfl⟩⟩
    · refine ⟨.malformed d.id .delayNotNatural, last, ?_, .inr rfl⟩
      refine resolve_eq_malformed_iff.mpr ⟨rfl, after, drawn, ?_⟩
      rw [whole] at drawn
      obtain ⟨turns, members', rfl, places, inTurn, becomes⟩ := Document.resolve_object drawn
      have delays := integer_of_verbatim whole delay places inTurn (becomes "delay")
      refine ofDocument_unread (there ▸ becomes "delay") real ?_
      rw [Document.bind_asNat32?, delays, ← Document.bind_asNat32?, ← ahead', unread]

/-- A sign, and a fraction between blanks; then a number that is no delay. -/
theorem readAhead_of_signed :
    let id : Identifier := ⟨"luckbox", "bell"⟩
    let document : Document :=
      .object [("delay", .string " 007.9 "), ("luck", .string "-3"),
        ("sound_event", .string "bell"), ("type", .string "sound")]
    let d : Definition :=
      { id, kind := .sound, luck := some (-3), chance := none, delay := some 7, pos := none
        document }
    let c : Context := ⟨{ block := ⟨0, 64, 0⟩ }, ⟨fun _ => 0, 0⟩⟩
    let o : Outcome :=
      { id, luck := -3, chance := 1, delay := 7, pos := none
        action := .sound { event := { id := ⟨"minecraft", "bell"⟩ } } }
    let document' : Document :=
      .object [("delay", .number (.integer (-1))), ("sound_event", .string "bell"),
        ("type", .string "sound")]
    let d' : Definition :=
      { id, kind := .sound, luck := none, chance := none, delay := none, pos := none
        document := document' }
    Definition.decode id document = .ok d ∧ d.Verbatim "luck" c ∧ d.Verbatim "delay" c ∧
      resolve d c = (.ok o, c) ∧ (o.luck = d.effectiveLuck ∧ o.delay = d.delay.getD 0) ∧
      Definition.decode id document' = .ok d' ∧ ∃ e last, resolve d' c = (.error e, last) := by
  intro id document d c o document' d'
  have decoded : Definition.decode id document = .ok d := rfl
  have plain (s : String) (callFree : Template.hasCall s.toList = false) (mid : Context)
      (drawn : mid.draw (Template.substitute mid.toScene s.toList) = (.ok s.toList, mid)) :=
    Template.resolve_of_callFree callFree drawn
  have luck : d.Verbatim "luck" c := by
    intro s turns later mid there _ _
    obtain rfl : "-3" = s := Document.string.inj (Option.some.inj there)
    exact ⟨mid, plain "-3" rfl mid rfl⟩
  have delay : d.Verbatim "delay" c := by
    intro s turns later mid there _ _
    obtain rfl : " 007.9 " = s := Document.string.inj (Option.some.inj there)
    exact ⟨mid, plain " 007.9 " rfl mid rfl⟩
  have text (s : String) (callFree : Template.hasCall s.toList = false)
      (drawn : c.draw (Template.substitute c.toScene s.toList) = (.ok s.toList, c)) :=
    Document.draw_string (plain s callFree c drawn)
  have whole := Document.draw_object
    (Document.draw_member "delay" (text " 007.9 " rfl rfl)
      (Document.draw_member "luck" (text "-3" rfl rfl)
        (Document.draw_member "sound_event" (text "bell" rfl rfl)
          (Document.draw_member "type" (text "sound" rfl rfl) (Document.draw_bare c)))))
  have resolved : resolve d c = (.ok o, c) := resolve_eq_ok_iff.mpr ⟨_, whole, rfl⟩
  have decoded' : Definition.decode id document' = .ok d' := rfl
  have textless (key : String) (bare : ∀ s, document'.at? [.member key] ≠ some (.string s)) :
      d'.Verbatim key c := fun s _ _ _ there => absurd there (bare s)
  have unread := (readAhead_exact decoded' (textless "luck" fun s there => by cases there)
    (textless "delay" fun s there => by cases there)).2
  obtain ⟨e, last, failed, _⟩ := unread (.number (.integer (-1))) rfl (fun null => by cases null) rfl
  exact ⟨decoded, luck, delay, resolved, (readAhead_exact decoded luck delay).1 o c resolved,
    decoded', e, last, failed⟩

end Outcome
end Fortune
