import Fortune.Proofs.Except
import Fortune.Proofs.Template.Placeholders

/-!
Templates with commas between them. None of the passes over a text without calls reaches across a
comma, so they come to the same as the templates one by one.
-/
namespace Fortune.Template
open Text

/-! What a pass looks for ends at a comma, wherever the comma comes from. -/

theorem placeholder?_halts : placeholder?.HaltsAt ',' where
  empty _ := rfl
  ahead before text rest := by
    cases text with
    | nil => rfl
    | cons c text => exact placeholder?_ahead (by decide) (by decide) before c text rest
  behind text := placeholder?_spells.before_eq _ text

theorem signed_halt (text rest : List Char) :
    SignedNumeral.scan (text ++ ',' :: rest) =
      (SignedNumeral.scan text).map fun (n, more) => (n, more ++ ',' :: rest) := by
  have halt (text : List Char) := @Numeral.scan_halt ',' (by decide) (by decide) text rest
  cases text with
  | nil => rfl
  | cons c text =>
      by_cases minus : c = '-'
      · subst minus
        rw [List.cons_append, SignedNumeral.scan_minus, SignedNumeral.scan_minus, halt,
          Option.map_map, Option.map_map]
        rfl
      · have plain := halt (c :: text)
        rw [List.cons_append] at plain ⊢
        rw [SignedNumeral.scan_plain minus, SignedNumeral.scan_plain minus, plain,
          Option.map_map, Option.map_map]
        rfl

theorem quotedNumeral?_halts : quotedNumeral?.HaltsAt ',' where
  empty _ := rfl
  ahead before text rest := by
    cases text with
    | nil => rfl
    | cons c text =>
        by_cases quote : c = '"'
        · subst quote
          simp only [List.cons_append, quotedNumeral?, signed_halt]
          cases SignedNumeral.scan text with
          | none => rfl
          | some found =>
              obtain ⟨n, more⟩ := found
              cases more with
              | nil => rfl
              | cons d more =>
                  by_cases closed : d = '"'
                  · subst closed
                    rfl
                  · simp [closed]
        · simp [quotedNumeral?, quote]
  behind text := quotedNumeral?_spells.before_eq _ text

/-- Rounds enough for the text are rounds enough for what is joined to it. -/
theorem chainTail_halt {fuel fuel' : Nat} {text : List Char} (enough : text.length ≤ fuel)
    (enough' : text.length ≤ fuel') (rest : List Char) :
    chainTail fuel' (text ++ ',' :: rest) = chainTail fuel text := by
  induction fuel generalizing fuel' text with
  | zero =>
      obtain rfl := List.eq_nil_of_length_eq_zero (Nat.le_zero.mp enough)
      cases fuel' <;> rfl
  | succ fuel ih =>
      cases text with
      | nil => cases fuel' <;> rfl
      | cons c text =>
          obtain ⟨fuel', rfl⟩ := Nat.exists_eq_succ_of_ne_zero (Nat.ne_zero_of_lt enough')
          rw [List.cons_append, chainTail, chainTail, signed_halt]
          cases seen : SignedNumeral.scan text with
          | none => rfl
          | some found =>
              obtain ⟨n, more⟩ := found
              obtain ⟨split, _⟩ := SignedNumeral.scan_sound seen
              have shorter := congrArg List.length split
              rw [List.length_append] at shorter
              rw [List.length_cons] at enough enough'
              simp only [Option.map_some]
              rw [@ih fuel' more (by omega) (by omega)]

theorem chainText?_halt (text rest : List Char) :
    chainText? (text ++ ',' :: rest) = chainText? text := by
  rw [chainText?, chainText?, signed_halt]
  cases SignedNumeral.scan text with
  | none => rfl
  | some found =>
      obtain ⟨n, more⟩ := found
      have longer : more.length ≤ (more ++ ',' :: rest).length := by simp
      simp only [Option.map_some]
      rw [chainTail_halt (Nat.le_refl _) longer]

theorem chain?_halts : chain?.HaltsAt ',' where
  empty _ := rfl
  ahead before text rest := by
    rw [chain?, chain?, chainText?_halt]
    cases seen : chainText? text with
    | none => rfl
    | some lexeme =>
        -- No comma is part of a word, so a chain in front of it stands alone like one at an end.
        obtain ⟨behind, rfl⟩ := (chainText?_sound seen).1
        rw [Option.map_some, Option.map_some, List.append_assoc, List.drop_left, List.drop_left]
        cases behind with
        | nil =>
            have apart : isToken ',' = false := by decide
            simp [apart]
        | cons c behind => rfl
  behind text := by
    have apart : isToken ',' = false := by decide
    simp only [chain?, Option.any_some, Option.any_none, apart]

/-! The passes. -/

theorem fill_joined (scene : Scene) (first rest : List Char) :
    fill scene (first ++ ',' :: rest) = do
      let text ← fill scene first
      return text ++ ',' :: (← fill scene rest) :=
  replaceFound_halt placeholder?_honest placeholder?_halts _ first rest

theorem unquote_joined (first rest : List Char) :
    unquote (first ++ ',' :: rest) = unquote first ++ ',' :: unquote rest :=
  replaceFound_halt (m := Id) quotedNumeral?_honest quotedNumeral?_halts _ first rest

theorem compute_joined (first rest : List Char) :
    compute (first ++ ',' :: rest) = do
      let text ← compute first
      return text ++ ',' :: (← compute rest) :=
  replaceFound_halt chain?_honest chain?_halts _ first rest

theorem draw_substitute_ok {scene : Scene} {text out : List Char} {c last : Context} :
    c.draw (substitute scene text) = (.ok out, last) ↔ ∃ filled computed,
      c.draw (fill scene text) = (.ok filled, last) ∧ compute (unquote filled) = .ok computed ∧
      out = unquote computed := by
  simp only [substitute, Context.draw_bind_ok, Context.draw_lift, Context.draw_pure, Prod.mk.injEq,
    Except.ok.injEq]
  constructor
  · rintro ⟨filled, _, drawn, computed, _, ⟨done, rfl⟩, rfl, rfl⟩
    exact ⟨filled, computed, drawn, done, rfl⟩
  · rintro ⟨filled, computed, drawn, done, rfl⟩
    exact ⟨filled, last, drawn, computed, last, ⟨done, rfl⟩, rfl, rfl⟩

theorem draw_substitute_joined {scene : Scene} {first rest out : List Char} {c last : Context} :
    c.draw (substitute scene (first ++ ',' :: rest)) = (.ok out, last) ↔ ∃ a mid b,
      c.draw (substitute scene first) = (.ok a, mid) ∧
      mid.draw (substitute scene rest) = (.ok b, last) ∧ out = a ++ ',' :: b := by
  simp only [draw_substitute_ok, fill_joined, Context.draw_bind_ok, Context.draw_pure]
  constructor
  · rintro ⟨_, _, ⟨f, mid, first, g, _, second, made⟩, computed, rfl⟩
    cases made
    rw [unquote_joined, compute_joined] at computed
    obtain ⟨a, here, rest⟩ := bind_eq_ok_iff.mp computed
    obtain ⟨b, there, made⟩ := bind_eq_ok_iff.mp rest
    cases made
    exact ⟨_, mid, _, ⟨f, a, first, here, rfl⟩, ⟨g, b, second, there, rfl⟩, unquote_joined a b⟩
  · rintro ⟨_, mid, _, ⟨f, a, first, here, rfl⟩, ⟨g, b, second, there, rfl⟩, rfl⟩
    refine ⟨_, a ++ ',' :: b, ⟨f, mid, first, g, last, second, rfl⟩, ?_,
      (unquote_joined a b).symm⟩
    rw [unquote_joined, compute_joined, here, there]
    rfl

/-! One by one. -/

/-- Templates that resolve one after another, each in the context that the one before leaves. -/
inductive OneByOne : List String → Context → List String → Context → Prop
  | done (c : Context) : OneByOne [] c [] c
  | next {t text : String} {ts texts : List String} {c mid last : Context}
      (first : resolve t c = (.ok text, mid)) (rest : OneByOne ts mid texts last) :
      OneByOne (t :: ts) c (text :: texts) last

def joined (texts : List String) : String := ",".intercalate texts

theorem joined_singleton (text : String) : joined [text] = text := rfl

theorem toList_joined_cons (text : String) {texts : List String} (some : texts ≠ []) :
    (joined (text :: texts)).toList = text.toList ++ ',' :: (joined texts).toList := by
  cases texts with
  | nil => exact absurd rfl some
  | cons other texts => simp [joined, String.toList_intercalate]

theorem unopened_joined {texts : List String} (h : ∀ text ∈ texts, '(' ∉ text.toList) :
    '(' ∉ (joined texts).toList := by
  induction texts with
  | nil => exact List.not_mem_nil
  | cons text texts ih =>
      obtain ⟨own, others⟩ := List.forall_mem_cons.mp h
      by_cases last : texts = []
      · rw [last, joined_singleton]
        exact own
      · rw [toList_joined_cons text last]
        simp [own, ih others]

theorem oneByOne_cons {t : String} {ts texts : List String} {c last : Context} :
    OneByOne (t :: ts) c texts last ↔ ∃ text mid rest,
      resolve t c = (.ok text, mid) ∧ OneByOne ts mid rest last ∧ texts = text :: rest := by
  constructor
  · intro h
    cases h with
    | next first rest => exact ⟨_, _, _, first, rest, rfl⟩
  · rintro ⟨text, mid, rest, first, separate, rfl⟩
    exact .next first separate

theorem oneByOne_nil {texts : List String} {c last : Context} :
    OneByOne [] c texts last ↔ texts = [] ∧ last = c := by
  constructor
  · intro h
    cases h
    exact ⟨rfl, rfl⟩
  · rintro ⟨rfl, rfl⟩
    exact .done last

theorem OneByOne.length_eq {ts texts : List String} {c last : Context}
    (h : OneByOne ts c texts last) : texts.length = ts.length := by
  induction h with
  | done => rfl
  | next first rest ih => exact congrArg (· + 1) ih

theorem OneByOne.ne_nil {ts texts : List String} {c last : Context} (h : OneByOne ts c texts last)
    (some : ts ≠ []) : texts ≠ [] := by
  cases h with
  | done => exact absurd rfl some
  | next => exact List.cons_ne_nil _ _

/-- The templates joined by commas resolve exactly if they do so one by one. -/
def Apart (ts : List String) : Prop :=
  ∀ c last text, resolve (joined ts) c = (.ok text, last) ↔
    ∃ texts, OneByOne ts c texts last ∧ text = joined texts

theorem apart_singleton (t : String) : Apart [t] := by
  intro c last text
  rw [joined_singleton]
  constructor
  · intro resolved
    exact ⟨[text], .next resolved (.done last), rfl⟩
  · rintro ⟨texts, separate, rfl⟩
    obtain ⟨text, mid, _, resolved, others, rfl⟩ := oneByOne_cons.mp separate
    obtain ⟨rfl, rfl⟩ := oneByOne_nil.mp others
    exact resolved

/-- One template more. What stands in front of the first comma resolves first, then the others. -/
theorem Apart.cons {t : String} {ts : List String} (apart : Apart ts) (some : ts ≠ [])
    (unopened : ∀ u ∈ t :: ts, '(' ∉ u.toList) : Apart (t :: ts) := by
  intro c last text
  obtain ⟨own, others⟩ := List.forall_mem_cons.mp unopened
  have first {c mid : Context} {a : String} : resolve t c = (.ok a, mid) ↔ _ :=
    resolve_ok_iff (callFree_of_unopened own)
  have rest {c last : Context} {b : String} : resolve (joined ts) c = (.ok b, last) ↔ _ :=
    resolve_ok_iff (callFree_of_unopened (unopened_joined others))
  rw [resolve_ok_iff (callFree_of_unopened (unopened_joined unopened)), toList_joined_cons t some,
    draw_substitute_joined]
  constructor
  · rintro ⟨a, mid, b, here, there, split⟩
    rw [← Context.draw_toScene here] at there
    have head : resolve t c = (.ok (String.ofList a), mid) :=
      first.mpr (by rw [String.toList_ofList, here])
    have tail : resolve (joined ts) mid = (.ok (String.ofList b), last) :=
      rest.mpr (by rw [String.toList_ofList, there])
    obtain ⟨texts, separate, same⟩ := (apart mid last _).mp tail
    refine ⟨String.ofList a :: texts, .next head separate, String.toList_inj.mp ?_⟩
    rw [toList_joined_cons _ (separate.ne_nil some), ← same, String.toList_ofList,
      String.toList_ofList, split]
  · rintro ⟨_, separate, rfl⟩
    obtain ⟨a, mid, texts, head, behind, rfl⟩ := oneByOne_cons.mp separate
    have tail := (apart mid last _).mpr ⟨texts, behind, rfl⟩
    have here := first.mp head
    refine ⟨a.toList, mid, (joined texts).toList, here, ?_,
      toList_joined_cons a (behind.ne_nil some)⟩
    rw [← Context.draw_toScene here]
    exact rest.mp tail

/-- Templates without an opening parenthesis, joined by commas, resolve exactly if they do so one by
one; and then the text is that of the single texts joined by commas, and the context left behind is
the same, whatever the actor is called. -/
theorem resolve_joined {templates : List String} (some : templates ≠ [])
    (unopened : ∀ t ∈ templates, '(' ∉ t.toList) {c last : Context} {text : String} :
    resolve (joined templates) c = (.ok text, last) ↔
      ∃ texts, OneByOne templates c texts last ∧ text = joined texts := by
  suffices apart : Apart templates from apart c last text
  induction templates with
  | nil => exact absurd rfl some
  | cons t ts ih =>
      by_cases single : ts = []
      · rw [single]
        exact apart_singleton t
      · exact (ih single (List.forall_mem_cons.mp unopened).2).cons single unopened

/-- A name that is a numeral, before one half of a pair of quotes. -/
def seven : Context :=
  .ofSeed ⟨⟨0, 60, 0⟩, some { name := "7", uuid := ⟨0⟩, pos := ⟨3.4, 64, -9.5⟩ }⟩ 3

theorem quotes_apart :
    let templates := ["\"\x7bplayerName\x7d", "\x7bblockPosY\x7d\""]
    templates ≠ [] ∧ (∀ t ∈ templates, '(' ∉ t.toList) ∧
      joined templates = "\"\x7bplayerName\x7d,\x7bblockPosY\x7d\"" ∧
      resolve (joined templates) seven = (.ok "\"7,60\"", seven) := by
  intro templates
  have some : templates ≠ [] := List.cons_ne_nil _ _
  have unopened : ∀ t ∈ templates, '(' ∉ t.toList := by decide
  have first : resolve "\"\x7bplayerName\x7d" seven = (.ok "\"7", seven) :=
    resolve_of_callFree rfl rfl
  have second : resolve "\x7bblockPosY\x7d\"" seven = (.ok "60\"", seven) :=
    resolve_of_callFree rfl rfl
  refine ⟨some, unopened, by rfl, ?_⟩
  exact (resolve_joined some unopened).mpr ⟨_, .next first (.next second (.done _)), by rfl⟩

end Fortune.Template
