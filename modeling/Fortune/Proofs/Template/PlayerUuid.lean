import Fortune.Proofs.Arithmetic.Evaluation
import Fortune.Proofs.Decimal.Layout
import Fortune.Proofs.Template.Resolver
import Fortune.Proofs.Template.Words

/-!
The placeholder for the actor's unique number. Its text is five groups of hexadecimal digits, and
the pass that computes chains sees hyphens as minus signs. As long as fewer than two of the first
groups are numbers, or the group behind them begins with a digit, the text stays; otherwise these
groups are subtracted from each other.
-/
namespace Fortune.Uuid
open Text

def groups (u : Uuid) : List (List Char) :=
  [u.digits.take 8, (u.digits.drop 8).take 4, (u.digits.drop 12).take 4, (u.digits.drop 16).take 4,
    u.digits.drop 20]

theorem length_digits (u : Uuid) : u.digits.length = 32 := by simp [digits]

theorem isAlphanumeric_hexDigit : ∀ n < 16, isAlphanumeric (hexDigit n) = true := by decide

theorem isAlphanumeric_digits (u : Uuid) : ∀ c ∈ u.digits, isAlphanumeric c = true := by
  intro c inside
  obtain ⟨i, _, rfl⟩ := List.mem_map.mp inside
  exact isAlphanumeric_hexDigit _ (Nat.mod_lt _ (by decide))

theorem text_groups (u : Uuid) : u.text.toList = Template.hyphenated u.groups := by
  simp [text, groups, Template.hyphenated]

theorem isWord_groups (u : Uuid) : ∀ group ∈ u.groups, Template.IsWord group := by
  have size := u.length_digits
  have letters := u.isAlphanumeric_digits
  have some {group : List Char} (h : 0 < group.length) : group ≠ [] := List.ne_nil_of_length_pos h
  have inner (from_ size : Nat) : ∀ c ∈ (u.digits.drop from_).take size, isAlphanumeric c = true :=
    fun c h => letters c (List.mem_of_mem_drop (List.mem_of_mem_take h))
  intro group inside
  simp only [groups, List.mem_cons, List.not_mem_nil, or_false] at inside
  rcases inside with rfl | rfl | rfl | rfl | rfl
  · exact ⟨some (by simp [size]), fun c h => letters c (List.mem_of_mem_take h)⟩
  · exact ⟨some (by simp [size]), inner 8 4⟩
  · exact ⟨some (by simp [size]), inner 12 4⟩
  · exact ⟨some (by simp [size]), inner 16 4⟩
  · exact ⟨some (by simp [size]), fun c h => letters c (List.mem_of_mem_drop h)⟩

end Fortune.Uuid

namespace Fortune.Template
open Text Decimal

/-- The first number less all others, one after another. -/
def difference : List (List Char) → Float
  | [] => 0
  | first :: others =>
    others.foldl (fun value word => value - numeralFloat ⟨word, []⟩) (numeralFloat ⟨first, []⟩)

section Difference
open Arithmetic

/-- A number as a product of one factor. -/
def numberTerm (word : List Char) : Grammar.Product := ⟨.numeral ⟨word, []⟩, []⟩

theorem wellFormed_number {word : List Char} (some : word ≠ []) (number : IsNumber word) :
    Numeral.WellFormed ⟨word, []⟩ :=
  ⟨some, number, fun c inside => by cases inside⟩

theorem spaced_numbers {run : List (List Char)}
    (numbers : ∀ word ∈ run, word ≠ [] ∧ IsNumber word) :
    Spaced (run.flatMap fun word => [.minus, .numeral ⟨word, []⟩]) (run.flatMap ('-' :: ·)) := by
  induction run with
  | nil => exact .done fun c inside => by cases inside
  | cons word run ih =>
      obtain ⟨some, number⟩ := numbers word List.mem_cons_self
      have rest := ih fun other inside => numbers other (List.mem_cons_of_mem word inside)
      exact .cons (t := .minus) trivial
        (.cons (t := .numeral ⟨word, []⟩) (wellFormed_number some number) rest)

theorem evaluate_numbers {run : List (List Char)} (some : run ≠ [])
    (numbers : ∀ word ∈ run, word ≠ [] ∧ IsNumber word) :
    evaluate (hyphenated run) =
      if (difference run).isFinite then .ok (difference run) else .error .notFinite := by
  cases run with
  | nil => exact absurd rfl some
  | cons first others =>
      let sum : Grammar.Sum := ⟨numberTerm first, others.map fun word => (.minus, numberTerm word)⟩
      obtain ⟨some, number⟩ := numbers first List.mem_cons_self
      have rest := spaced_numbers fun word inside =>
        numbers word (List.mem_cons_of_mem first inside)
      have tokens : sum.tokens =
          .numeral ⟨first, []⟩ :: others.flatMap fun word => [.minus, .numeral ⟨word, []⟩] := by
        simp [sum, Grammar.Sum.tokens, Grammar.Product.tokens, Grammar.Chain.tokens, numberTerm,
          Operand.tokens, Grammar.Adding.token, List.flatMap_map]
      have value : sum.value = difference (first :: others) := by
        simp [sum, Grammar.Sum.value, Grammar.Product.value, Grammar.Chain.fold, numberTerm,
          Operand.value, Grammar.Adding.apply, List.foldl_map, difference]
      have spaced : Spaced sum.tokens (hyphenated (first :: others)) := by
        rw [tokens]
        exact .cons (t := .numeral ⟨first, []⟩) (wellFormed_number some number) rest
      rw [evaluate_of_spaced spaced, value]

end Difference

end Fortune.Template

namespace Fortune.Template
open Text Decimal

theorem fill_playerUUID (block : Block) (a : Actor) :
    fill ⟨block, some a⟩ "\x7bplayerUUID\x7d".toList = pure a.uuid.text.toList := by
  have parts : pieces placeholder? "\x7bplayerUUID\x7d".toList =
      [.found "playerUUID".toList "\x7bplayerUUID\x7d".toList] := by rfl
  have value : Parameter.lookup? (String.ofList "playerUUID".toList) ⟨block, some a⟩ =
      pure (some a.uuid.text.toList) := by rfl
  rw [fill, parts]
  simp only [replaceFound, value]
  exact congrArg (pure (f := Resolver)) (List.append_nil _)

/-- What computing makes of the groups is the result, as it has no quotes to lose. -/
theorem resolve_of_compute {block : Block} {a : Actor} {computed : Except Error (List Char)}
    (h : compute (hyphenated a.uuid.groups) = computed)
    (quoteless : ∀ text, computed = .ok text → '"' ∉ text) (source : Source) :
    resolve "\x7bplayerUUID\x7d" ⟨⟨block, some a⟩, source⟩ =
      (computed.map String.ofList, ⟨⟨block, some a⟩, source⟩) := by
  have bare := unquote_of_quoteless
    (not_mem_hyphenated (by decide) (by decide) a.uuid.isWord_groups)
  have callFree : hasCall "\x7bplayerUUID\x7d".toList = false := by rfl
  rw [resolve, resolveText_of_callFree callFree, substitute, fill_playerUUID, pure_bind,
    a.uuid.text_groups, bare, h]
  cases computed with
  | error e => rfl
  | ok text =>
      change (Except.ok (String.ofList (unquote text)), _) = _
      rw [unquote_of_quoteless (quoteless text rfl)]
      rfl

theorem floatText_ne_hyphenated {run : List (List Char)} (two : 2 ≤ run.length)
    (numbers : ∀ word ∈ run, word ≠ [] ∧ IsNumber word) (x : Float) :
    floatText x ≠ hyphenated run := by
  intro same
  obtain ⟨magnitude, tokens, shape⟩ := floatText_tokens x
  match run, two with
  | first :: second :: others, _ =>
      obtain ⟨some, number⟩ := numbers first List.mem_cons_self
      cases first with
      | nil => exact some rfl
      | cons d first =>
          rcases shape with shape | shape
          · have minus : '-' ∈ magnitude := by
              rw [← shape, same]
              simp [hyphenated]
            exact absurd (tokens _ minus) (by decide)
          · have front : '-' = d := (List.cons.inj (shape.symm.trans same)).1
            exact absurd (number d List.mem_cons_self) (front ▸ by decide)

section Resolve

variable (block : Block) {a : Actor}

theorem resolve_unled (unled : ¬∃ run rest, LeadingChain a.uuid.groups run rest) (source : Source) :
    resolve "\x7bplayerUUID\x7d" ⟨⟨block, some a⟩, source⟩ =
      (.ok a.uuid.text, ⟨⟨block, some a⟩, source⟩) := by
  have fit := a.uuid.isWord_groups
  rw [resolve_of_compute (compute_words fit unled), ← a.uuid.text_groups]
  · exact congrArg (fun text => (Except.ok text, _)) String.ofList_toList
  · intro text done
    cases done
    exact not_mem_hyphenated (by decide) (by decide) fit

theorem resolve_led {run rest : List (List Char)} (lead : LeadingChain a.uuid.groups run rest)
    (source : Source) :
    resolve "\x7bplayerUUID\x7d" ⟨⟨block, some a⟩, source⟩ =
      (if (difference run).isFinite then
          .ok (String.ofList (floatText (difference run) ++ rest.flatMap ('-' :: ·)))
        else .error (.arithmetic (String.ofList (hyphenated run)) .notFinite),
        ⟨⟨block, some a⟩, source⟩) := by
  have fit := a.uuid.isWord_groups
  have behind : '"' ∉ rest.flatMap ('-' :: ·) :=
    not_mem_behind (by decide) (by decide) fun word inside =>
      fit word (lead.split ▸ List.mem_append_right run inside)
  have computed := compute_leadingChain fit lead
  rw [chainValue, if_neg Bool.false_ne_true,
    evaluate_numbers lead.run_ne_nil (lead.runs_numbers fit)] at computed
  by_cases finite : (difference run).isFinite
  · rw [if_pos finite] at computed ⊢
    refine resolve_of_compute computed ?_ source
    intro text done
    cases done
    intro inside
    rcases List.mem_append.mp inside with value | word
    · exact not_mem_floatText (by decide) (by decide) _ value
    · exact behind word
  · rw [if_neg finite] at computed ⊢
    exact resolve_of_compute computed (fun text done => by cases done) source

end Resolve

/-- The placeholder gives the text of the unique number, and leaves the context alone, exactly if
the groups have no leading chain of numbers. Where they have one, its difference stands there. -/
theorem resolve_playerUUID (block : Block) (a : Actor) (source : Source) :
    (resolve "\x7bplayerUUID\x7d" ⟨⟨block, some a⟩, source⟩ =
        (.ok a.uuid.text, ⟨⟨block, some a⟩, source⟩) ↔
      ¬∃ run rest, LeadingChain a.uuid.groups run rest) ∧
    ∀ run rest, LeadingChain a.uuid.groups run rest →
      resolve "\x7bplayerUUID\x7d" ⟨⟨block, some a⟩, source⟩ =
        (if (difference run).isFinite then
            .ok (String.ofList (floatText (difference run) ++ rest.flatMap ('-' :: ·)))
          else .error (.arithmetic (String.ofList (hyphenated run)) .notFinite),
          ⟨⟨block, some a⟩, source⟩) := by
  refine ⟨⟨?_, fun unled => resolve_unled block unled source⟩,
    fun run rest lead => resolve_led block lead source⟩
  rintro same ⟨run, rest, lead⟩
  rw [resolve_led block lead] at same
  have fit := a.uuid.isWord_groups
  split at same
  · have texts := congrArg String.toList (Except.ok.inj (Prod.mk.inj same).1)
    rw [String.toList_ofList, a.uuid.text_groups, lead.split, hyphenated_append lead.run_ne_nil]
      at texts
    have same := List.append_cancel_right texts
    exact floatText_ne_hyphenated lead.two (lead.runs_numbers fit) _ same
  · cases (Prod.mk.inj same).1

/-- The unique number begins with three groups of digits. -/
def steve : Actor where
  name := "Steve"
  uuid := ⟨0x1234567812344123abcd123456789012⟩
  pos := ⟨3.4, 64, -9.5⟩

theorem playerUUID_subtracted :
    let c : Context := .ofSeed ⟨⟨0, 60, 0⟩, some steve⟩ 3
    steve.uuid.text = "12345678-1234-4123-abcd-123456789012" ∧
      resolve "\x7bplayerUUID\x7d" c = (.ok "12340321-abcd-123456789012", c) ∧
      resolve "\x7bplayerUUID\x7d" c ≠ (.ok steve.uuid.text, c) := by
  let run := ["12345678".toList, "1234".toList, "4123".toList]
  let rest := ["abcd".toList, "123456789012".toList]
  have digits : run.all (·.all isDigit) = true := by decide
  have numbers : ∀ word ∈ run, IsNumber word := fun word inside =>
    List.all_eq_true.mp (List.all_eq_true.mp digits word inside)
  have lead : LeadingChain steve.uuid.groups run rest := by
    refine ⟨by decide +kernel, by decide, numbers, ?_⟩
    rintro _ ⟨⟩ _ ⟨⟩
    decide
  have text : steve.uuid.text = "12345678-1234-4123-abcd-123456789012" := by decide +kernel
  have finite : (difference run).isFinite = true := by decide +kernel
  have value : floatText (difference run) = "12340321".toList := by decide +kernel
  have resolved := resolve_led ⟨0, 60, 0⟩ lead (Source.ofSeed 3)
  rw [if_pos finite, value] at resolved
  refine ⟨text, resolved, ?_⟩
  intro same
  have texts := Except.ok.inj (Prod.mk.inj (resolved.symm.trans same)).1
  rw [text] at texts
  exact absurd texts (by decide)

end Fortune.Template
