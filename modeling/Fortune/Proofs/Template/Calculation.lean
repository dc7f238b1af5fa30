import Fortune.Proofs.Arithmetic.Evaluation
import Fortune.Proofs.Decimal.Layout
import Fortune.Proofs.Template.Links
import Fortune.Proofs.Template.Plain

/-!
Templates that are a single chain. The scan takes all of it, and the parser of arithmetic reads the
same numerals and signs in it; so the template is worth what the expression is worth.
-/
namespace Fortune.Template
open Text Arithmetic

/-! A chain as tokens. Only a minus that stands where an operand is due belongs to a numeral. -/

def Operator.token : Operator → Token
  | .plus => .plus
  | .minus => .minus
  | .times => .star
  | .slash => .slash

theorem Operator.spelling_token (o : Operator) : o.token.spelling = [o.char] := by
  cases o <;> rfl

def signedOperand (n : SignedNumeral) : Operand :=
  if n.negative then .negated (.numeral n.magnitude) else .numeral n.magnitude

def Link.tokens (l : Link) : List Token := l.operator.token :: (signedOperand l.operand).tokens

def Chain.tokens (chain : Chain) : List Token :=
  (signedOperand chain.first).tokens ++ chain.links.flatMap Link.tokens

theorem spaced_operand {n : SignedNumeral} (formed : n.magnitude.WellFormed) {ts : List Token}
    {rest : List Char} (h : Spaced ts rest) :
    Spaced ((signedOperand n).tokens ++ ts) (n.text ++ rest) := by
  obtain ⟨negative, m⟩ := n
  have magnitude : Spaced (.numeral m :: ts) (m.text ++ rest) := h.cons (t := .numeral m) formed
  cases negative with
  | false => exact magnitude
  | true => exact magnitude.cons (t := .minus) trivial

theorem spaced_links {links : List Link} (fit : ∀ l ∈ links, l.operand.magnitude.WellFormed) :
    Spaced (links.flatMap Link.tokens) (links.flatMap Link.text) := by
  induction links with
  | nil => exact .done (List.forall_mem_nil _)
  | cons l links ih =>
      obtain ⟨formed, others⟩ := List.forall_mem_cons.mp fit
      have sign : l.operator.token.WellFormed := by cases l.operator <;> trivial
      have spaced := (spaced_operand formed (ih others)).cons sign
      rw [Operator.spelling_token] at spaced
      exact spaced

theorem Chain.WellFormed.spaced {chain : Chain} (formed : chain.WellFormed) :
    Spaced chain.tokens chain.text :=
  spaced_operand formed.first (spaced_links formed.operands)

/-- After an operand the parser goes on over all links. -/
theorem awaitOperator_links (sum : Product → Sum) (product : Product) (links : List Link) :
    ∃ e, awaitOperator sum product (links.flatMap Link.tokens) = .ok e := by
  induction links generalizing sum product with
  | nil => exact ⟨_, rfl⟩
  | cons l links ih =>
      obtain ⟨operator, n⟩ := l
      let rest := links.flatMap Link.tokens
      have operand (sum : Product → Sum) (product : Operand → Product) :
          ∃ e, awaitOperand sum product id ((signedOperand n).tokens ++ rest) = .ok e := by
        rw [awaitOperand_tokens]
        exact ih sum (product (signedOperand n))
      rw [List.flatMap_cons]
      cases operator with
      | plus => exact operand (.plus (sum product)) .single
      | minus => exact operand (.minus (sum product)) .single
      | times => exact operand sum (.times product)
      | slash => exact operand sum (.divided product)

theorem Chain.exists_sum (chain : Chain) : ∃ e : Grammar.Sum, e.tokens = chain.tokens := by
  apply (ofTokens_ok_iff chain.tokens).mp
  rw [Sum.ofTokens, Chain.tokens, awaitOperand_tokens]
  exact awaitOperator_links .single (.single (signedOperand chain.first)) chain.links

/-! A chain as a text. -/

/-- What chains are made of. -/
def IsLinkChar (c : Char) : Prop := isDigit c = true ∨ c = '.' ∨ isOperator c = true

instance : DecidablePred IsLinkChar :=
  fun c => inferInstanceAs (Decidable (isDigit c = true ∨ c = '.' ∨ isOperator c = true))

theorem isLinkChar_numeral {n : Numeral} (formed : n.WellFormed) : ∀ c ∈ n.text, IsLinkChar c :=
  fun c inside => (formed.digit_or_point c inside).imp_right .inl

theorem isLinkChar_signed {n : SignedNumeral} (formed : n.magnitude.WellFormed) :
    ∀ c ∈ n.text, IsLinkChar c := by
  intro c inside
  unfold SignedNumeral.text at inside
  split at inside
  · rcases List.mem_cons.mp inside with rfl | magnitude
    · exact .inr (.inr rfl)
    · exact isLinkChar_numeral formed c magnitude
  · exact isLinkChar_numeral formed c inside

theorem Chain.WellFormed.isLinkChar {chain : Chain} (formed : chain.WellFormed) :
    ∀ c ∈ chain.text, IsLinkChar c := by
  intro c inside
  rcases List.mem_append.mp inside with first | behind
  · exact isLinkChar_signed formed.first c first
  · obtain ⟨l, member, here⟩ := List.mem_flatMap.mp behind
    rcases List.mem_cons.mp here with rfl | operand
    · exact .inr (.inr (isOperator_iff.mpr ⟨l.operator, rfl⟩))
    · exact isLinkChar_signed (formed.operands l member) c operand

theorem Chain.WellFormed.not_mem {chain : Chain} (formed : chain.WellFormed) {mark : Char}
    (foreign : ¬IsLinkChar mark) : mark ∉ chain.text :=
  fun inside => foreign (formed.isLinkChar mark inside)

theorem compute_chain {chain : Chain} (formed : chain.WellFormed) :
    compute chain.text = chainValue false chain.text := by
  have longest : Longest IsChain chain.text chain.text :=
    ⟨⟨chain, formed, rfl⟩, List.prefix_rfl, fun _ _ front => front.length_le⟩
  have seen : chain? none chain.text = some (false, chain.text) := by
    rw [chain?, chainText?_eq_some_iff.mpr longest, Option.map_some, List.drop_length]
    rfl
  obtain ⟨rest, split, parts⟩ := piecesFrom_recognised chain?_honest seen
  obtain rfl : rest = [] := List.self_eq_append_right.mp split
  have behind : replaceFound chainValue (piecesFrom chain? 0 chain.text.getLast? []) = .ok [] := rfl
  rw [compute_eq, pieces, parts, replaceFound, behind]
  cases chainValue false chain.text with
  | error e => rfl
  | ok text => exact congrArg Except.ok (List.append_nil text)

/-- The value of the chain between no quotes. -/
theorem substitute_chain {chain : Chain} (formed : chain.WellFormed) (scene : Scene) :
    substitute scene chain.text = (chainValue false chain.text : Except Error (List Char)) := by
  have unbraced : '\x7b' ∉ chain.text := formed.not_mem (by decide)
  have unquoted : '"' ∉ chain.text := formed.not_mem (by decide)
  rw [substitute, fill_of_unbraced unbraced, pure_bind, unquote_of_quoteless unquoted,
    compute_chain formed, chainValue, if_neg Bool.false_ne_true]
  cases evaluate chain.text with
  | error fault => rfl
  | ok value =>
      have unquoted' : '"' ∉ Decimal.floatText value :=
        Decimal.not_mem_floatText (by decide) (by decide) value
      exact congrArg (fun text => (pure text : Resolver _)) (unquote_of_quoteless unquoted')

/-- A template that is a chain is lexed and parsed without fail, so that only a value that is not
finite is an error. The scene and the source have no part in it. -/
theorem resolve_chain {template : String} {chain : Chain} (formed : chain.WellFormed)
    (spelled : template.toList = chain.text) (c : Context) :
    (∃ e : Grammar.Sum, e.tokens = chain.tokens ∧ parse template.toList = .ok e.tree ∧
      evaluate template.toList = if e.value.isFinite then .ok e.value else .error .notFinite) ∧
    resolve template c =
      (match evaluate template.toList with
        | .ok value => .ok (String.ofList (Decimal.floatText value))
        | .error fault => .error (.arithmetic template fault), c) := by
  constructor
  · obtain ⟨e, same⟩ := chain.exists_sum
    have spaced : Spaced e.tokens template.toList := by
      rw [same, spelled]
      exact formed.spaced
    exact ⟨e, same, parse_of_spaced spaced, evaluate_of_spaced spaced⟩
  · have unopened : '(' ∉ template.toList := by
      rw [spelled]
      exact formed.not_mem (by decide)
    rw [resolve, resolveText_of_callFree (callFree_of_unopened unopened), spelled,
      substitute_chain formed, chainValue, if_neg Bool.false_ne_true]
    cases evaluate chain.text with
    | error fault =>
        rw [← spelled, String.ofList_toList]
        rfl
    | ok value => rfl

/-- A point before a minus, and a minus after an operator. -/
def tangled : Chain where
  first := ⟨true, ⟨['1'], ['5']⟩⟩
  links := [⟨.minus, ⟨true, ⟨['2'], []⟩⟩⟩, ⟨.times, ⟨true, ⟨['0'], ['2', '5']⟩⟩⟩]

theorem resolve_tangled :
    let c : Context := .ofSeed { block := ⟨0, 60, 0⟩ } 3
    tangled.WellFormed ∧ "-1.5--2*-0.25".toList = tangled.text ∧
      resolve "-1.5--2*-0.25" c = (.ok "-2", c) := by
  intro c
  have formed : tangled.WellFormed := {
    linked := List.cons_ne_nil _ _
    first := by simp [Numeral.WellFormed, tangled, isDigit]
    operands := by simp [Numeral.WellFormed, tangled, isDigit] }
  have spelled : "-1.5--2*-0.25".toList = tangled.text := rfl
  obtain ⟨_, resolved⟩ := resolve_chain formed spelled c
  have shown : (evaluate "-1.5--2*-0.25".toList).map Decimal.floatText = .ok "-2".toList := by
    decide +kernel
  refine ⟨formed, rfl, ?_⟩
  cases done : evaluate "-1.5--2*-0.25".toList with
  | error fault =>
      rw [done] at shown
      cases shown
  | ok value =>
      rw [done] at resolved shown
      have text : Decimal.floatText value = "-2".toList := Except.ok.inj shown
      dsimp only at resolved
      rw [resolved, text, String.ofList_toList]

end Fortune.Template
