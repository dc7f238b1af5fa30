import Fortune.Arithmetic.Expression

/-!
The grammar of arithmetic, as it is documented:

    sum     := product (('+' | '-') product)*
    product := unary (('*' | '/') unary)*
    unary   := '-' unary | NUMBER

A syntax tree has one node for each use of a rule, and a node takes its parts together from left to
right. The parser accepts the tokens of these trees and no others.
-/
namespace Fortune.Arithmetic
namespace Grammar

/-- A first part, and further parts with a sign before each. -/
structure Chain (σ τ : Type) where
  first : τ
  rest : List (σ × τ)

namespace Chain

variable {σ τ υ ω υ' ω' : Type}

def tokens (sign : σ → Token) (inner : τ → List Token) (c : Chain σ τ) : List Token :=
  inner c.first ++ c.rest.flatMap fun (s, x) => sign s :: inner x

def fold (join : σ → υ → ω → υ) (start : ω → υ) (inner : τ → ω) (c : Chain σ τ) : υ :=
  c.rest.foldl (fun v (s, x) => join s v (inner x)) (start (inner c.first))

def snoc (c : Chain σ τ) (s : σ) (x : τ) : Chain σ τ := ⟨c.first, c.rest ++ [(s, x)]⟩

theorem tokens_snoc (sign : σ → Token) (inner : τ → List Token) (c : Chain σ τ) (s : σ) (x : τ) :
    (c.snoc s x).tokens sign inner = c.tokens sign inner ++ sign s :: inner x := by
  simp [tokens, snoc]

/-- A function that respects the joints commutes with taking the parts together. -/
theorem map_fold {join : σ → υ → ω → υ} {start : ω → υ} {join' : σ → υ' → ω' → υ'}
    {start' : ω' → υ'} {f : υ → υ'} {g : ω → ω'} (hstart : ∀ x, f (start x) = start' (g x))
    (hjoin : ∀ s v x, f (join s v x) = join' s (f v) (g x)) (inner : τ → ω) (c : Chain σ τ) :
    f (c.fold join start inner) = c.fold join' start' fun x => g (inner x) := by
  obtain ⟨first, rest⟩ := c
  have grow : ∀ v, f (rest.foldl (fun v (s, x) => join s v (inner x)) v) =
      rest.foldl (fun v (s, x) => join' s v (g (inner x))) (f v) := by
    induction rest with
    | nil => exact fun v => rfl
    | cons part rest ih =>
        intro v
        rw [List.foldl_cons, List.foldl_cons, ih, hjoin]
  rw [fold, grow, hstart]
  rfl

end Chain

inductive Scaling where
  | times
  | divided

inductive Adding where
  | plus
  | minus

def Scaling.token : Scaling → Token
  | .times => .star
  | .divided => .slash

def Scaling.apply : Scaling → Float → Float → Float
  | .times => (· * ·)
  | .divided => (· / ·)

def Adding.token : Adding → Token
  | .plus => .plus
  | .minus => .minus

def Adding.apply : Adding → Float → Float → Float
  | .plus => (· + ·)
  | .minus => (· - ·)

abbrev Product := Chain Scaling Operand

abbrev Sum := Chain Adding Product

def Product.tokens (p : Product) : List Token := Chain.tokens Scaling.token Operand.tokens p

def Sum.tokens (e : Sum) : List Token := Chain.tokens Adding.token Product.tokens e

def Product.value (p : Product) : Float := Chain.fold Scaling.apply id Operand.value p

def Sum.value (e : Sum) : Float := Chain.fold Adding.apply id Product.value e

/-! The same trees with one node for each operator, as the parser makes them. -/

def Scaling.join : Scaling → Arithmetic.Product → Operand → Arithmetic.Product
  | .times => .times
  | .divided => .divided

def Adding.join : Adding → Arithmetic.Sum → Arithmetic.Product → Arithmetic.Sum
  | .plus => .plus
  | .minus => .minus

theorem Scaling.tokens_join (s : Scaling) (t : Arithmetic.Product) (o : Operand) :
    (s.join t o).tokens = t.tokens ++ s.token :: o.tokens := by
  cases s <;> rfl

theorem Adding.tokens_join (s : Adding) (t : Arithmetic.Sum) (p : Arithmetic.Product) :
    (s.join t p).tokens = t.tokens ++ s.token :: p.tokens := by
  cases s <;> rfl

def Product.tree (p : Product) : Arithmetic.Product := Chain.fold Scaling.join .single id p

def Sum.tree (e : Sum) : Arithmetic.Sum := Chain.fold Adding.join .single Product.tree e

theorem Product.value_tree (p : Product) : p.tree.value = p.value := by
  have starts : ∀ o, (Arithmetic.Product.single o).value = id o.value := fun _ => rfl
  have joints : ∀ s t o, (Scaling.join s t o).value = s.apply t.value o.value := by
    intro s t o
    cases s <;> rfl
  exact Chain.map_fold (f := Arithmetic.Product.value) (g := Operand.value) starts joints id p

theorem Sum.value_tree (e : Sum) : e.tree.value = e.value := by
  have starts : ∀ p, (Arithmetic.Sum.single p).value = id p.value := fun _ => rfl
  have joints : ∀ s t p, (Adding.join s t p).value = s.apply t.value p.value := by
    intro s t p
    cases s <;> rfl
  have folded := Chain.map_fold (f := Arithmetic.Sum.value) (g := Arithmetic.Product.value)
    starts joints Product.tree e
  simp only [Product.value_tree] at folded
  exact folded

end Grammar

/-! The parser accepts every tree. -/

theorem awaitOperand_tokens (sum : Product → Sum) (product : Operand → Product)
    (signed : Operand → Operand) (o : Operand) (rest : List Token) :
    awaitOperand sum product signed (o.tokens ++ rest) =
      awaitOperator sum (product (signed o)) rest := by
  induction o generalizing signed with
  | numeral n => rfl
  | negated inner ih => exact ih fun o => signed (.negated o)

theorem awaitOperator_factors (sum : Product → Sum) (product : Product)
    (factors : List (Grammar.Scaling × Operand)) (rest : List Token) :
    awaitOperator sum product
        (factors.flatMap (fun (s, o) => s.token :: o.tokens) ++ rest) =
      awaitOperator sum (factors.foldl (fun t (s, o) => s.join t o) product) rest := by
  induction factors generalizing product with
  | nil => rfl
  | cons factor factors ih =>
      obtain ⟨s, o⟩ := factor
      rw [List.flatMap_cons, List.append_assoc, List.foldl_cons, ← ih]
      cases s with
      | times => exact awaitOperand_tokens sum (.times product) id o _
      | divided => exact awaitOperand_tokens sum (.divided product) id o _

theorem awaitOperand_product (sum : Product → Sum) (p : Grammar.Product) (rest : List Token) :
    awaitOperand sum .single id (p.tokens ++ rest) = awaitOperator sum p.tree rest := by
  rw [Grammar.Product.tokens, Grammar.Chain.tokens, List.append_assoc, awaitOperand_tokens]
  exact awaitOperator_factors sum _ p.rest rest

theorem awaitOperator_terms (sum : Product → Sum) (product : Product)
    (terms : List (Grammar.Adding × Grammar.Product)) :
    awaitOperator sum product (terms.flatMap fun (s, p) => s.token :: p.tokens) =
      .ok (terms.foldl (fun t (s, p) => s.join t p.tree) (sum product)) := by
  induction terms generalizing sum product with
  | nil => rfl
  | cons term terms ih =>
      obtain ⟨s, p⟩ := term
      rw [List.flatMap_cons, List.foldl_cons]
      cases s with
      | plus => exact (awaitOperand_product (.plus (sum product)) p _).trans (ih _ _)
      | minus => exact (awaitOperand_product (.minus (sum product)) p _).trans (ih _ _)

theorem ofTokens_tokens (e : Grammar.Sum) : Sum.ofTokens e.tokens = .ok e.tree := by
  rw [Sum.ofTokens, Grammar.Sum.tokens, Grammar.Chain.tokens, awaitOperand_product]
  exact awaitOperator_terms .single _ e.rest

/-! The parser accepts nothing else. -/

/-- The tokens of what the parser makes are those behind it and those it still reads. Around the
operand or product in hand stand the tokens of the sum so far, which a further sign ends. -/
theorem await_sound (ts : List Token) :
    (∀ (sum : Product → Sum) (product : Operand → Product) (signed : Operand → Operand)
        (terms front : List Token) (e : Sum),
      (∀ p, (sum p).tokens = terms ++ p.tokens) →
      (∀ o, (sum (product (signed o))).tokens = front ++ o.tokens) →
      awaitOperand sum product signed ts = .ok e → e.tokens = front ++ ts) ∧
    ∀ (sum : Product → Sum) (product : Product) (terms : List Token) (e : Sum),
      (∀ p, (sum p).tokens = terms ++ p.tokens) →
      awaitOperator sum product ts = .ok e → e.tokens = (sum product).tokens ++ ts := by
  induction ts with
  | nil =>
      constructor
      · intro sum product signed terms front e hsum hfront h
        cases h
      · intro sum product terms e hsum h
        cases h
        rw [List.append_nil]
  | cons t ts ih =>
      obtain ⟨operand, operator⟩ := ih
      constructor
      · intro sum product signed terms front e hsum hfront h
        cases t with
        | numeral n =>
            rw [operator _ _ terms e hsum h, hfront]
            simp [Operand.tokens]
        | minus =>
            have negated : ∀ o, (sum (product (signed (.negated o)))).tokens =
                (front ++ [.minus]) ++ o.tokens := by
              simp [hfront, Operand.tokens]
            rw [operand _ _ _ terms _ e hsum negated h]
            simp
        | plus => cases h
        | star => cases h
        | slash => cases h
      · intro sum product terms e hsum h
        -- A sign joins the next operand to the product in hand, or the next product to the sum.
        have scaled : ∀ s : Grammar.Scaling,
            awaitOperand sum (s.join product) id ts = .ok e →
              e.tokens = (sum product).tokens ++ s.token :: ts := by
          intro s h
          have joined : ∀ o, (sum (s.join product (id o))).tokens =
              ((sum product).tokens ++ [s.token]) ++ o.tokens := by
            simp [hsum, Grammar.Scaling.tokens_join]
          rw [operand _ _ _ terms _ e hsum joined h, List.append_assoc, List.singleton_append]
        have added : ∀ s : Grammar.Adding,
            awaitOperand (s.join (sum product)) .single id ts = .ok e →
              e.tokens = (sum product).tokens ++ s.token :: ts := by
          intro s h
          have joined : ∀ p, (s.join (sum product) p).tokens =
              ((sum product).tokens ++ [s.token]) ++ p.tokens := by
            simp [Grammar.Adding.tokens_join]
          rw [operand _ _ _ _ _ e joined (fun o => joined (.single o)) h, List.append_assoc,
            List.singleton_append]
        cases t with
        | numeral n => cases h
        | star => exact scaled .times h
        | slash => exact scaled .divided h
        | plus => exact added .plus h
        | minus => exact added .minus h

theorem tokens_of_ofTokens {ts : List Token} {e : Sum} (h : Sum.ofTokens ts = .ok e) :
    e.tokens = ts :=
  (await_sound ts).1 .single .single id [] [] e (fun _ => rfl) (fun _ => rfl) h

theorem Product.exists_join {p : Product}
    (h : ∃ g : Grammar.Product, g.tokens = p.tokens) (s : Grammar.Scaling) (o : Operand) :
    ∃ g : Grammar.Product, g.tokens = (s.join p o).tokens := by
  obtain ⟨g, spelled⟩ := h
  refine ⟨g.snoc s o, (Grammar.Chain.tokens_snoc ..).trans ?_⟩
  rw [Grammar.Scaling.tokens_join, ← spelled]
  rfl

theorem Sum.exists_join {e : Sum} (h : ∃ g : Grammar.Sum, g.tokens = e.tokens)
    (s : Grammar.Adding) {p : Product} (h' : ∃ g : Grammar.Product, g.tokens = p.tokens) :
    ∃ g : Grammar.Sum, g.tokens = (s.join e p).tokens := by
  obtain ⟨g, spelled⟩ := h
  obtain ⟨term, spelled'⟩ := h'
  refine ⟨g.snoc s term, (Grammar.Chain.tokens_snoc ..).trans ?_⟩
  rw [Grammar.Adding.tokens_join, ← spelled, ← spelled']
  rfl

/-- A product of the parser spells a product of the grammar. -/
theorem Product.exists_grammar (p : Product) : ∃ g : Grammar.Product, g.tokens = p.tokens := by
  induction p with
  | single factor => exact ⟨⟨factor, []⟩, List.append_nil _⟩
  | times left right ih => exact Product.exists_join ih .times right
  | divided left right ih => exact Product.exists_join ih .divided right

/-- A sum of the parser spells a sum of the grammar. -/
theorem Sum.exists_grammar (e : Sum) : ∃ g : Grammar.Sum, g.tokens = e.tokens := by
  induction e with
  | single term =>
      obtain ⟨g, spelled⟩ := term.exists_grammar
      exact ⟨⟨g, []⟩, (List.append_nil _).trans spelled⟩
  | plus left right ih => exact Sum.exists_join ih .plus right.exists_grammar
  | minus left right ih => exact Sum.exists_join ih .minus right.exists_grammar

/-- The parser accepts the tokens of the grammar's trees and no others. -/
theorem ofTokens_ok_iff (ts : List Token) :
    (∃ e, Sum.ofTokens ts = .ok e) ↔ ∃ g : Grammar.Sum, g.tokens = ts := by
  constructor
  · rintro ⟨e, h⟩
    obtain ⟨g, spelled⟩ := e.exists_grammar
    exact ⟨g, spelled.trans (tokens_of_ofTokens h)⟩
  · rintro ⟨g, rfl⟩
    exact ⟨g.tree, ofTokens_tokens g⟩

end Fortune.Arithmetic
