import Fortune.Arithmetic.Token

/-!
Arithmetic expressions as trees of three levels. A sum is a product, or a sum and a product; a
product is an operand, or a product and an operand: so operators of one level group to the left, and
multiplication and division bind tighter than addition and subtraction. An operand may carry any
number of minus signs.
-/
namespace Fortune.Arithmetic
open Text

/-- A numeral under minus signs. -/
inductive Operand where
  | numeral (n : Numeral)
  | negated (inner : Operand)
deriving DecidableEq, Repr

/-- Operands that are multiplied and divided. -/
inductive Product where
  | single (factor : Operand)
  | times (left : Product) (right : Operand)
  | divided (left : Product) (right : Operand)
deriving DecidableEq, Repr

/-- Products that are added and subtracted. -/
inductive Sum where
  | single (term : Product)
  | plus (left : Sum) (right : Product)
  | minus (left : Sum) (right : Product)
deriving DecidableEq, Repr

/-! The tokens that spell an expression. -/

def Operand.tokens : Operand → List Token
  | .numeral n => [.numeral n]
  | .negated inner => .minus :: inner.tokens

def Product.tokens : Product → List Token
  | .single factor => factor.tokens
  | .times left right => left.tokens ++ .star :: right.tokens
  | .divided left right => left.tokens ++ .slash :: right.tokens

def Sum.tokens : Sum → List Token
  | .single term => term.tokens
  | .plus left right => left.tokens ++ .plus :: right.tokens
  | .minus left right => left.tokens ++ .minus :: right.tokens

/-! The float that an expression denotes. -/

def Operand.value : Operand → Float
  | .numeral n => Decimal.numeralFloat n
  | .negated inner => -inner.value

def Product.value : Product → Float
  | .single factor => factor.value
  | .times left right => left.value * right.value
  | .divided left right => left.value / right.value

def Sum.value : Sum → Float
  | .single term => term.value
  | .plus left right => left.value + right.value
  | .minus left right => left.value - right.value

mutual

/-- Waits for an operand `o`, out of which `sum (product (signed o))` is made. -/
def awaitOperand (sum : Product → Sum) (product : Operand → Product) (signed : Operand → Operand) :
    List Token → Except Fault Sum
  | .numeral n :: rest => awaitOperator sum (product (signed (.numeral n))) rest
  | .minus :: rest => awaitOperand sum product (fun o => signed (.negated o)) rest
  | t :: _ => .error (.operandExpected (some t))
  | [] => .error (.operandExpected none)

/-- Goes on after the product so far, which ends in a complete operand. -/
def awaitOperator (sum : Product → Sum) (product : Product) : List Token → Except Fault Sum
  | [] => .ok (sum product)
  | .star :: rest => awaitOperand sum (.times product) id rest
  | .slash :: rest => awaitOperand sum (.divided product) id rest
  | .plus :: rest => awaitOperand (.plus (sum product)) .single id rest
  | .minus :: rest => awaitOperand (.minus (sum product)) .single id rest
  | .numeral n :: _ => .error (.operatorExpected (.numeral n))

end

def Sum.ofTokens (tokens : List Token) : Except Fault Sum :=
  awaitOperand .single .single id tokens

def parse (source : List Char) : Except Fault Sum := do Sum.ofTokens (← tokens source)

/-- The value of the expression that a text spells, if it is a finite number. -/
def evaluate (source : List Char) : Except Fault Float := do
  let value := (← parse source).value
  if value.isFinite then return value else throw .notFinite

end Fortune.Arithmetic
