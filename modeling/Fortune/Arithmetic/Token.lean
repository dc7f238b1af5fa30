import Fortune.Decimal.Layout
import Fortune.Decimal.Reader
import Fortune.Text.Pieces

/-!
Tokens of arithmetic: unsigned numerals and four signs, with blanks anywhere but inside a numeral.
-/
namespace Fortune.Arithmetic
open Text

inductive Token where
  | numeral (n : Numeral)
  | plus
  | minus
  | star
  | slash
deriving DecidableEq, Repr

def Token.spelling : Token → List Char
  | .numeral n => n.text
  | .plus => ['+']
  | .minus => ['-']
  | .star => ['*']
  | .slash => ['/']

/-- A token as messages show it: a numeral by its value. -/
def Token.shown : Token → List Char
  | .numeral n => Decimal.floatText (Decimal.numeralFloat n)
  | sign => sign.spelling

/-- Why a text has no value. -/
inductive Fault where
  /-- A character that begins no token, and its place in bytes. -/
  | strayCharacter (c : Char) (offset : Nat)
  /-- Something else, or the end, where a number or a minus is needed. -/
  | operandExpected (found : Option Token)
  /-- A numeral right after a complete operand. -/
  | operatorExpected (found : Token)
  | notFinite
deriving DecidableEq, Repr

/-- The end of the input, or a token between quotes. -/
def shownOrEnd : Option Token → String
  | none => "end of input"
  | some t => "'" ++ String.ofList t.shown ++ "'"

def Fault.message : Fault → String
  | .strayCharacter c offset =>
    "unexpected '" ++ c.toString ++ "' at offset " ++ String.ofList (Decimal.natText offset)
  | .operandExpected found => "found " ++ shownOrEnd found ++ " expected '-', or number"
  | .operatorExpected found =>
    "found " ++ shownOrEnd (some found) ++ " expected '*', '/', '+', '-', or end of input"
  | .notFinite => "result is not finite"

def isSpace (c : Char) : Bool := c == ' ' || c == '\t' || c == '\r' || c == '\n'

/-- The token or blank at the front of a text. A blank is found without a token. -/
def lexeme? : Recogniser (Option Token)
  | _, [] => none
  | _, c :: rest =>
    if isSpace c then some (none, [c])
    else if c == '+' then some (some .plus, [c])
    else if c == '-' then some (some .minus, [c])
    else if c == '*' then some (some .star, [c])
    else if c == '/' then some (some .slash, [c])
    else (Numeral.scan (c :: rest)).map fun (n, _) => (some (.numeral n), n.text)

def byteSize (text : List Char) : Nat := text.foldr (fun c size => c.utf8Size + size) 0

def collect : Nat → List (Piece (Option Token)) → Except Fault (List Token)
  | _, [] => .ok []
  | offset, .plain c :: _ => .error (.strayCharacter c offset)
  | offset, .found none lexeme :: rest => collect (offset + byteSize lexeme) rest
  | offset, .found (some t) lexeme :: rest =>
    (collect (offset + byteSize lexeme) rest).map (t :: ·)

def tokens (source : List Char) : Except Fault (List Token) := collect 0 (pieces lexeme? source)

end Fortune.Arithmetic
