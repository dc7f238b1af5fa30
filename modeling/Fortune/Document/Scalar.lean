import Fortune.Document.Number
import Fortune.Text.Blank

/-!
Reading scalars leniently. A number may be written as a number or as a string that spells one, with
blanks around it; a fraction is cut off where an integer is wanted.
-/
namespace Fortune.Document
open Decimal Text

def member? (key : String) (members : List (String × Document)) : Option Document :=
  Keyed.find? key members

def asFloat? (d : Document) : Option Float :=
  let x :=
    match d with
    | .number n => some n.toFloat
    | .string s => float? (trim s.toList)
    | _ => none
  x.filter Float.isFinite

/-- An integer of 64 bits, exact where it is spelled as one. -/
def asInt64? (d : Document) : Option Int :=
  let exact :=
    match d with
    | .number (.integer n) => if n ≤ greatest64 then some n else none
    | .string s => int64? (trim s.toList)
    | _ => none
  match exact with
  | some n => some n
  | none =>
    (asFloat? d).map fun x => (Binary64.ofFloat x).truncate least64 greatest64

def asInt32? (d : Document) : Option Int :=
  (asInt64? d).filter fun n => least32 ≤ n && n ≤ greatest32

def asNat32? (d : Document) : Option Nat :=
  ((asInt64? d).filter fun n => 0 ≤ n && n.toNat < words32).map Int.toNat

/-- A truth value, or a string that spells one. -/
def asBool? : Document → Option Bool
  | .bool b => some b
  | .string s =>
    let word := trim s.toList
    if word == "true".toList then some true
    else if word == "false".toList then some false
    else none
  | _ => none

def allDigits (text : List Char) : Bool := !text.isEmpty && text.all isDigit

/-- The number that a text stands for if it is a plain signed numeral: an integer where it fits 64
bits, else a float if it is finite. -/
def literal? (text : List Char) : Option Number :=
  let digits := if text.head? == some '-' then text.tail else text
  let plain :=
    match digits.span (· != '.') with
    | (whole, '.' :: fraction) => allDigits whole && allDigits fraction
    | (whole, _) => allDigits whole
  if plain then
    match int64? text with
    | some n => some (.integer n)
    | none => (finite? text).map .real
  else none

end Fortune.Document
