import Fortune.Document.Writer
import Fortune.Identifier

/-! Identifiers in documents. An identifier is written as the string of its text. -/
namespace Fortune

inductive Document.NameFault where
  | notString (found : Document)
  | refused (error : Identifier.Error)
deriving Repr

namespace Document

def description : Document → String
  | .null => "null"
  | .bool true => "boolean `true`"
  | .bool false => "boolean `false`"
  | .number (.integer n) => "integer `" ++ String.ofList (Number.text (.integer n)) ++ "`"
  | .number (.real x) => "floating point `" ++ String.ofList (Number.text (.real x)) ++ "`"
  | .string s => "string " ++ String.ofList (quote s)
  | .array _ => "sequence"
  | .object _ => "map"

def NameFault.message : NameFault → String
  | .notString found => "invalid type: " ++ found.description ++ ", expected a string"
  | .refused error => error.message

def name : Document → Except NameFault Identifier
  | .string s => (Identifier.parse s).mapError .refused
  | other => .error (.notString other)

def ofName (id : Identifier) : Document := .string id.text

end Document
end Fortune
