import Fortune.Document.Number
import Fortune.Document.Quoted

/-! Writing documents, without blanks and with the members of objects in their order. -/
namespace Fortune.Document

def commaSeparated : List (List Char) → List Char
  | [] => []
  | [text] => text
  | text :: rest => text ++ ',' :: commaSeparated rest

mutual

def write : Document → List Char
  | .null => "null".toList
  | .bool true => "true".toList
  | .bool false => "false".toList
  | .number n => n.text
  | .string s => quote s
  | .array items => '[' :: commaSeparated (writeItems items) ++ [']']
  | .object members => '\x7b' :: commaSeparated (writeMembers members) ++ ['\x7d']

def writeItems : List Document → List (List Char)
  | [] => []
  | item :: rest => item.write :: writeItems rest

def writeMembers : List (String × Document) → List (List Char)
  | [] => []
  | (key, item) :: rest => (quote key ++ ':' :: item.write) :: writeMembers rest

end

end Fortune.Document
