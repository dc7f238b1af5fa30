import Fortune.Document.Number
import Fortune.Document.Quoted
import Fortune.Text.Pieces

/-!
Reading documents. The text is cut into tokens, and one pass over the tokens keeps a stack of the
arrays and objects that are still open. At most 127 may be open at a time. A later member replaces
an earlier one of the same key.
-/
namespace Fortune.Document
open Text

inductive Token where
  | openArray
  | closeArray
  | openObject
  | closeObject
  | comma
  | colon
  | scalar (d : Document)

def word? (word : String) (d : Document) (text : List Char) : Option (Option Token × List Char) :=
  if word.toList.isPrefixOf text then some (some (.scalar d), word.toList) else none

/-- What was read ends where `after` begins. -/
def upTo (text after : List Char) : List Char := text.take (text.length - after.length)

/-- The token or blank at the front of a text. A blank is found without a token. -/
def token? : Recogniser (Option Token)
  | _, [] => none
  | _, c :: rest =>
    if c == ' ' || c == '\n' || c == '\t' || c == '\r' then some (none, [c])
    else if c == '[' then some (some .openArray, [c])
    else if c == ']' then some (some .closeArray, [c])
    else if c == '\x7b' then some (some .openObject, [c])
    else if c == '\x7d' then some (some .closeObject, [c])
    else if c == ',' then some (some .comma, [c])
    else if c == ':' then some (some .colon, [c])
    else if c == '"' then
      (readString rest).map fun (s, after) =>
        (some (.scalar (.string s)), upTo (c :: rest) after)
    else if c == 'n' then word? "null" .null (c :: rest)
    else if c == 't' then word? "true" (.bool true) (c :: rest)
    else if c == 'f' then word? "false" (.bool false) (c :: rest)
    else
      (Number.scan (c :: rest)).map fun (n, after) =>
        (some (.scalar (.number n)), upTo (c :: rest) after)

/-- The tokens among the pieces, if all characters belong to one. -/
def tokensOf : List (Piece (Option Token)) → Option (List Token)
  | [] => some []
  | .plain _ :: _ => none
  | .found none _ :: rest => tokensOf rest
  | .found (some t) _ :: rest => (tokensOf rest).map (t :: ·)

/-- An open array with its items so far, latest first, or an open object with its members so far
and the key whose value is awaited. -/
inductive Frame where
  | array (items : List Document)
  | object (members : List (String × Document)) (key : String)

inductive Expectation where
  | value
  /-- A value, or the end of an array just opened. -/
  | firstItem
  /-- A key, or the end of an object just opened. -/
  | firstKey (members : List (String × Document))
  | key (members : List (String × Document))
  | colon (members : List (String × Document)) (key : String)
  /-- A comma or an end behind a complete value. -/
  | rest (d : Document)

/-- The greatest number of arrays and objects open at a time. -/
def depthLimit : Nat := 127

/-- Reads the next token, given what it may be and what is open. -/
def step : Expectation → List Frame → Token → Option (Expectation × List Frame)
  | .value, open_, .scalar d => some (.rest d, open_)
  | .firstItem, open_, .scalar d => some (.rest d, open_)
  | .value, open_, .openArray => opened (.array []) .firstItem open_
  | .firstItem, open_, .openArray => opened (.array []) .firstItem open_
  | .value, open_, .openObject => opened (.object [] "") (.firstKey []) open_
  | .firstItem, open_, .openObject => opened (.object [] "") (.firstKey []) open_
  | .firstItem, _ :: open_, .closeArray => some (.rest (.array []), open_)
  | .firstKey _, _ :: open_, .closeObject => some (.rest (.object []), open_)
  | .firstKey members, open_, .scalar (.string k) => some (.colon members k, open_)
  | .key members, open_, .scalar (.string k) => some (.colon members k, open_)
  | .colon members k, _ :: open_, .colon => some (.value, .object members k :: open_)
  | .rest d, .array items :: open_, .comma => some (.value, .array (d :: items) :: open_)
  | .rest d, .array items :: open_, .closeArray =>
    some (.rest (.array (d :: items).reverse), open_)
  | .rest d, .object members k :: open_, .comma =>
    let members := Keyed.insert k d members
    some (.key members, .object members k :: open_)
  | .rest d, .object members k :: open_, .closeObject =>
    some (.rest (.object (Keyed.insert k d members)), open_)
  | _, _, _ => none
where
  /-- Opens an array or object unless too many are open. -/
  opened (frame : Frame) (next : Expectation) (open_ : List Frame) :
      Option (Expectation × List Frame) :=
    if open_.length < depthLimit then some (next, frame :: open_) else none

def run : Expectation → List Frame → List Token → Option Document
  | .rest d, [], [] => some d
  | _, _, [] => none
  | expected, open_, t :: rest =>
    match step expected open_ t with
    | some (expected, open_) => run expected open_ rest
    | none => none

def read (text : String) : Option Document := do
  run .value [] (← tokensOf (pieces token? text.toList))

end Fortune.Document
