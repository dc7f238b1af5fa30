import Fortune.Text.Hexadecimal

/-!
Quoted strings of documents. Quotes, backslashes and control characters are escaped; characters
beyond the first plane may be written as two escapes, which belong together.
-/
namespace Fortune.Document
open Text (hexDigit hexValue?)

/-- A character as it stands, or a 16-bit unit from an escape. -/
inductive Glyph where
  | char (c : Char)
  | unit (n : Nat)

def hex4? (a b c d : Char) : Option Nat := do
  return (((← hexValue? a) * 16 + (← hexValue? b)) * 16 + (← hexValue? c)) * 16 + (← hexValue? d)

/-- The character behind a backslash and one letter. -/
def unescape? (c : Char) : Option Char :=
  match c with
  | '"' => some '"'
  | '\\' => some '\\'
  | '/' => some '/'
  | 'b' => some (Char.ofNat 8)
  | 'f' => some (Char.ofNat 12)
  | 'n' => some '\n'
  | 'r' => some '\r'
  | 't' => some '\t'
  | _ => none

/-- The glyphs up to the closing quote, and what follows it. Control characters are refused. -/
def glyphs : List Char → Option (List Glyph × List Char)
  | [] => none
  | '"' :: rest => some ([], rest)
  | '\\' :: 'u' :: a :: b :: c :: d :: rest => do
    let n ← hex4? a b c d
    let (more, after) ← glyphs rest
    return (.unit n :: more, after)
  | '\\' :: e :: rest => do
    let c ← unescape? e
    let (more, after) ← glyphs rest
    return (.char c :: more, after)
  | c :: rest =>
    if c.toNat < 0x20 || c == '\\' then none
    else do
      let (more, after) ← glyphs rest
      return (.char c :: more, after)

def isLeading (n : Nat) : Bool := 0xD800 ≤ n && n < 0xDC00

def isTrailing (n : Nat) : Bool := 0xDC00 ≤ n && n < 0xE000

def characters : List Glyph → Option (List Char)
  | [] => some []
  | .char c :: rest => (characters rest).map (c :: ·)
  | .unit n :: rest =>
    if isLeading n then
      match rest with
      | .unit m :: more =>
        if isTrailing m then
          (characters more).map (Char.ofNat (0x10000 + (n - 0xD800) * 0x400 + (m - 0xDC00)) :: ·)
        else none
      | _ => none
    else if isTrailing n then none
    else (characters rest).map (Char.ofNat n :: ·)

/-- Reads the rest of a string behind its opening quote, and what follows the closing one. -/
def readString (text : List Char) : Option (String × List Char) := do
  let (gs, after) ← glyphs text
  return (String.ofList (← characters gs), after)

def escape (c : Char) : List Char :=
  if c == '"' then ['\\', '"']
  else if c == '\\' then ['\\', '\\']
  else if 0x20 ≤ c.toNat then [c]
  else if c.toNat == 8 then ['\\', 'b']
  else if c.toNat == 12 then ['\\', 'f']
  else if c == '\n' then ['\\', 'n']
  else if c == '\r' then ['\\', 'r']
  else if c == '\t' then ['\\', 't']
  else ['\\', 'u', '0', '0', hexDigit (c.toNat / 16), hexDigit (c.toNat % 16)]

def quote (s : String) : List Char := '"' :: s.toList.flatMap escape ++ ['"']

end Fortune.Document
