import Fortune.Text.Alphabetic
import Fortune.Text.Mark
import Fortune.Text.Numeric

/-!
The classes of characters that decide where a name, a call or a number stands alone. Names and calls
go by Unicode 16, and the neighbours of numbers by Unicode 17.
-/
namespace Fortune.Text

/-- ASCII digits, the only ones of which numerals are made. -/
def isDigit (c : Char) : Bool := '0' ≤ c && c ≤ '9'

def isAsciiWord (c : Char) : Bool :=
  ('a' ≤ c && c ≤ 'z') || ('A' ≤ c && c ≤ 'Z') || isDigit c || c == '_'

/-- Characters that join two words into one: the underscore, ties, and wide underscores. -/
def connectorRanges : List (Nat × Nat) :=
  [(0x5F, 0x5F), (0x203F, 0x2040), (0x2054, 0x2054), (0xFE33, 0xFE34), (0xFE4D, 0xFE4F),
   (0xFF3F, 0xFF3F)]

def isJoinControl (c : Char) : Bool := c.toNat == 0x200C || c.toNat == 0x200D

/-- A character of a placeholder's name. Below 128 the ASCII class decides without the tables. -/
def isWord (c : Char) : Bool :=
  if c.toNat < 128 then isAsciiWord c
  else isAlphabetic c || isMark c || isDecimalDigit c || inRanges connectorRanges c ||
    isJoinControl c

/-- A letter or a number of any script, those new in Unicode 17 included. -/
def isAlphanumeric (c : Char) : Bool :=
  if c.toNat < 128 then isAsciiWord c && c != '_'
  else isAlphabetic c || isNewAlphabetic c || isDecimalDigit c || isNewDigit c ||
    isOtherNumber c

/-- A neighbour that makes a run of digits part of something longer, as in a dotted name. -/
def isToken (c : Char) : Bool := isAlphanumeric c || c == '_' || c == '.'

end Fortune.Text
