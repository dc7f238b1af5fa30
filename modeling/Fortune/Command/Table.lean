/-!
Tables of plain text. Cells are left-aligned between one blank on either side; a double rule follows
the header, a single one each row but the last.
-/
namespace Fortune.Table

def widths (header : List String) (rows : List (List String)) : List Nat :=
  rows.foldl (fun widest row => List.zipWith max widest (row.map String.length))
    (header.map String.length)

/-- A horizontal rule: what it begins with, what fills it, what crosses it and what it ends with. -/
def rule (first fill cross last : Char) (widths : List Nat) : String :=
  let bars := widths.map fun w => String.ofList (List.replicate (w + 2) fill)
  first.toString ++ cross.toString.intercalate bars ++ last.toString

def line (widths : List Nat) (cells : List String) : String :=
  let padded := List.zipWith
    (fun w cell => " " ++ cell ++ String.ofList (List.replicate (w - cell.length) ' ') ++ " ")
    widths cells
  "|" ++ "|".intercalate padded ++ "|"

/-- The lines of the rows, with rules between. -/
def body (widths : List Nat) : List (List String) → List String
  | [] => []
  | [row] => [line widths row]
  | row :: rest => line widths row :: rule '|' '-' '+' '|' widths :: body widths rest

def lines (header : List String) (rows : List (List String)) : List String :=
  let w := widths header rows
  let edge := rule '+' '-' '+' '+' w
  [edge, line w header, rule '+' '=' '=' '+' w] ++ body w rows ++ [edge]

end Fortune.Table
