import Fortune.Command.Table
import Mathlib.Order.Bounds.Basic

/-!
Tables as they are printed. A column is as wide as the widest of its cells, the one of the header
included; the cells of a line are filled up with blanks to these widths and stand between bars.
-/
namespace Fortune.Table

def lengths (lines : List (List String)) (column : Nat) : Set Nat :=
  {n | ∃ cells ∈ lines, ∃ cell ∈ cells[column]?, cell.length = n}

/-- The cells of the lines fill these columns, and no column is wider than its widest cell. -/
structure Fit (columns : List Nat) (lines : List (List String)) : Prop where
  even : ∀ cells ∈ lines, cells.length = columns.length
  widest : ∀ i width, columns[i]? = some width → IsGreatest (lengths lines i) width

/-- Cells at the left of their columns, with a blank on either side. -/
def spaced (columns : List Nat) (cells : List String) : String :=
  "|" ++ "|".intercalate (List.zipWith
    (fun width cell => " " ++ String.ofList (cell.toList.rightpad width ' ') ++ " ")
    columns cells) ++ "|"

/-- The lines are a header and some rows between rules, and nothing else. -/
def Shows (header : List String) (rows : List (List String)) (lines : List String) : Prop :=
  ∃ columns, Fit columns (header :: rows) ∧
    let bars (fill : Char) := columns.map fun width =>
      String.ofList (List.replicate (width + 2) fill)
    let edge := "+" ++ "+".intercalate (bars '-') ++ "+"
    lines = [edge, spaced columns header, "+" ++ "=".intercalate (bars '=') ++ "+"] ++
      (rows.map (spaced columns)).intersperse ("|" ++ "+".intercalate (bars '-') ++ "|") ++ [edge]

theorem lengths_append (lines more : List (List String)) (column : Nat) :
    lengths (lines ++ more) column = lengths lines column ∪ lengths more column := by
  ext n
  simp only [lengths, List.mem_append, or_and_right, exists_or]
  rfl

theorem lengths_singleton {cells : List String} {column : Nat} {cell : String}
    (inside : cells[column]? = some cell) : lengths [cells] column = {cell.length} := by
  ext n
  simp only [lengths, List.mem_singleton, exists_eq_left, inside, Option.mem_def,
    Option.some.injEq, exists_eq_left']
  exact eq_comm

theorem fit_header (header : List String) : Fit (header.map String.length) [header] where
  even cells inside := by
    rw [List.mem_singleton.mp inside, List.length_map]
  widest i width found := by
    rw [List.getElem?_map] at found
    obtain ⟨cell, inside, rfl⟩ := Option.map_eq_some_iff.mp found
    rw [lengths_singleton inside]
    exact isGreatest_singleton

theorem Fit.row {columns : List Nat} {lines : List (List String)} (fit : Fit columns lines)
    {cells : List String} (even : cells.length = columns.length) :
    Fit (List.zipWith max columns (cells.map String.length)) (lines ++ [cells]) where
  even other inside := by
    rw [List.length_zipWith, List.length_map, even, min_self]
    rcases List.mem_append.mp inside with inside | inside
    · exact fit.even other inside
    · rw [List.mem_singleton.mp inside, even]
  widest i width found := by
    obtain ⟨above, own, before, measured, rfl⟩ := List.getElem?_zipWith_eq_some.mp found
    rw [List.getElem?_map] at measured
    obtain ⟨cell, inside, rfl⟩ := Option.map_eq_some_iff.mp measured
    rw [lengths_append, lengths_singleton inside]
    exact (fit.widest i above before).union isGreatest_singleton

theorem Fit.rows {columns : List Nat} {lines : List (List String)} (fit : Fit columns lines)
    (rows : List (List String)) (even : ∀ cells ∈ rows, cells.length = columns.length) :
    Fit (rows.foldl (fun widest row => List.zipWith max widest (row.map String.length)) columns)
      (lines ++ rows) := by
  induction rows generalizing columns lines with
  | nil =>
      rw [List.append_nil]
      exact fit
  | cons row rest ih =>
      obtain ⟨here, there⟩ := List.forall_mem_cons.mp even
      have one := fit.row here
      have same : (List.zipWith max columns (row.map String.length)).length = columns.length := by
        rw [List.length_zipWith, List.length_map, here, min_self]
      rw [List.append_cons]
      exact ih one fun cells inside => (there cells inside).trans same.symm

theorem fit_widths {header : List String} {rows : List (List String)}
    (even : ∀ cells ∈ rows, cells.length = header.length) :
    Fit (widths header rows) (header :: rows) :=
  (fit_header header).rows rows fun cells inside => by rw [even cells inside, List.length_map]

theorem line_eq_spaced (columns : List Nat) (cells : List String) :
    line columns cells = spaced columns cells := by
  have padded (width : Nat) (cell : String) :
      cell ++ String.ofList (List.replicate (width - cell.length) ' ') =
        String.ofList (cell.toList.rightpad width ' ') := by
    rw [List.rightpad, String.length_toList, String.ofList_append, String.ofList_toList]
  simp only [line, spaced, ← padded, String.append_assoc]

theorem body_eq (columns : List Nat) (rows : List (List String)) :
    body columns rows =
      (rows.map (spaced columns)).intersperse (rule '|' '-' '+' '|' columns) := by
  induction rows with
  | nil => rfl
  | cons row rest ih =>
      cases rest with
      | nil => exact congrArg (fun text => [text]) (line_eq_spaced columns row)
      | cons next rest =>
          rw [body, ih, line_eq_spaced]
          · rfl
          · simp

theorem shows_lines {header : List String} {rows : List (List String)}
    (even : ∀ cells ∈ rows, cells.length = header.length) :
    Shows header rows (lines header rows) := by
  refine ⟨widths header rows, fit_widths even, ?_⟩
  rw [lines, body_eq, line_eq_spaced]
  rfl

theorem shows_map {α : Type} (header : List String) (cells : α → List String)
    (even : ∀ a, (cells a).length = header.length) (rows : List α) :
    Shows header (rows.map cells) (lines header (rows.map cells)) := by
  refine shows_lines fun row inside => ?_
  obtain ⟨a, _, rfl⟩ := List.mem_map.mp inside
  exact even a

end Fortune.Table
