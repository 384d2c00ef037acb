import ZigDecl.Console.CellWidth

/-! # Tables

A table is as wide as its contents ask for: every column has the width of its widest cell with a
blank on either side, and the title stands in the middle above. -/

namespace ZigDecl.Console

/-- A ruled line: its left end, its filling, what crosses it between columns, and its right end. -/
structure Rule where
  left : Char
  fill : Char
  cross : Char
  right : Char
  deriving DecidableEq, Repr

/-- How a table is drawn. `row` has the marks at the ends of a row and between its cells. -/
structure Frame where
  top : Rule
  row : Rule
  underHeader : Rule
  bottom : Rule
  deriving DecidableEq, Repr

def Frame.rounded : Frame :=
  ⟨⟨'╭', '─', '┬', '╮'⟩, ⟨'│', ' ', '│', '│'⟩, ⟨'├', '─', '┼', '┤'⟩, ⟨'╰', '─', '┴', '╯'⟩⟩

def Frame.simple : Frame :=
  ⟨⟨' ', ' ', ' ', ' '⟩, ⟨' ', ' ', ' ', ' '⟩, ⟨' ', '─', '─', ' '⟩, ⟨' ', ' ', ' ', ' '⟩⟩

/-- A table with a header; every row has a cell for each column. -/
structure Table where
  title : String
  header : List String
  rows : List (List String)
  frame : Frame
  deriving Repr

namespace Table

def widen (widths : List Nat) (row : List String) : List Nat :=
  List.zipWith max widths (row.map fun cell => cells cell + 2)

def widths (t : Table) : List Nat :=
  t.rows.foldl widen (t.header.map fun cell => cells cell + 2)

def ruleLine (r : Rule) (widths : List Nat) : String :=
  r.left.toString ++
    r.cross.toString.intercalate (widths.map fun w => String.ofList (List.replicate w r.fill)) ++
    r.right.toString

def rowLine (r : Rule) (widths : List Nat) (row : List String) : String :=
  r.left.toString ++
    r.cross.toString.intercalate
      (List.zipWith (fun w cell => padEnd w (" " ++ cell)) widths row) ++
    r.right.toString

def lines (t : Table) : List String :=
  let widths := t.widths
  let total := widths.foldl (· + · + 1) 1
  [center total t.title, ruleLine t.frame.top widths, rowLine t.frame.row widths t.header,
    ruleLine t.frame.underHeader widths] ++
  t.rows.map (rowLine t.frame.row widths) ++ [ruleLine t.frame.bottom widths]

def text (t : Table) : String := String.join (t.lines.map (· ++ "\n"))

end Table

end ZigDecl.Console
