import AqlGateway.Text.Split
import AqlGateway.Text.Width

/-!
# Tables

A table has a header and rows, drawn with box characters. A cell holds one or more lines, and a
column is as wide as its widest line.

* `Table` — the texts of the cells;
* `Table.render` — the drawn table, without a line break at its end.
-/

namespace AqlGateway

structure Table where
  header : List String
  rows : List (List String)
  deriving DecidableEq, Repr

namespace Table

/-- The lines of a cell, at least one. -/
def cellLines (cell : String) : List (List Char) := Text.splitOn '\n' cell.toList

/-- A list brought to a length with a filler behind it. -/
def pad {α : Type} (filler : α) (n : Nat) (items : List α) : List α :=
  items ++ List.replicate (n - items.length) filler

/-- The number of columns: as many as the longest row has cells. -/
def columnCount (table : Table) : Nat :=
  (table.rows.map List.length).foldl max table.header.length

/-- The header and the rows, each with a cell in every column. -/
def grid (table : Table) : List (List String) :=
  (table.header :: table.rows).map (pad "" table.columnCount)

/-- The width of the widest line of a cell. -/
def cellWidth (cell : String) : Nat := ((cellLines cell).map Text.width).foldl max 0

/-- The widths of the columns, the blanks beside the text included. -/
def columnWidths (table : Table) : List Nat :=
  (List.range table.columnCount).map fun i =>
    (table.grid.map fun row => ((row[i]?).map cellWidth).getD 0).foldl max 0 + 2

/-- The pieces of a line joined, with a border on either side. -/
def bordered (left middle right : Char) (pieces : List (List Char)) : List Char :=
  left :: ([middle].intercalate pieces ++ [right])

def rule (left filling middle right : Char) (widths : List Nat) : List Char :=
  bordered left middle right (widths.map fun n => List.replicate n filling)

/-- A line of a cell, filled up with blanks to a width. -/
def cellText (width : Nat) (line : List Char) : List Char :=
  ' ' :: line ++ List.replicate (width - 1 - Text.width line) ' '

def rowLines (widths : List Nat) (row : List String) : List (List Char) :=
  let cells := row.map cellLines
  let height := (cells.map List.length).foldl max 0
  (List.range height).map fun i =>
    bordered '│' '┆' '│' ((widths.zip cells).map fun (width, lines) =>
      cellText width ((lines[i]?).getD []))

/-- The lines of rows with a rule between each two. -/
def bodyLines (widths : List Nat) : List (List String) → List (List Char)
  | [] => []
  | [row] => rowLines widths row
  | row :: rest => rowLines widths row ++ rule '├' '╌' '┼' '┤' widths :: bodyLines widths rest

def lines (table : Table) : List (List Char) :=
  let widths := table.columnWidths
  let header := pad "" table.columnCount table.header
  let rows := table.rows.map (pad "" table.columnCount)
  rule '┌' '─' '┬' '┐' widths :: rowLines widths header
    ++ rule '╞' '═' '╪' '╡' widths :: bodyLines widths rows
    ++ [rule '└' '─' '┴' '┘' widths]

def render (table : Table) : String :=
  String.ofList (['\n'].intercalate table.lines)

/-- The line behind a table that says how many rows it has. -/
def rowCount (n : Nat) : String := "(" ++ toString n ++ " rows)"

end Table

end AqlGateway
