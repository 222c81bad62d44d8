import Keywarden.Text.Width

/-!
# Tables

A table is drawn with signs of ASCII: a frame, a double line below the header, and a
line between any two rows.  A cell has a blank on either side; a line break inside a cell
makes its row higher.
-/

namespace Keywarden.Text

abbrev Row := List String

/-- A table: as many cells in each row as in the header. -/
structure Table where
  header : Row
  rows : List Row

namespace Table

def cellLines (cell : String) : List String :=
  cell.splitOn "\n"

/-- The places that a cell takes at its widest line. -/
def cellWidth (cell : String) : Nat :=
  (cellLines cell).foldl (fun widest line => max widest (width line)) 0

def columnWidths (table : Table) : List Nat :=
  table.rows.foldl (fun widths row => List.zipWith max widths (row.map cellWidth))
    (table.header.map cellWidth)

def repeated (sign : Char) (times : Nat) : String :=
  String.ofList (List.replicate times sign)

/-- A line of the frame: what stands at its ends, where columns meet, and between. -/
def rule (ends meeting line : Char) (widths : List Nat) : String :=
  let parts := widths.map fun places => repeated line (places + 2)
  String.singleton ends ++ (String.singleton meeting).intercalate parts ++
    String.singleton ends

/-- The line of a cell at some height, filled up to the width of its column. -/
def cellLine (height : Nat) (places : Nat) (cell : String) : String :=
  let line := (cellLines cell).getD height ""
  " " ++ line ++ repeated ' ' (places - width line) ++ " "

def rowLines (widths : List Nat) (row : Row) : List String :=
  let height := row.foldl (fun highest cell => max highest (cellLines cell).length) 0
  (List.range height).map fun index =>
    "|" ++ "|".intercalate (List.zipWith (cellLine index) widths row) ++ "|"

def bodyLines (widths : List Nat) (rows : List Row) : List String :=
  ([rule '|' '+' '-' widths] : List String).intercalate (rows.map (rowLines widths))

def drawn (table : Table) : String :=
  let widths := table.columnWidths
  let frame := rule '+' '+' '-' widths
  "\n".intercalate <|
    [frame] ++ rowLines widths table.header ++ [rule '+' '=' '=' widths] ++
      bodyLines widths table.rows ++ [frame]

end Table

end Keywarden.Text
