import Mjpeg.Output.Wrap

/-!
# Tables drawn with lines

A table has a header and one row. Each column is as wide as its widest line, with a blank on
either side; a cell may have several lines. No column is wider than 65535, with its blanks or
without, and lines of a cell that are too long for that are wrapped.
-/

namespace Mjpeg.Output

/-- The most columns that are drawn. -/
def maxWidth : Nat := UInt16.size - 1

/-- The lines of a cell as they are written. -/
def cellLines (cell : String) : List (List Char) := Text.splitAll (· == '\n') cell.toList

/-- A line of a cell filled up with blanks, with one more on either side. -/
def padCell (width : Nat) (line : List Char) : List Char :=
  ' ' :: line ++ List.replicate (width - Text.width line) ' ' ++ [' ']

/-- A horizontal line: its left end, the stroke, the crossings and its right end. -/
def rule (widths : List Nat) (left stroke cross right : Char) : List Char :=
  let strokes := widths.map fun w => List.replicate (min (w + 2) maxWidth) stroke
  left :: List.intercalate [cross] strokes ++ [right]

/-- The lines of a row of cells. -/
def rowLines (widths : List Nat) (cells : List String) : List (List Char) :=
  let columns := (widths.zip cells).map fun (w, cell) => (cellLines cell).flatMap (wrap w)
  let height := (columns.map List.length).foldl max 0
  (List.range height).map fun i =>
    '│' :: List.intercalate ['┆']
      ((widths.zip columns).map fun (w, lines) => padCell w ((lines[i]?).getD [])) ++ ['│']

/-- The width of each column. -/
def columnWidths (header row : List String) : List Nat :=
  (header.zip row).map fun (h, c) =>
    min (((cellLines h ++ cellLines c).map Text.width).foldl max 0) maxWidth

/-- The table with the given header and row, without a line end behind it. -/
def table (header row : List String) : String :=
  let widths := columnWidths header row
  let lines := [rule widths '┌' '─' '┬' '┐'] ++ rowLines widths header ++
    [rule widths '╞' '═' '╪' '╡'] ++ rowLines widths row ++ [rule widths '└' '─' '┴' '┘']
  String.ofList (List.intercalate ['\n'] lines)

end Mjpeg.Output
