import FlowCheck.Console.Fit

/-!
# Tables

A table has a title over it, a heading in a heavy frame, and rows. A column has the largest of the
widths for which its cells ask, and a cell with several lines makes its row as high. The title
stands in the middle, with the odd blank on its right.
-/

namespace FlowCheck.Console

/-- A table. All of its texts are marked up. -/
structure Table where
  /-- The title. -/
  title : String
  /-- The names of the columns. -/
  columns : List String
  /-- The cells of each row, one for each column. -/
  rows : List (List String)
deriving Inhabited

namespace Table

/-- A row of cells: their texts. -/
abbrev Row := List (List Char)

/-- The texts of the cells of a row. -/
def rowOf (cells : List String) : Row :=
  cells.map fun cell => shown (Markup.plain cell)

/-- The widths of columns that hold the row too. -/
def widen (widths : List Nat) (row : Row) : List Nat :=
  List.zipWith max widths (row.map Fit.askedWidth)

/-- The widths of the columns. -/
def widths (heading : Row) (rows : List Row) : List Nat :=
  rows.foldl widen (heading.map Fit.askedWidth)

/-- The characters of the lines of a frame: at the left end, between two columns, at the right
end. -/
structure Frame where
  /-- The left end. -/
  left : Char
  /-- Between two columns. -/
  middle : Char
  /-- The right end. -/
  right : Char

/-- Parts in a frame. -/
def Frame.enclose (frame : Frame) (parts : List (List Char)) : List Char :=
  frame.left :: List.intercalate [frame.middle] parts ++ [frame.right]

/-- A line across the table. -/
def rule (frame : Frame) (stroke : Char) (widths : List Nat) : List Char :=
  frame.enclose (widths.map fun width => List.replicate (width + 2) stroke)

/-- The lines of a row between the strokes `bar`. -/
def rowLines (bar : Char) (widths : List Nat) (row : Row) : List (List Char) :=
  let cells := List.zipWith (Fit.lines .ellipsis) widths row
  (List.range (widest (cells.map List.length))).map fun i =>
    Frame.enclose ⟨bar, bar, bar⟩ (List.zipWith
      (fun width lines => ' ' :: padTo width (lines.getD i []) ++ [' ']) widths cells)

/-- A line in the middle of a number of cells. -/
def centred (width : Nat) (line : List Char) : List Char :=
  padTo width (List.replicate ((width - Text.cells line) / 2) ' ' ++ line)

/-- What is printed for a table. -/
def printed (table : Table) : String :=
  let heading := rowOf table.columns
  let rows := table.rows.map rowOf
  let widths := widths heading rows
  let whole := widths.foldl (fun whole width => whole + width + 3) 1
  ofLines ((linesOf (Markup.plain table.title)).map (centred whole) ++
    [rule ⟨'┏', '┳', '┓'⟩ '━' widths] ++ rowLines '┃' widths heading ++
    [rule ⟨'┡', '╇', '┩'⟩ '━' widths] ++ rows.flatMap (rowLines '│' widths) ++
    [rule ⟨'└', '┴', '┘'⟩ '─' widths])

end Table

end FlowCheck.Console
