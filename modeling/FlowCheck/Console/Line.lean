import FlowCheck.Console.Markup
import FlowCheck.Text.Lines
import FlowCheck.Text.Width

/-!
# Lines on the console

A text on the console has no bells and no characters that move the cursor, and a tab reaches to
the next column that is a multiple of eight. Columns are counted in cells.
-/

namespace FlowCheck.Console

/-- The columns between two tab stops. -/
def tabWidth : Nat := 8

/-- The characters that are never printed: bell, backspace, and movements of the cursor. -/
def isDropped (c : Char) : Bool :=
  c = '\x07' || c = '\x08' || c = '\x0b' || c = '\x0c' || c = '\r'

/-- The characters of a text that are printed. -/
def shown (text : List Char) : List Char :=
  text.filter fun c => !isDropped c

/-- A line from a column on, with blanks in place of tabs. -/
def expandTabs (column : Nat) : List Char → List Char
  | [] => []
  | c :: rest =>
    if c = '\t' then
      let gap := tabWidth - column % tabWidth
      List.replicate gap ' ' ++ expandTabs (column + gap) rest
    else c :: expandTabs (column + Text.charCells c) rest

/-- The lines of a text as they are printed. -/
def linesOf (text : List Char) : List (List Char) :=
  ((shown text).splitOn '\n').map (expandTabs 0)

/-- Lines, each with a line feed at its end. -/
def ofLines (lines : List (List Char)) : String :=
  String.ofList (lines.flatMap (· ++ ['\n']))

/-- What is printed for a marked-up text. -/
def printed (markup : String) : String :=
  ofLines (linesOf (Markup.plain markup))

/-- A line filled up with blanks to a number of cells. -/
def padTo (width : Nat) (line : List Char) : List Char :=
  line ++ List.replicate (width - Text.cells line) ' '

/-- The largest of some widths. -/
def widest (widths : List Nat) : Nat :=
  widths.foldl max 0

/-- No tab is left. -/
theorem tab_not_mem_expandTabs (column : Nat) (line : List Char) :
    '\t' ∉ expandTabs column line := by
  induction line generalizing column with
  | nil => simp [expandTabs]
  | cons c rest ih =>
    simp only [expandTabs]
    split
    · simp [ih]
    · next h => simp [ih, Ne.symm h]

end FlowCheck.Console
