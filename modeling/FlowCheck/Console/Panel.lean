import FlowCheck.Console.Fit

/-!
# Panels

A text in a frame with round corners, with one blank on either side of it.
-/

namespace FlowCheck.Console

/-- A text in a frame. The text carries no markup. -/
def panel (text : List Char) : String :=
  let text := shown text
  let width := Fit.askedWidth text
  let edge := List.replicate (width + 2) '─'
  let inner := (Fit.lines .fold width text).map fun line => '│' :: ' ' :: padTo width line ++ [' ', '│']
  ofLines (('╭' :: edge ++ ['╮']) :: inner ++ ['╰' :: edge ++ ['╯']])

end FlowCheck.Console
