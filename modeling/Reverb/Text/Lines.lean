import Reverb.Text.Pieces

/-!
# Text/Lines — the lines of a text

A line ends with a line feed, and a carriage return before the line feed belongs to the ending.
What stands behind the last line feed is a line only if it is not empty, and it keeps its carriage
return.
-/

namespace Reverb.Text

/-- The character ends a line. -/
def isLineFeed (c : Char) : Bool := c == '\n'

/-- A line without the carriage return at its end. -/
def dropReturn (line : List Char) : List Char :=
  if line.getLast? = some '\r' then line.dropLast else line

/-- The lines of a text, without their endings. -/
def lines (text : List Char) : List (List Char) :=
  let stretches := pieces isLineFeed text
  stretches.dropLast.map dropReturn ++ (stretches.getLast?.toList.filter fun rest => !rest.isEmpty)

theorem dropReturn_append_return (line : List Char) : dropReturn (line ++ ['\r']) = line := by
  simp [dropReturn]

end Reverb.Text
