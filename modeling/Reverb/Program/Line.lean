import Reverb.Text.Alphabetic
import Reverb.Text.Words

/-!
# Program/Line — the command lines of a source text

A source line is a command line when its first word begins with a letter; every other line is
blank or a comment and is left out.  A command line keeps the number of its source line, counted
from 0, because that is the number an author looks for.
-/

namespace Reverb

/-- A command line, cut into words. -/
structure Line where
  sourceLine : Nat
  tokens : List String
  deriving DecidableEq

namespace Line

/-- The word that names the command, or the empty text. -/
def operand (line : Line) : String := line.tokens.headD ""

/-- Parameter `p`, counted from 1; the empty text where there is none. -/
def param (line : Line) (p : Nat) : String := line.tokens.getD p ""

/-- The words of a text that is a command line. -/
def commandWords? (text : List Char) : Option (List (List Char)) :=
  match Text.words text with
  | (c :: word) :: rest => if Text.isAlphabetic c then some ((c :: word) :: rest) else none
  | _ => none

/-- The command line at a place of the source, if there is one. -/
def ofText? (sourceLine : Nat) (text : String) : Option Line :=
  (commandWords? text.toList).map fun words => ⟨sourceLine, words.map String.ofList⟩

/-- **The command lines of a source,** in order. -/
def ofSource (source : List String) : List Line :=
  source.zipIdx.filterMap fun (text, sourceLine) => ofText? sourceLine text

end Line

end Reverb
