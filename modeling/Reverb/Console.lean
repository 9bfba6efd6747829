import Reverb.Terminal
import Reverb.Sink
import Reverb.Text.Lines

/-!
# Console — a terminal over a stream of bytes and an output

The input is read line by line.  Each read first writes a prompt; if the prompt does not fit,
nothing is read.  Then it takes the bytes up to the next line feed, or what is left if there is
none.  Bytes that are not UTF-8 make the read fail and are gone.  At the end of the input a read
gives the empty line.
-/

namespace Reverb

/-- The input that is left, the number of bytes taken from it, and the output. -/
structure Console where
  input : List UInt8 := []
  consumed : Nat := 0
  output : Sink := {}
  deriving DecidableEq

namespace Console

/-- The prompt before every read. -/
def prompt : String := "Character input : "

/-- The byte that ends a line. -/
def lineFeed : UInt8 := 10

/-- Cut the input behind its first line feed; without one everything is taken. -/
def cutLine (input : List UInt8) : List UInt8 × List UInt8 :=
  match input.dropWhile (· != lineFeed) with
  | [] => (input, [])
  | feed :: rest => (input.takeWhile (· != lineFeed) ++ [feed], rest)

/-- A line without its ending: a line feed, and a carriage return before it. -/
def dropEnding (line : List Char) : List Char :=
  if line.getLast? = some '\n' then Text.dropReturn line.dropLast else line

/-- The text of the bytes of a line, without its ending. -/
def lineText? (bytes : List UInt8) : Option String :=
  (String.fromUTF8? ⟨bytes.toArray⟩).map fun text => String.ofList (dropEnding text.toList)

/-- **Read a line.** -/
def readLine (console : Console) : Except StreamError String × Console :=
  match console.output.writeText prompt with
  | (.error e, output) => (.error e, { console with output })
  | (.ok (), output) =>
    let (line, rest) := cutLine console.input
    let console := { input := rest, consumed := console.consumed + line.length, output }
    match lineText? line with
    | some text => (.ok text, console)
    | none => (.error .invalidText, console)

/-- **Print a text.** -/
def write (text : String) (console : Console) : Except StreamError Unit × Console :=
  let (result, output) := console.output.writeText text
  (result, { console with output })

/-- A console as a machine sees it. -/
def terminal : Terminal Console StreamError where
  readLine := readLine
  write := write

/-- Cutting a line loses nothing. -/
theorem append_cutLine (input : List UInt8) : (cutLine input).1 ++ (cutLine input).2 = input := by
  rw [cutLine]
  split
  · simp
  · next feed rest h =>
    simp only [List.append_assoc, List.singleton_append]
    rw [← h, List.takeWhile_append_dropWhile]

end Console

end Reverb
