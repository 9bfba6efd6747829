import Reverb.Chamber
import Reverb.Instruction

/-!
# Frame — one moment of a chamber, drawn as text

A frame has nine lines.  The first and the last are rules of `=`, and the first also names the
instruction.  Between them stand the rows of the four directions, with dots between the rows 0 and 1
and between the rows 2 and 3, and with the sound sum in the middle.

A row is the digit of its direction and a cell for each distance.  A wall is drawn at its distance;
a sound is drawn one cell nearer to the origin, with a letter that tells the sounds of the row
apart, and over a wall that stands there.  Behind the cells the row lists its letters with the
intensities of their sounds.

The rows are drawn on a canvas, all walls first and then all sounds, and what has no row or no cell
on the canvas spoils the drawing.
-/

namespace Reverb

/-- A moment of a chamber, with the instruction that was carried out last. -/
structure Frame where
  instruction : Option Instruction
  sounds : List Sound
  walls : List Wall
  sum : UInt8
  minWidth : Nat
  deriving DecidableEq

namespace Frame

/-- The letters for the sounds of a row, in the order in which they are given out. -/
def letters : List Char := ['o', 'u', 'a', 'e', 's', 'r', 'v', 'w', 'n', 'm', '.', '@', '#']

/-- The letter of the `k`-th sound of a row, counted from 0. -/
def letter (k : Nat) : Char := letters.getD (k % letters.length) ' '

/-- The number of cells in a row: enough for everything in the frame. -/
def width (frame : Frame) : Nat :=
  let walls := frame.walls.map fun wall => wall.distance + 1
  let sounds := frame.sounds.map fun sound => sound.distance + 1
  (walls ++ sounds).foldl max frame.minWidth

/-! ## The canvas -/

/-- One row of a drawing. -/
@[ext]
structure Row (width : Nat) where
  cells : Vector Char width
  legend : Array String

namespace Row

variable {width : Nat}

/-- A row with nothing in it. -/
def empty (width : Nat) : Row width := ⟨.replicate width ' ', #[]⟩

/-- Write into a cell, if there is one at that place. -/
def write? (row : Row width) (place : Nat) (c : Char) : Option (Row width) :=
  if h : place < width then some { row with cells := row.cells.set place c } else none

/-- Draw a wall. -/
def drawWall? (wall : Wall) (row : Row width) : Option (Row width) := row.write? wall.distance '|'

/-- What the legend says of a sound. -/
def entry (mark : Char) (sound : Sound) : String :=
  String.ofList [mark] ++ " = " ++ sound.intensity.toNat.repr

/-- Draw a sound with the next letter of the row; at distance 0 it has no cell. -/
def drawSound? (sound : Sound) (row : Row width) : Option (Row width) := do
  let mark := letter row.legend.size
  let drawn ← if sound.distance = 0 then some row else row.write? (sound.distance - 1) mark
  return { drawn with legend := row.legend.push (entry mark sound) }

/-- What stands behind the cells of a row. -/
def legendText : List String → String
  | [] => ""
  | entries => "  " ++ ", ".intercalate entries

/-- The row of a direction as text. -/
def text (direction : Nat) (row : Row width) : String :=
  direction.repr ++ String.ofList row.cells.toList ++ legendText row.legend.toList

end Row

variable {width : Nat}

/-- Draw into the row of a direction, if there is one. -/
def drawIn? (direction : Nat) (draw : Row width → Option (Row width))
    (canvas : Vector (Row width) 4) : Option (Vector (Row width) 4) :=
  if h : direction < 4 then (draw canvas[direction]).map (canvas.set direction) else none

/-- Draw a wall into its row. -/
def drawWall? (canvas : Vector (Row width) 4) (wall : Wall) : Option (Vector (Row width) 4) :=
  drawIn? wall.direction (Row.drawWall? wall) canvas

/-- Draw a sound into its row. -/
def drawSound? (canvas : Vector (Row width) 4) (sound : Sound) : Option (Vector (Row width) 4) :=
  drawIn? sound.direction (Row.drawSound? sound) canvas

/-- The rows of the four directions: walls first, sounds over them. -/
def canvas? (frame : Frame) : Option (Vector (Row frame.width) 4) := do
  let walled ← frame.walls.foldlM drawWall? (.replicate 4 (.empty frame.width))
  frame.sounds.foldlM drawSound? walled

/-! ## The whole frame -/

/-- The dots between two rows. -/
def dots (frame : Frame) : String := String.ofList (' ' :: List.replicate frame.width '·')

/-- The line in the middle. -/
def sumRow (frame : Frame) : String := "X   Sound sum : " ++ frame.sum.toNat.repr

/-- The seven lines between the rules. -/
def layout (frame : Frame) (row : Fin 4 → String) : List String :=
  [row 0, frame.dots, row 1, frame.sumRow, row 2, frame.dots, row 3]

/-- A rule, as long as the longest of some rows. -/
def rule (rows : List String) : String :=
  String.ofList (List.replicate ((rows.map String.length).foldl max 0) '=')

/-- The name of the instruction that the frame shows. -/
def title (frame : Frame) : String := (frame.instruction.map Instruction.text).getD ""

/-- The rows between their rules. -/
def ruled (frame : Frame) (rows : List String) : List String :=
  (rule rows ++ " " ++ frame.title) :: rows ++ [rule rows]

/-- **The drawn frame,** if it can be drawn. -/
def render (frame : Frame) : Option String := do
  let canvas ← frame.canvas?
  return "\n".intercalate (frame.ruled (frame.layout fun d => canvas[d].text d))

end Frame

end Reverb
