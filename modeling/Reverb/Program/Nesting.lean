import Reverb.Program.Command

/-!
# Program/Nesting — the blocks of a program fit into each other

A block head owns the command lines that follow it.  Reading a program keeps the ends of the blocks
that are open, the innermost first, and refuses a block that reaches past the innermost of them or
past the end of the program.  The first line that does not say a command, or that opens such a
block, is the line that is refused.
-/

namespace Reverb

/-- The refusal of a line: its place among the command lines, counted from 0, and the reason. -/
structure Rejection where
  index : Nat
  line : Line
  reason : Reason
  deriving DecidableEq

/-- The refusal in words, with the place in the source. -/
def Rejection.message (rejection : Rejection) : String :=
  "line " ++ rejection.line.sourceLine.repr ++ ": " ++ rejection.reason.message ++ " : "
    ++ " ".intercalate rejection.line.tokens

namespace Command

/-- Where the block of a command at a place of the program ends: the place behind its last line. -/
def stop? (index : Nat) : Command → Option Nat
  | .op _ => none
  | .loop _ length => some (index + 1 + length.toNat)

/-- Read the lines from `index` on, inside open blocks that stop at `stops`; `size` is the number
of command lines of the program. -/
def readFrom (size index : Nat) (stops : List Nat) : List Line → Except Rejection (List Command)
  | [] => .ok []
  | line :: rest =>
    match line.decode with
    | .error reason => .error ⟨index, line, reason⟩
    | .ok command =>
      let stillOpen := stops.dropWhile (· ≤ index)
      match command.stop? index with
      | none => (readFrom size (index + 1) stillOpen rest).map (command :: ·)
      | some stop =>
        if stop ≤ stillOpen.headD size then
          (readFrom size (index + 1) (stop :: stillOpen) rest).map (command :: ·)
        else .error ⟨index, line, .unclosedBlock 2⟩

/-- **The commands of a program,** or the refusal of its first bad line. -/
def read (lines : List Line) : Except Rejection (List Command) :=
  readFrom lines.length 0 [] lines

end Command

end Reverb
