import Reverb.Program.Command

/-!
# Program/Unrolling — blocks written out

`Command.unrolled` says what a program with blocks means: the body of a block, unrolled, as often as
its head says, and then the lines behind the body.  A body that would run past the block it stands
in is cut there.  `Command.unroll` computes the same within limits on the nesting of blocks and on
the length of the result: it writes behind what is already written and stops before the result grows
too long.
-/

namespace Reverb

/-- How deep blocks may be nested and how long the unrolled program may become. -/
structure Limits where
  depth : Nat := 16
  length : Nat := 1048576
  deriving DecidableEq

/-- The limit that an unrolling hit. -/
inductive LimitError where
  /-- The block head at a place among the commands lies in as many blocks as are allowed. -/
  | nestingTooDeep (index limit : Nat)
  | tooLong (limit : Nat)
  deriving DecidableEq

/-- The limit in words. -/
def LimitError.message : LimitError → String
  | nestingTooDeep index limit =>
    "for blocks nested deeper than " ++ limit.repr ++ " (line " ++ index.repr ++ ")"
  | tooLong limit => "expanded program exceeds " ++ limit.repr ++ " instructions"

namespace Command

/-! ## What a program with blocks means -/

/-- **The unrolled program:** every block replaced by its body, as often as its head says. -/
def unrolled : List Command → List Instruction
  | [] => []
  | op instruction :: rest => instruction :: unrolled rest
  | loop count length :: rest =>
    (List.replicate count.toNat (unrolled (rest.take length.toNat))).flatten
      ++ unrolled (rest.drop length.toNat)
termination_by commands => commands.length
decreasing_by
  all_goals simp only [List.length_cons, List.length_take, List.length_drop]
  all_goals omega

/-! ## Unrolling within limits -/

/-- Write a stretch again behind what is written, a number of times. -/
def appendTimes (stretch : Array Instruction) : Nat → Array Instruction → Array Instruction
  | 0, written => written
  | n + 1, written => appendTimes stretch n (written ++ stretch)

/-- Make what is written from `start` on stand there `count` times instead of once. -/
def repeatFrom (start : Nat) (count : Nat) (written : Array Instruction) : Array Instruction :=
  if count = 0 then written.take start
  else appendTimes (written.extract start written.size) (count - 1) written

/-- Unroll the block that starts at `index`, in `depth` blocks, behind what is already written.
What is written is returned in either case. -/
def unrollOnto (limits : Limits) (index depth : Nat) (block : List Command)
    (written : Array Instruction) : Except LimitError Unit × Array Instruction :=
  match block with
  | [] => (.ok (), written)
  | op instruction :: rest =>
    if written.size < limits.length then
      unrollOnto limits (index + 1) depth rest (written.push instruction)
    else (.error (.tooLong limits.length), written)
  | loop count length :: rest =>
    if depth < limits.depth then
      let start := written.size
      match unrollOnto limits (index + 1) (depth + 1) (rest.take length.toNat) written with
      | (.error e, written) => (.error e, written)
      | (.ok (), written) =>
        if start + (written.size - start) * count.toNat ≤ limits.length then
          unrollOnto limits (index + 1 + length.toNat) depth (rest.drop length.toNat)
            (repeatFrom start count.toNat written)
        else (.error (.tooLong limits.length), written)
    else (.error (.nestingTooDeep index limits.depth), written)
termination_by block.length
decreasing_by
  all_goals simp only [List.length_cons, List.length_take, List.length_drop]
  all_goals omega

/-- **The unrolled program within limits,** or the limit that it hits. -/
def unroll (limits : Limits) (commands : List Command) : Except LimitError (Array Instruction) :=
  match unrollOnto limits 0 0 commands #[] with
  | (.ok (), written) => .ok written
  | (.error e, _) => .error e

end Command

end Reverb
