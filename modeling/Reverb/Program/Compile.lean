import Reverb.Program.Nesting
import Reverb.Program.Unrolling

/-!
# Program/Compile — from source text to a runnable program

The command lines of the source are read, their blocks are checked, and the blocks are unrolled.
-/

namespace Reverb

/-- Why a source is no program. -/
inductive CompileError where
  | rejected (rejection : Rejection)
  | limit (error : LimitError)
  deriving DecidableEq

/-- The error in words. -/
def CompileError.message : CompileError → String
  | rejected rejection => rejection.message
  | limit error => error.message

/-- **The program that a source stands for,** within limits. -/
def compile (limits : Limits) (source : List String) :
    Except CompileError (Array Instruction) :=
  match Command.read (Line.ofSource source) with
  | .error rejection => .error (.rejected rejection)
  | .ok commands =>
    match Command.unroll limits commands with
    | .error e => .error (.limit e)
    | .ok program => .ok program

end Reverb
