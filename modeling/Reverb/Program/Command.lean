import Reverb.Instruction
import Reverb.Literal
import Reverb.Program.Line

/-!
# Program/Command — what a command line says

A command is an instruction or the head of a block.  `Line.decode` reads one from the words of a
line: the number of words first, then the operand, then its parameters from left to right, and the
first that is not as it should be is the reason of the refusal.  A mask and a parity are read off
the low bits of a numeral, while every other parameter has to lie in its range.
-/

namespace Reverb

/-- One command of a program. -/
inductive Command where
  /-- An instruction. -/
  | op (instruction : Instruction)
  /-- The head of a block: the next `length` command lines, `count` times. -/
  | loop (count length : UInt8)
  deriving DecidableEq

/-- Why a line is refused.  Parameters are counted from 1. -/
inductive Reason where
  | unknownCommand
  | notANumber (parameter : Nat)
  | invalidRange (parameter : Nat)
  | invalidDirections (parameter : Nat)
  | invalidComparison (parameter : Nat)
  | tooManyParameters
  | unclosedBlock (parameter : Nat)
  deriving DecidableEq

namespace Reason

/-- The parameter to blame, where there is one. -/
def parameter? : Reason → Option Nat
  | unknownCommand => none
  | notANumber p => some p
  | invalidRange p => some p
  | invalidDirections p => some p
  | invalidComparison p => some p
  | tooManyParameters => none
  | unclosedBlock p => some p

/-- What is wrong, without the parameter. -/
def complaint : Reason → String
  | unknownCommand => "Unknown command"
  | notANumber _ => "Not a number"
  | invalidRange _ => "Invalid range"
  | invalidDirections _ => "Invalid direction"
  | invalidComparison _ => "Invalid condition"
  | tooManyParameters => "Too many parameters"
  | unclosedBlock _ => "Unclosed block"

/-- The reason in words. -/
def message (reason : Reason) : String :=
  match reason.parameter? with
  | none => reason.complaint
  | some p => reason.complaint ++ " (parameter " ++ p.repr ++ ")"

end Reason

namespace Line

/-! ## Parameters -/

/-- The literal in the place of a parameter. -/
def number (line : Line) (p : Nat) : Except Reason Literal :=
  match Literal.read? (line.param p).toList with
  | some literal => .ok literal
  | none => .error (.notANumber p)

/-- The literal in the place of a parameter that may be left out. -/
def number? (line : Line) (p : Nat) : Except Reason (Option Literal) :=
  if line.param p = "" then .ok none else (line.number p).map some

/-- A literal as the value of parameter `p`, which has to lie strictly between two bounds. -/
def ranged (p : Nat) (low high : Int) (literal : Literal) : Except Reason UInt8 :=
  if literal.inRange low high then .ok literal.value.toUInt8 else .error (.invalidRange p)

/-- A parameter from 1 to 255. -/
def amount (line : Line) (p : Nat) : Except Reason UInt8 := do
  ranged p 0 256 (← line.number p)

/-- A parameter from 1 to 255 that may be left out. -/
def amount? (line : Line) (p : Nat) : Except Reason (Option UInt8) := do
  match ← line.number? p with
  | none => .ok none
  | some literal => (ranged p 0 256 literal).map some

/-- A parameter from 0 to 255. -/
def level (line : Line) (p : Nat) : Except Reason UInt8 := do
  ranged p (-1) 256 (← line.number p)

/-- A mask of directions. -/
def directions (line : Line) (p : Nat) : Except Reason Directions := do
  match Directions.ofMask? (← line.number p).value.toNat with
  | some directions => .ok directions
  | none => .error (.invalidDirections p)

/-- A mask of questions. -/
def comparison (line : Line) (p : Nat) : Except Reason Comparison := do
  match Comparison.ofMask? (← line.number p).value.toNat with
  | some comparison => .ok comparison
  | none => .error (.invalidComparison p)

/-- A parity, which may be left out. -/
def parity? (line : Line) (p : Nat) : Except Reason (Option UInt64) :=
  (line.number? p).map fun literal => literal.map Literal.value

/-! ## Commands -/

/-- The command named by the operand, with its parameters read from left to right. -/
def decodeOperand (line : Line) : Except Reason Command :=
  match line.operand with
  | "nop" => return .op (.nop (← line.amount? 1))
  | "send" => return .op (.send (← line.directions 1) (← line.amount 2) (← line.amount 3))
  | "wall" => return .op (.wall (← line.directions 1) (← line.amount 2))
  | "redirect" =>
    return .op (.redirect (← line.directions 1) (← line.amount 2) (← line.parity? 3))
  | "predirect" =>
    return .op (.predirect (← line.directions 1) (← line.amount 2) (← line.parity? 3))
  | "print" => return .op .print
  | "condition" =>
    return .op (.condition (← line.comparison 1) (← line.level 2) (← line.amount 3))
  | "pcondition" =>
    return .op (.pcondition (← line.comparison 1) (← line.level 2) (← line.amount 3))
  | "for" => return .loop (← line.amount 1) (← line.amount 2)
  | "input" => return .op (.input (← line.directions 1) (← line.amount 2))
  | "exit" => return .op .exit
  | _ => .error .unknownCommand

/-- **The command a line says,** or the first reason against it. -/
def decode (line : Line) : Except Reason Command :=
  if 4 < line.tokens.length then .error .tooManyParameters else line.decodeOperand

end Line

end Reverb
