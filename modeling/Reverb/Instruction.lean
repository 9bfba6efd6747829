import Reverb.Comparison
import Reverb.Directions

/-!
# Instruction — what a machine can be told to do

The ten instructions of the language.  A program in this form has no blocks left: a block is a way
of writing, and it is gone once the program has been unrolled.  Each instruction has a written form,
the words that would be read back as that instruction.
-/

namespace Reverb

/-- One executable instruction. -/
inductive Instruction where
  /-- Wait for a number of ticks; without a number, one. -/
  | nop (ticks : Option UInt8)
  /-- Send a sound of a given intensity. -/
  | send (directions : Directions) (distance intensity : UInt8)
  /-- Place a wall. -/
  | wall (directions : Directions) (distance : UInt8)
  /-- Send the sound sum, or what is missing to 256 if the parity is odd. -/
  | redirect (directions : Directions) (distance : UInt8) (parity : Option UInt64)
  /-- Print the sound sum and send it. -/
  | predirect (directions : Directions) (distance : UInt8) (parity : Option UInt64)
  /-- Print the sound sum. -/
  | print
  /-- Skip instructions if the comparison holds. -/
  | condition (comparison : Comparison) (value offset : UInt8)
  /-- Print the sound sum, then skip instructions if the comparison holds. -/
  | pcondition (comparison : Comparison) (value offset : UInt8)
  /-- Read a line and send the intensity it stands for. -/
  | input (directions : Directions) (distance : UInt8)
  /-- Stop. -/
  | exit
  deriving DecidableEq

namespace Instruction

/-- The words an instruction is written with. -/
def words : Instruction → List String
  | nop none => ["nop"]
  | nop (some ticks) => ["nop", ticks.toNat.repr]
  | send directions distance intensity =>
    ["send", directions.bits.repr, distance.toNat.repr, intensity.toNat.repr]
  | wall directions distance => ["wall", directions.bits.repr, distance.toNat.repr]
  | redirect directions distance parity =>
    ["redirect", directions.bits.repr, distance.toNat.repr] ++
      parity.toList.map fun p => p.toNat.repr
  | predirect directions distance parity =>
    ["predirect", directions.bits.repr, distance.toNat.repr] ++
      parity.toList.map fun p => p.toNat.repr
  | print => ["print"]
  | condition comparison value offset =>
    ["condition", comparison.bits.repr, value.toNat.repr, offset.toNat.repr]
  | pcondition comparison value offset =>
    ["pcondition", comparison.bits.repr, value.toNat.repr, offset.toNat.repr]
  | input directions distance => ["input", directions.bits.repr, distance.toNat.repr]
  | exit => ["exit"]

/-- **The written form of an instruction:** its words with one space between two of them. -/
def text (instruction : Instruction) : String := " ".intercalate instruction.words

end Instruction

end Reverb
