import Reverb.Chamber
import Reverb.Instruction

/-!
# Machine/Effect — what an instruction does to a chamber and to the pointer

Apart from reading and printing, an instruction does at most one of these things: send sounds
(`emission`), place walls, jump (`jump`), wait (`wait`) or stop (`stops`).  Each is a function of
the instruction and the sound sum it finds; only an instruction that reads needs to know what it
heard.
-/

namespace Reverb

/-- The intensity of a redirected sound sum: what is missing to 256 if the parity is odd. -/
def redirected (sum : UInt8) (parity : Option UInt64) : Nat :=
  match parity with
  | some p => if p % 2 = 1 then 256 - sum.toNat else sum.toNat
  | none => sum.toNat

namespace Instruction

/-- The instruction prints the sound sum. -/
def prints : Instruction → Bool
  | predirect .. => true
  | print => true
  | pcondition .. => true
  | _ => false

/-- The directions, intensity and distance of the sounds that the instruction sends, where `heard`
is the intensity of the line that it read. -/
def emission (sum : UInt8) (heard : Nat) : Instruction → Option (Directions × Nat × Nat)
  | send directions distance intensity => some (directions, intensity.toNat, distance.toNat)
  | redirect directions distance parity => some (directions, redirected sum parity, distance.toNat)
  | predirect directions distance _ => some (directions, sum.toNat, distance.toNat)
  | input directions distance => some (directions, heard, distance.toNat)
  | _ => none

/-- The number of instructions that are skipped. -/
def jump (sum : UInt8) : Instruction → Nat
  | condition comparison value offset => if comparison.holds sum value then offset.toNat else 0
  | pcondition comparison value offset => if comparison.holds sum value then offset.toNat else 0
  | _ => 0

/-- The number of ticks without an instruction that follow the tick of this one. -/
def wait : Instruction → Nat
  | nop (some ticks) => ticks.toNat - 1
  | _ => 0

/-- The instruction ends the run. -/
def stops : Instruction → Bool
  | exit => true
  | _ => false

/-- A wait is shorter than 255 ticks. -/
theorem wait_lt (instruction : Instruction) : instruction.wait < 255 := by
  unfold wait
  split
  · next ticks =>
    have := ticks.toNat_lt
    omega
  · omega

end Instruction

/-- The chamber after an instruction, before the tick. -/
def Chamber.perform (chamber : Chamber) (instruction : Instruction) (heard : Nat) : Chamber :=
  match instruction with
  | .wall directions distance => chamber.placeWalls directions.toList distance.toNat
  | instruction =>
    match instruction.emission chamber.sum heard with
    | some (directions, intensity, distance) =>
      chamber.sendAll directions.toList intensity distance
    | none => chamber

end Reverb
