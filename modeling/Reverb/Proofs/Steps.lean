import Reverb.Machine.Basic
import Reverb.Proofs.Action

/-!
# Proofs/Steps — what a step asks of its chamber

An instruction places walls, sends sounds or leaves the chamber alone
(`Instruction.actions_cases`), and what it does to a chamber is a run of actions
(`Chamber.perform_eq_run`).  A step asks for the actions of the instruction that it carries out and
for its tick (`Machine.actions`).
-/

namespace Reverb

open Reverb.Action

/-! ## The actions of an instruction -/

/-- What an instruction asks of a chamber. -/
def Instruction.actions (sum : UInt8) (heard : Nat) (instruction : Instruction) : List Action :=
  match instruction with
  | .wall directions distance =>
    directions.toList.map fun direction => .place direction distance.toNat
  | instruction =>
    match instruction.emission sum heard with
    | some (directions, intensity, distance) =>
      directions.toList.map fun direction => .send direction intensity distance
    | none => []

theorem Directions.length_toList_le (directions : Directions) : directions.toList.length ≤ 4 :=
  List.length_filter_le _ _

namespace Instruction

/-- An instruction places walls, sends sounds or does nothing with the chamber. -/
theorem actions_cases (sum : UInt8) (heard : Nat) (instruction : Instruction) :
    (∃ directions distance, instruction = .wall directions distance ∧
      instruction.actions sum heard
        = directions.toList.map fun direction => .place direction distance.toNat) ∨
    (∃ directions intensity distance,
      instruction.emission sum heard = some (directions, intensity, distance) ∧
      instruction.actions sum heard
        = directions.toList.map fun direction => .send direction intensity distance) ∨
    (instruction.emission sum heard = none ∧ instruction.actions sum heard = []) := by
  cases instruction with
  | wall => exact Or.inl ⟨_, _, rfl, rfl⟩
  | send | redirect | predirect | input => exact Or.inr (Or.inl ⟨_, _, _, rfl, rfl⟩)
  | nop | print | condition | pcondition | exit => exact Or.inr (Or.inr ⟨rfl, rfl⟩)

/-- An instruction sends in each of the four directions at most. -/
theorem sendCount_actions_le (sum : UInt8) (heard : Nat) (instruction : Instruction) :
    sendCount (instruction.actions sum heard) ≤ 4 := by
  refine Nat.le_trans List.countP_le_length ?_
  obtain ⟨directions, _, -, h⟩ | ⟨directions, _, _, -, h⟩ | ⟨-, h⟩ :=
    instruction.actions_cases sum heard
  · rw [h, List.length_map]
    exact directions.length_toList_le
  · rw [h, List.length_map]
    exact directions.length_toList_le
  · rw [h]
    exact Nat.zero_le 4

/-- An instruction lets no tick pass. -/
theorem tickCount_actions (sum : UInt8) (heard : Nat) (instruction : Instruction) :
    tickCount (instruction.actions sum heard) = 0 := by
  rw [tickCount, List.count_eq_zero]
  obtain ⟨_, _, -, h⟩ | ⟨_, _, _, -, h⟩ | ⟨-, h⟩ := instruction.actions_cases sum heard <;>
    simp [h]

end Instruction

namespace Chamber

theorem sendAll_eq_run (chamber : Chamber) (directions : List Nat) (intensity distance : Nat) :
    chamber.sendAll directions intensity distance
      = chamber.run (directions.map fun direction => .send direction intensity distance) := by
  rw [sendAll, run, List.foldl_map]
  rfl

theorem placeWalls_eq_run (chamber : Chamber) (directions : List Nat) (distance : Nat) :
    chamber.placeWalls directions distance
      = chamber.run (directions.map fun direction => .place direction distance) := by
  rw [placeWalls, run, List.foldl_map]
  rfl

/-- **An instruction is a run of its actions.** -/
theorem perform_eq_run (chamber : Chamber) (instruction : Instruction) (heard : Nat) :
    chamber.perform instruction heard = chamber.run (instruction.actions chamber.sum heard) := by
  cases instruction with
  | wall directions distance => exact placeWalls_eq_run ..
  | send | redirect | predirect | input => exact sendAll_eq_run ..
  | nop | print | condition | pcondition | exit => rfl

end Chamber

namespace Machine

variable {σ ε : Type} {terminal : Terminal σ ε} {machine : Machine} {outside after : σ}

/-- What a step asks of the chamber; its last action is the tick. -/
def actions (terminal : Terminal σ ε) (machine : Machine) (outside : σ) : List Action :=
  match machine.turn with
  | .stopped => []
  | .waiting => [.tick]
  | .dispatch instruction =>
    match (machine.converse terminal instruction outside).1 with
    | .ok heard => instruction.actions machine.chamber.sum heard ++ [.tick]
    | .error _ => []

theorem actions_of_waiting (h : machine.turn = .waiting) :
    machine.actions terminal outside = [.tick] := by
  rw [actions, h]

theorem actions_of_dispatch {instruction : Instruction} {heard : Nat}
    (h : machine.turn = .dispatch instruction)
    (hheard : machine.converse terminal instruction outside = (.ok heard, after)) :
    machine.actions terminal outside
      = instruction.actions machine.chamber.sum heard ++ [.tick] := by
  rw [actions, h]
  dsimp only
  rw [hheard]

/-- The instruction that is carried out is in the program. -/
theorem mem_program_of_dispatch {instruction : Instruction}
    (h : machine.turn = .dispatch instruction) : instruction ∈ machine.program :=
  Array.mem_of_getElem? (turn_eq_dispatch_iff.1 h).2.2

end Machine

end Reverb
