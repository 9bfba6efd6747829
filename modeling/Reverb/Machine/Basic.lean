import Reverb.Film
import Reverb.Frame
import Reverb.Machine.Effect
import Reverb.Terminal
import Reverb.PrintStyle
import Reverb.Typed

/-!
# Machine/Basic — carrying out a program, tick by tick

A step carries out at most one instruction and then lets the chamber tick once; while the machine
waits, a step only ticks.  An instruction may read or print before it acts, and if that fails the
step fails: nothing of the machine has changed but the note of the instruction it tried
(`Machine.last`), so the step can be tried again.
-/

namespace Reverb

/-- How a machine prints and whether and how wide it draws. -/
structure Settings where
  style : PrintStyle := .ascii
  minWidth : Nat := 10
  recordFrames : Bool := true
  deriving DecidableEq

/-- Why a step fails. -/
inductive Fault (ε : Type) where
  /-- The outside world failed. -/
  | terminal (error : ε)
  /-- The chamber cannot be drawn. -/
  | undrawable
  deriving DecidableEq

/-- What a machine does next. -/
inductive Turn where
  | stopped
  | waiting
  | dispatch (instruction : Instruction)
  deriving DecidableEq

/-- A machine in the middle of a program: `pointer` is the next instruction, `pending` the number of
ticks it still waits, and `last` the instruction it tried last. -/
structure Machine where
  program : Array Instruction
  settings : Settings := {}
  chamber : Chamber := {}
  pointer : Nat := 0
  pending : Nat := 0
  exited : Bool := false
  last : Option Instruction := none
  film : Film := {}
  deriving DecidableEq

namespace Machine

variable {σ ε : Type}

/-! ## What comes next -/

/-- What the machine does in its next step. -/
def turn (machine : Machine) : Turn :=
  if machine.exited then .stopped
  else if 0 < machine.pending then .waiting
  else
    match machine.program[machine.pointer]? with
    | some instruction => .dispatch instruction
    | none => .stopped

/-- The machine has something left to do. -/
def isRunning (machine : Machine) : Bool := machine.turn != .stopped

/-! ## One step -/

/-- Read or print what an instruction asks for; gives the intensity of the line that was read. -/
def converse (terminal : Terminal σ ε) (machine : Machine) (instruction : Instruction) (outside : σ) :
    Except ε Nat × σ :=
  match instruction with
  | .input .. =>
    match terminal.readLine outside with
    | (.ok line, outside) => (.ok (typedIntensity line.toList), outside)
    | (.error e, outside) => (.error e, outside)
  | instruction =>
    if instruction.prints then
      match terminal.write (machine.settings.style.text machine.chamber.sum) outside with
      | (.ok (), outside) => (.ok 0, outside)
      | (.error e, outside) => (.error e, outside)
    else (.ok 0, outside)

/-- The machine after an instruction, before the tick. -/
def perform (machine : Machine) (instruction : Instruction) (heard : Nat) : Machine :=
  { machine with
    chamber := machine.chamber.perform instruction heard
    pointer := machine.pointer + 1 + instruction.jump machine.chamber.sum
    pending := instruction.wait
    exited := instruction.stops
    last := some instruction }

/-- The frame that shows the machine as it is. -/
def frame (machine : Machine) : Frame where
  instruction := machine.last
  sounds := machine.chamber.sounds
  walls := machine.chamber.walls
  sum := machine.chamber.sum
  minWidth := machine.settings.minWidth

/-- Draw the machine as it is and add the frame to the film, if frames are recorded. -/
def record (machine : Machine) : Except (Fault ε) Bool × Machine :=
  if machine.settings.recordFrames then
    match machine.frame.render with
    | some text => (.ok true, { machine with film := machine.film.push text })
    | none => (.error .undrawable, machine)
  else (.ok true, machine)

/-- The tick that ends a step. -/
def finish (machine : Machine) : Except (Fault ε) Bool × Machine :=
  record { machine with chamber := machine.chamber.tick }

/-- **One step:** `true` if something was left to do. -/
def step (terminal : Terminal σ ε) (machine : Machine) (outside : σ) :
    Except (Fault ε) Bool × Machine × σ :=
  match machine.turn with
  | .stopped => (.ok false, machine, outside)
  | .waiting =>
    let (result, machine) := finish { machine with pending := machine.pending - 1 }
    (result, machine, outside)
  | .dispatch instruction =>
    match converse terminal machine instruction outside with
    | (.error e, outside) => (.error (.terminal e), { machine with last := some instruction }, outside)
    | (.ok heard, outside) =>
      let (result, machine) := (machine.perform instruction heard).finish
      (result, machine, outside)

/-- Up to `n` steps, as long as they succeed and something is left to do: the number of steps taken,
the fault that ended them, and what they left. -/
def steps (terminal : Terminal σ ε) : Nat → Machine → σ → Nat × Option (Fault ε) × Machine × σ
  | 0, machine, outside => (0, none, machine, outside)
  | n + 1, machine, outside =>
    match machine.step terminal outside with
    | (.ok true, machine, outside) =>
      let (taken, fault, machine, outside) := steps terminal n machine outside
      (taken + 1, fault, machine, outside)
    | (.ok false, machine, outside) => (0, none, machine, outside)
    | (.error fault, machine, outside) => (0, some fault, machine, outside)

/-! ## The unfolding lemmas of a step -/

theorem turn_eq_dispatch_iff {machine : Machine} {instruction : Instruction} :
    machine.turn = .dispatch instruction ↔
      machine.exited = false ∧ machine.pending = 0 ∧
        machine.program[machine.pointer]? = some instruction := by
  rw [turn]
  split
  · simp_all
  split
  · simp_all
    omega
  · split <;> simp_all

theorem turn_eq_waiting_iff {machine : Machine} :
    machine.turn = .waiting ↔ machine.exited = false ∧ 0 < machine.pending := by
  rw [turn]
  split
  · simp_all
  split
  · simp_all
  · split <;> simp_all

end Machine

end Reverb
