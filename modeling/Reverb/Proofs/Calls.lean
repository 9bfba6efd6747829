import Reverb.Machine.Port
import Reverb.Proofs.Canvas
import Reverb.Proofs.Steps

/-!
# Proofs/Calls — what a machine is like after any calls

A call does one of four things (`Machine.callOn_cases`): nothing, a tick of waiting, an instruction,
or an attempt at an instruction that only leaves its note.  `Machine.Reachable` are the machines
that some calls lead to, on any ports and whether they succeed or fail; what a call preserves holds
of all of them by induction.
-/

namespace Reverb

open Reverb.Action

/-- The port draws every frame in which all sounds and walls have a row. -/
def Port.DrawsDrawable {σ ε : Type} (port : Port σ ε) : Prop :=
  ∀ frame outside, frame.isDrawable = true → (port.draw frame outside).1.isSome = true

theorem Terminal.drawsDrawable_port {σ ε : Type} (terminal : Terminal σ ε) :
    terminal.port.DrawsDrawable := fun frame outside h => by
  change frame.render.isSome = true
  rw [Frame.render_of_isDrawable h, Option.isSome_some]

namespace Machine

variable {σ ε : Type} {port : Port σ ε} {terminal : Terminal σ ε} {machine next : Machine}
variable {outside after : σ} {result : Except (Fault ε) Bool}

/-! ## One call -/

/-- **What a call does.** -/
theorem callOn_cases (h : machine.callOn port outside = (result, next, after)) :
    (machine.turn = .stopped ∧ result = .ok false ∧ next = machine ∧ after = outside) ∨
    (machine.turn = .waiting ∧ machine.waited.recordOn port outside = (result, next, after)) ∨
    (∃ instruction error, machine.turn = .dispatch instruction ∧
      machine.converse port.toTerminal instruction outside = (.error error, after) ∧
      result = .error (.terminal error) ∧ next = { machine with last := some instruction }) ∨
    ∃ instruction heard world, machine.turn = .dispatch instruction ∧
      machine.converse port.toTerminal instruction outside = (.ok heard, world) ∧
      (machine.carriedOut instruction heard).recordOn port world = (result, next, after) := by
  cases hturn : machine.turn with
  | stopped =>
    rw [callOn_of_stopped hturn] at h
    cases h
    exact Or.inl ⟨rfl, rfl, rfl, rfl⟩
  | waiting =>
    rw [callOn_of_waiting hturn] at h
    exact Or.inr (Or.inl ⟨rfl, h⟩)
  | dispatch instruction =>
    rcases hheard : machine.converse port.toTerminal instruction outside with ⟨error | heard, world⟩
    · rw [callOn_of_unheard hturn hheard] at h
      cases h
      exact Or.inr (Or.inr (Or.inl ⟨instruction, error, rfl, hheard, rfl, rfl⟩))
    · rw [callOn_of_heard hturn hheard] at h
      exact Or.inr (Or.inr (Or.inr ⟨instruction, heard, world, rfl, hheard, h⟩))

/-- Recording leaves all but the film, whatever the port makes of the frame. -/
theorem next_recordOn (port : Port σ ε) (machine : Machine) (outside : σ) :
    ∃ film, (machine.recordOn port outside).2.1 = { machine with film } := by
  obtain ⟨film, after, h⟩ | ⟨after, h⟩ := recordOn_cases port machine outside
  · exact ⟨film, congrArg (fun result => result.2.1) h⟩
  · exact ⟨machine.film, congrArg (fun result => result.2.1) h⟩

/-- **The machine after a call,** whatever its result: apart from its note and its film it is as
before, or has waited, or has carried out its next instruction. -/
theorem next_cases (port : Port σ ε) (machine : Machine) (outside : σ) :
    (machine.actions port.toTerminal outside = [] ∧
      ∃ last, (machine.callOn port outside).2.1 = { machine with last }) ∨
    (machine.turn = .waiting ∧ ∃ film,
      (machine.callOn port outside).2.1 = { machine.waited with film }) ∨
    ∃ instruction heard, machine.turn = .dispatch instruction ∧
      machine.actions port.toTerminal outside
        = instruction.actions machine.chamber.sum heard ++ [.tick] ∧
      ∃ film, (machine.callOn port outside).2.1
        = { machine.carriedOut instruction heard with film } := by
  cases hturn : machine.turn with
  | stopped =>
    rw [callOn_of_stopped hturn, actions, hturn]
    exact Or.inl ⟨rfl, machine.last, rfl⟩
  | waiting =>
    rw [callOn_of_waiting hturn]
    exact Or.inr (Or.inl ⟨rfl, next_recordOn port machine.waited outside⟩)
  | dispatch instruction =>
    rcases hheard : machine.converse port.toTerminal instruction outside with ⟨error | heard, world⟩
    · rw [callOn_of_unheard hturn hheard, actions, hturn]
      dsimp only
      rw [hheard]
      exact Or.inl ⟨rfl, some instruction, rfl⟩
    · rw [callOn_of_heard hturn hheard]
      exact Or.inr (Or.inr ⟨instruction, heard, rfl, actions_of_dispatch hturn hheard,
        next_recordOn port _ world⟩)

/-- **A call is a run of its actions,** also where it fails. -/
theorem chamber_callOn (port : Port σ ε) (machine : Machine) (outside : σ) :
    (machine.callOn port outside).2.1.chamber
      = machine.chamber.run (machine.actions port.toTerminal outside) := by
  obtain ⟨hactions, last, h⟩ | ⟨hturn, film, h⟩ | ⟨instruction, heard, -, hactions, film, h⟩ :=
    next_cases port machine outside
  · rw [h, hactions]
    rfl
  · rw [h, actions_of_waiting hturn]
    rfl
  · rw [h, hactions, Chamber.run_append, ← Chamber.perform_eq_run]
    rfl

/-! ## Drawing -/

/-- Recording succeeds where the frame has a row for everything. -/
theorem recordOn_of_isDrawable (hdraws : port.DrawsDrawable)
    (h : machine.frame.isDrawable = true) (outside : σ) :
    ∃ film after, machine.recordOn port outside = (.ok true, { machine with film }, after) := by
  rw [recordOn]
  split
  · split
    · exact ⟨_, _, rfl⟩
    · next after hnone => simpa [hnone] using hdraws machine.frame outside h
  · exact ⟨_, _, rfl⟩

/-! ## Any calls -/

/-- **The machines that calls lead to** from the start of a program, on ports of any kind, in any
states and with any results. -/
inductive Reachable (program : Array Instruction) (settings : Settings) : Machine → Prop where
  | start : Reachable program settings { program, settings }
  | call {σ ε : Type} {machine : Machine} (port : Port σ ε) (outside : σ)
      (h : Reachable program settings machine) :
      Reachable program settings (machine.callOn port outside).2.1

end Machine

end Reverb
