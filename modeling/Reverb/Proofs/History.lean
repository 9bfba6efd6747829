import Reverb.Proofs.Runs

/-!
# Proofs/History — what a machine asks of its chamber

What a machine asks of its chamber in a number of calls is its `Machine.history`.  Whatever the
calls come to, it makes the chamber (`Machine.chamber_called`), and all of it but the ticks is asked
for by instructions of the program (`Machine.mem_history`), each of which is carried out once at
most (`Machine.sendCount_history_le`).  Calls that give `true` are one tick each
(`Machine.tickCount_history`).
-/

namespace Reverb

open Reverb.Action

namespace Machine

variable {σ ε : Type} {port : Port σ ε} {machine : Machine} {outside : σ} {n : Nat}

/-! ## One call -/

/-- **What a call does that gives `true`:** it waits, or it carries out an instruction. -/
theorem turn_of_callOn_true (h : (machine.callOn port outside).1 = .ok true) :
    machine.turn = .waiting ∨ ∃ instruction heard after, machine.turn = .dispatch instruction ∧
      machine.converse port.toTerminal instruction outside = (.ok heard, after) := by
  rcases hcall : machine.callOn port outside with ⟨result, next, after⟩
  rw [hcall] at h
  obtain ⟨-, rfl, -⟩ | ⟨hturn, -⟩ | ⟨_, _, -, -, rfl, -⟩ | ⟨instruction, heard, world, hturn,
    hheard, -⟩ := callOn_cases hcall
  · cases h
  · exact Or.inl hturn
  · cases h
  · exact Or.inr ⟨instruction, heard, world, hturn, hheard⟩

/-- A call that gives `true` is one tick. -/
theorem tickCount_actions (h : (machine.callOn port outside).1 = .ok true) :
    tickCount (machine.actions port.toTerminal outside) = 1 := by
  obtain hturn | ⟨instruction, heard, after, hturn, hheard⟩ := turn_of_callOn_true h
  · rw [actions_of_waiting hturn]
    rfl
  · rw [actions_of_dispatch hturn hheard, tickCount_append, instruction.tickCount_actions]
    rfl

/-- Whatever a call asks of the chamber is a tick or asked for by an instruction. -/
theorem mem_actions {action : Action} (h : action ∈ machine.actions port.toTerminal outside) :
    action = .tick ∨
      ∃ instruction ∈ machine.program, ∃ sum heard, action ∈ instruction.actions sum heard := by
  rw [actions] at h
  split at h
  · exact absurd h List.not_mem_nil
  · exact Or.inl (List.mem_singleton.1 h)
  · next instruction hturn =>
    split at h
    · next heard _ =>
      rcases List.mem_append.1 h with hact | htick
      · exact Or.inr ⟨instruction, mem_program_of_dispatch hturn, _, heard, hact⟩
      · exact Or.inl (List.mem_singleton.1 htick)
    · exact absurd h List.not_mem_nil

/-- A call that sends moves the pointer on, four sends to an instruction at most. -/
theorem sendCount_actions_le (port : Port σ ε) (machine : Machine) (outside : σ) :
    sendCount (machine.actions port.toTerminal outside)
        + 4 * min machine.pointer machine.program.size
      ≤ 4 * min (machine.callOn port outside).2.1.pointer machine.program.size := by
  obtain ⟨hactions, last, h⟩ | ⟨hturn, film, h⟩ | ⟨instruction, heard, hturn, hactions, film, h⟩ :=
    next_cases port machine outside
  · rw [h, hactions, sendCount_nil, Nat.zero_add]
  · rw [h, actions_of_waiting hturn]
    exact le_of_eq (Nat.zero_add _)
  · have hfour := instruction.sendCount_actions_le machine.chamber.sum heard
    obtain ⟨hlt, -⟩ := Array.getElem?_eq_some_iff.1 (turn_eq_dispatch_iff.1 hturn).2.2
    rw [h, hactions, sendCount_append]
    simp only [carriedOut, perform, sendCount_cons, isSend, sendCount_nil, Bool.false_eq_true,
      if_false]
    omega

/-! ## A number of calls -/

/-- What `n` calls ask of the chamber. -/
def history (port : Port σ ε) (machine : Machine) (outside : σ) (n : Nat) : List Action :=
  (List.range n).flatMap fun k => (machine.called port outside k).1.actions port.toTerminal
    (machine.called port outside k).2

theorem history_succ (port : Port σ ε) (machine : Machine) (outside : σ) (n : Nat) :
    machine.history port outside (n + 1) = machine.history port outside n ++
      (machine.called port outside n).1.actions port.toTerminal
        (machine.called port outside n).2 := by
  rw [history, history, List.range_succ, List.flatMap_append, List.flatMap_singleton]

/-- **A machine is a run of its chamber,** whatever its calls come to. -/
theorem chamber_called (port : Port σ ε) (machine : Machine) (outside : σ) (n : Nat) :
    (machine.called port outside n).1.chamber
      = machine.chamber.run (machine.history port outside n) := by
  induction n with
  | zero => rfl
  | succ n ih => rw [called_succ, chamber_callOn, ih, history_succ, Chamber.run_append]

/-- Calls that give `true` are as many ticks. -/
theorem tickCount_history (h : ∀ k < n, machine.result port outside k = .ok true) :
    tickCount (machine.history port outside n) = n := by
  induction n with
  | zero => rfl
  | succ n ih =>
    rw [history_succ, tickCount_append, ih fun k hk => h k (hk.trans n.lt_succ_self),
      tickCount_actions (h n n.lt_succ_self)]

/-- **Whatever a machine asks of its chamber** is a tick or asked for by its program. -/
theorem mem_history {action : Action} (hmem : action ∈ machine.history port outside n) :
    action = .tick ∨
      ∃ instruction ∈ machine.program, ∃ sum heard, action ∈ instruction.actions sum heard := by
  obtain ⟨k, -, hact⟩ := List.mem_flatMap.1 hmem
  have hasked := mem_actions hact
  rwa [(called_program_settings port machine outside k).1] at hasked

/-- The sends of a machine are behind its pointer. -/
theorem sendCount_history_le_pointer (port : Port σ ε) (machine : Machine) (outside : σ) (n : Nat) :
    sendCount (machine.history port outside n)
      ≤ 4 * min (machine.called port outside n).1.pointer machine.program.size := by
  induction n with
  | zero => exact Nat.zero_le _
  | succ n ih =>
    have hcall := sendCount_actions_le port (machine.called port outside n).1
      (machine.called port outside n).2
    rw [(called_program_settings port machine outside n).1] at hcall
    rw [history_succ, sendCount_append, called_succ]
    omega

/-- **A machine sends at most four sounds for each instruction of its program:** the pointer never
goes back. -/
theorem sendCount_history_le (port : Port σ ε) (machine : Machine) (outside : σ) (n : Nat) :
    sendCount (machine.history port outside n) ≤ 4 * machine.program.size :=
  (sendCount_history_le_pointer port machine outside n).trans
    (Nat.mul_le_mul_left 4 (Nat.min_le_right _ _))

end Machine

end Reverb
