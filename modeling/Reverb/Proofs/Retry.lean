import Reverb.Proofs.Requests

/-!
# Proofs/Retry — a failed call leaves no trace

Reading and printing come before anything else that a call does, so a call that fails has only left
its note (`Machine.last`).  The note is drawn in frames, yet a stale one never is: the machine is
still at the same instruction, and the next call writes the note anew before it draws
(`callOn_note`).

What a machine shows from some moment on are its `Machine.sights` under any moves: calls, on ports
of any kind, and changes of the chamber between them.  Everything but the note is in them.
-/

namespace Reverb

variable {σ ε : Type}

/-! ## What a machine shows -/

/-- What is done with a machine: a call, or a change of its chamber. -/
inductive Move (σ ε : Type) where
  | call (port : Port σ ε)
  | alter (change : Chamber → Chamber)

/-- What can be seen after a move. -/
structure Sight (σ ε : Type) where
  /-- The result, if the move was a call. -/
  result : Option (Except (Fault ε) Bool)
  /-- What the machine asked of the port. -/
  requests : List Request
  /-- The machine without its note. -/
  machine : Machine
  /-- The outside world. -/
  outside : σ

namespace Machine

variable {port : Port σ ε} {machine failed : Machine} {instruction : Instruction}
variable {outside after : σ} {error : ε}

/-- The machine without its note. -/
def withoutNote (machine : Machine) : Machine := { machine with last := none }

/-- **What a machine shows** after each of some moves. -/
def sights (machine : Machine) (outside : σ) : List (Move σ ε) → List (Sight σ ε)
  | [] => []
  | .call port :: rest =>
    let (result, next, after) := machine.callOn port outside
    ⟨some result, machine.requests port outside, next.withoutNote, after⟩ :: next.sights after rest
  | .alter change :: rest =>
    let next := { machine with chamber := change machine.chamber }
    ⟨none, [], next.withoutNote, outside⟩ :: next.sights outside rest

/-- **The next call writes the note anew,** so it makes no difference to it. -/
theorem callOn_note (h : machine.turn = .dispatch instruction) (last : Option Instruction)
    (port : Port σ ε) (outside : σ) :
    { machine with last }.callOn port outside = machine.callOn port outside := by
  have hturn : { machine with last }.turn = .dispatch instruction := h
  -- Neither reading nor printing looks at the note.
  have hconverse : { machine with last }.converse port.toTerminal instruction outside
      = machine.converse port.toTerminal instruction outside := rfl
  rcases hheard : machine.converse port.toTerminal instruction outside with ⟨error | heard, world⟩
  · rw [callOn_of_unheard h hheard, callOn_of_unheard hturn (hconverse.trans hheard)]
  · rw [callOn_of_heard h hheard, callOn_of_heard hturn (hconverse.trans hheard)]
    rfl

/-- The note of a machine at an instruction is never seen. -/
theorem sights_note (h : machine.turn = .dispatch instruction) (last : Option Instruction)
    (outside : σ) (moves : List (Move σ ε)) :
    { machine with last }.sights outside moves = machine.sights outside moves := by
  induction moves generalizing machine with
  | nil => rfl
  | cons move rest ih =>
    match move with
    | .call port =>
      have hcall := callOn_note h last port outside
      have hrequests : { machine with last }.requests port outside
          = machine.requests port outside := by
        rw [requests, callOn_note h, requests]
      rw [sights, hcall, hrequests, sights]
    | .alter change =>
      -- A change of the chamber leaves the machine at its instruction, whatever the note.
      have haltered : { machine with chamber := change machine.chamber }.turn
          = .dispatch instruction := h
      rw [sights, sights]
      exact congrArg (_ :: ·) (ih haltered)

/-- A call that fails was at an instruction and has left it as a note. -/
theorem next_of_failed
    (h : machine.callOn port outside = (.error (.terminal error), failed, after)) :
    ∃ instruction, machine.turn = .dispatch instruction ∧
      failed = { machine with last := some instruction } := by
  have hrecord {recorded : Machine} {world : σ} :
      recorded.recordOn port world ≠ (.error (.terminal error), failed, after) := by
    intro heq
    obtain ⟨film, drawn, hok⟩ | ⟨drawn, hnone⟩ := recordOn_cases port recorded world
    · rw [hok] at heq
      cases heq
    · rw [hnone] at heq
      cases heq
  obtain ⟨-, hfalse, -⟩ | ⟨-, hwait⟩ | ⟨instruction, -, hturn, -, -, hnext⟩ |
    ⟨_, _, _, -, -, hdone⟩ := callOn_cases h
  · cases hfalse
  · exact absurd hwait hrecord
  · exact ⟨instruction, hturn, hnext⟩
  · exact absurd hdone hrecord

/-- **A failed call leaves no trace.**  For a machine in any state, one that calls lead to or not:
if a call fails because the port did, then the machine is as before but for its note, and whatever
is done with it from then on, on ports of any kind, it shows what it would have shown. -/
theorem invisible_of_failed
    (h : machine.callOn port outside = (.error (.terminal error), failed, after)) :
    failed = { machine with last := failed.last } ∧
      ∀ {σ' ε' : Type} (outside' : σ') (moves : List (Move σ' ε')),
        failed.sights outside' moves = machine.sights outside' moves := by
  obtain ⟨instruction, hturn, rfl⟩ := next_of_failed h
  exact ⟨rfl, fun outside' moves => sights_note hturn (some instruction) outside' moves⟩

/-- A print fails twice, a wall is put up, and the third print gets through and is drawn. -/
theorem invisible_of_failed_print :
    let machine : Machine := { program := #[.print, .nop (some 2)] }
    let failed : Machine := { machine with last := some .print }
    let full : Terminal Unit Unit := ⟨fun _ => (.ok "", ()), fun _ _ => (.error (), ())⟩
    let empty : Terminal Unit Unit := ⟨fun _ => (.ok "", ()), fun _ _ => (.ok (), ())⟩
    let moves : List (Move Unit Unit) :=
      [.call full.port, .alter fun chamber => (chamber.placeWall 1 2).2, .call empty.port,
        .call empty.port]
    machine.callOn full.port () = (.error (.terminal ()), failed, ()) ∧ failed ≠ machine ∧
      failed = { machine with last := failed.last } ∧
      failed.sights () moves = machine.sights () moves := by
  intro machine failed full empty moves
  have hfails : machine.callOn full.port () = (.error (.terminal ()), failed, ()) := rfl
  obtain ⟨hsame, hsights⟩ := invisible_of_failed hfails
  exact ⟨hfails, by decide, hsame, hsights () moves⟩

end Machine

end Reverb
