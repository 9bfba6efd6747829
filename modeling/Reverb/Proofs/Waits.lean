import Reverb.Proofs.Recording

/-!
# Proofs/Waits — a wait is that many ticks of waiting, one by one

A wait of some ticks can be spelled out as that many waits of one tick.  The two programs are at
different pointers, and where the one machine waits the other one carries out an instruction that
does nothing.  What is the same is what lies ahead: the pending ticks and the rest of the program,
spelled out, is the rest of the other program (`Machine.IsSpelledOut`).  Every call keeps that, and
so the runs are alike but for the name of the instruction in the frames
(`Machine.spelledOut_runs_alike`).

A jump counts instructions, so there may be none in the program.
-/

namespace Reverb

variable {σ ε : Type}

/-! ## To spell out a wait -/

namespace Instruction

/-- An instruction, or a wait as that many waits of one tick, at least one. -/
def spelledOut : Instruction → List Instruction
  | nop (some ticks) => List.replicate (max ticks.toNat 1) (nop none)
  | instruction => [instruction]

/-- An instruction, or the wait of one tick with which a wait begins. -/
def plain : Instruction → Instruction
  | nop _ => nop none
  | instruction => instruction

/-- The ticks that follow the first one are waits of their own. -/
theorem spelledOut_eq (instruction : Instruction) :
    instruction.spelledOut = instruction.plain :: List.replicate instruction.wait (nop none) := by
  cases instruction with
  | nop ticks =>
    cases ticks with
    | none => rfl
    | some ticks =>
      have hwait : max ticks.toNat 1 = ticks.toNat - 1 + 1 := by omega
      rw [spelledOut, hwait]
      rfl
  | send | wall | redirect | predirect | print | condition | pcondition | input | exit => rfl

theorem plain_mem_spelledOut (instruction : Instruction) :
    instruction.plain ∈ instruction.spelledOut := by
  rw [spelledOut_eq]
  exact List.mem_cons_self

theorem nop_mem_spelledOut {instruction : Instruction} (h : 0 < instruction.wait) :
    nop none ∈ instruction.spelledOut := by
  rw [spelledOut_eq, List.mem_cons, List.mem_replicate]
  exact Or.inr ⟨h.ne', rfl⟩

theorem wait_plain (instruction : Instruction) : instruction.plain.wait = 0 := by
  cases instruction <;> rfl

theorem stops_plain (instruction : Instruction) : instruction.plain.stops = instruction.stops := by
  cases instruction <;> rfl

theorem jump_plain (sum : UInt8) (instruction : Instruction) :
    instruction.plain.jump sum = instruction.jump sum := by
  cases instruction <;> rfl

end Instruction

theorem Chamber.perform_plain (chamber : Chamber) (instruction : Instruction) (heard : Nat) :
    chamber.perform instruction.plain heard = chamber.perform instruction heard := by
  cases instruction <;> rfl

/-- The program with its waits spelled out. -/
def spelledOut (program : Array Instruction) : Array Instruction :=
  (program.toList.flatMap Instruction.spelledOut).toArray

/-- The program has no conditional jump. -/
def IsStraight (program : Array Instruction) : Prop :=
  ∀ comparison value offset, Instruction.condition comparison value offset ∉ program ∧
    Instruction.pcondition comparison value offset ∉ program

theorem IsStraight.jump_eq_zero {program : Array Instruction} (h : IsStraight program)
    {instruction : Instruction} (hmem : instruction ∈ program) (sum : UInt8) :
    instruction.jump sum = 0 := by
  cases instruction with
  | condition comparison value offset => exact absurd hmem (h comparison value offset).1
  | pcondition comparison value offset => exact absurd hmem (h comparison value offset).2
  | nop | send | wall | redirect | predirect | print | input | exit => rfl

/-- **The texts of two frames are alike:** on the first line the one names an instruction and the
other one an instruction that it is spelled out with, and there is no other difference. -/
def IsRetitled (text other : String) : Prop :=
  ∃ (rule : String) (rest : List String) (instruction part : Instruction),
    part ∈ instruction.spelledOut ∧
    text = "\n".intercalate ((rule ++ " " ++ instruction.text) :: rest) ∧
    other = "\n".intercalate ((rule ++ " " ++ part.text) :: rest)

namespace Machine

variable {terminal : Terminal σ ε} {program program' : Array Instruction}
variable {machine other : Machine} {instruction : Instruction} {outside after : σ} {n : Nat}

/-! ## Machines that are alike -/

/-- **The other machine is the machine with its waits spelled out.** -/
structure IsSpelledOut (machine other : Machine) : Prop where
  settings : other.settings = machine.settings
  chamber : other.chamber = machine.chamber
  exited : other.exited = machine.exited
  pending : other.pending = 0
  /-- What lies ahead: the other one has the ticks that are pending still in its program. -/
  ahead : other.program.toList.drop other.pointer
    = List.replicate machine.pending (.nop none) ++
        (machine.program.toList.drop machine.pointer).flatMap Instruction.spelledOut
  /-- A machine that waits shows the wait. -/
  waits : 0 < machine.pending → ∃ instruction, machine.last = some instruction ∧
    .nop none ∈ instruction.spelledOut
  film : List.Forall₂ IsRetitled machine.film.frames.toList other.film.frames.toList

theorem isSpelledOut_start (program : Array Instruction) (settings : Settings) :
    IsSpelledOut { program, settings } { program := spelledOut program, settings } where
  settings := rfl
  chamber := rfl
  exited := rfl
  pending := rfl
  ahead := rfl
  waits h := absurd h (Nat.lt_irrefl 0)
  film := .nil

namespace IsSpelledOut

theorem turn_of_ahead_eq_nil (h : IsSpelledOut machine other)
    (hahead : other.program.toList.drop other.pointer = []) : other.turn = .stopped := by
  have hnone : other.program[other.pointer]? = none := by
    rw [← Array.getElem?_toList, ← List.head?_drop, hahead, List.head?_nil]
  rw [turn, h.pending, if_neg (Nat.lt_irrefl 0), hnone, ite_self]

theorem turn_of_ahead_eq_cons (h : IsSpelledOut machine other) (hgoes : machine.exited = false)
    {rest : List Instruction}
    (hahead : other.program.toList.drop other.pointer = instruction :: rest) :
    other.turn = .dispatch instruction := by
  refine turn_eq_dispatch_iff.2 ⟨h.exited.trans hgoes, h.pending, ?_⟩
  rw [← Array.getElem?_toList, ← List.head?_drop, hahead, List.head?_cons]

theorem turn_of_stopped (h : IsSpelledOut machine other) (hturn : machine.turn = .stopped) :
    other.turn = .stopped := by
  rcases hexited : machine.exited with _ | _
  · obtain ⟨hpending, hend⟩ := of_stopped hturn hexited
    refine h.turn_of_ahead_eq_nil ?_
    rw [h.ahead, hpending, List.drop_of_length_le (by simpa using hend)]
    rfl
  · exact turn_of_exited (h.exited.trans hexited)

/-- Where the machine waits, the other one carries out a wait of one tick. -/
theorem turn_of_waiting (h : IsSpelledOut machine other) (hturn : machine.turn = .waiting) :
    other.turn = .dispatch (.nop none) ∧
      other.program.toList.drop (other.pointer + 1)
        = List.replicate (machine.pending - 1) (.nop none) ++
          (machine.program.toList.drop machine.pointer).flatMap Instruction.spelledOut := by
  obtain ⟨hgoes, hpending⟩ := turn_eq_waiting_iff.1 hturn
  have hahead := h.ahead
  obtain ⟨rest, hrest⟩ := Nat.exists_eq_add_of_lt hpending
  rw [Nat.zero_add] at hrest
  rw [hrest, List.replicate_succ, List.cons_append] at hahead
  refine ⟨h.turn_of_ahead_eq_cons hgoes hahead, ?_⟩
  rw [← List.tail_drop, hahead, hrest]
  rfl

/-- Where the machine carries out an instruction, the other one carries it out too, or the first
tick of its wait. -/
theorem turn_of_dispatch (h : IsSpelledOut machine other)
    (hturn : machine.turn = .dispatch instruction) :
    other.turn = .dispatch instruction.plain ∧
      other.program.toList.drop (other.pointer + 1)
        = List.replicate instruction.wait (.nop none) ++
          (machine.program.toList.drop (machine.pointer + 1)).flatMap Instruction.spelledOut := by
  obtain ⟨hgoes, hpending, hinstruction⟩ := turn_eq_dispatch_iff.1 hturn
  have hahead := h.ahead
  have hnext : machine.program.toList.drop machine.pointer
      = instruction :: machine.program.toList.drop (machine.pointer + 1) := by
    rw [← Array.getElem?_toList] at hinstruction
    obtain ⟨hlt, hget⟩ := List.getElem?_eq_some_iff.1 hinstruction
    rw [List.drop_eq_getElem_cons hlt, hget]
  rw [hpending, hnext, List.flatMap_cons, Instruction.spelledOut_eq, List.replicate_zero,
    List.nil_append, List.cons_append] at hahead
  refine ⟨h.turn_of_ahead_eq_cons hgoes hahead, ?_⟩
  rw [← List.tail_drop, hahead]
  rfl

/-! ## One call -/

theorem waited (h : IsSpelledOut machine other) (hturn : machine.turn = .waiting) :
    IsSpelledOut machine.waited (other.carriedOut (.nop none) 0) where
  settings := h.settings
  chamber := congrArg Chamber.tick h.chamber
  exited := (turn_eq_waiting_iff.1 hturn).1.symm
  pending := rfl
  ahead := (h.turn_of_waiting hturn).2
  waits _ := h.waits (turn_eq_waiting_iff.1 hturn).2
  film := h.film

theorem carriedOut (h : IsSpelledOut machine other) (hturn : machine.turn = .dispatch instruction)
    (hjump : ∀ sum, instruction.jump sum = 0) (heard : Nat) :
    IsSpelledOut (machine.carriedOut instruction heard)
      (other.carriedOut instruction.plain heard) where
  settings := h.settings
  chamber := by
    simp only [Machine.carriedOut, h.chamber, Chamber.perform_plain]
  exited := instruction.stops_plain
  pending := instruction.wait_plain
  ahead := by
    simp only [Machine.carriedOut, perform, Instruction.jump_plain, hjump, Nat.add_zero]
    exact (h.turn_of_dispatch hturn).2
  waits hwait := ⟨instruction, rfl, Instruction.nop_mem_spelledOut hwait⟩
  film := h.film

/-- A failed attempt at an instruction. -/
theorem noted (h : IsSpelledOut machine other) (hturn : machine.turn = .dispatch instruction)
    (last : Option Instruction) :
    IsSpelledOut { machine with last := some instruction } { other with last } where
  settings := h.settings
  chamber := h.chamber
  exited := h.exited
  pending := h.pending
  ahead := h.ahead
  waits hpending := absurd hpending (Nat.not_lt.2 (turn_eq_dispatch_iff.1 hturn).2.1.le)
  film := h.film

/-- The frames of machines that are alike show the same but for the instruction. -/
theorem isRetitled (h : IsSpelledOut machine other) {part : Instruction}
    (hlast : machine.last = some instruction) (hlast' : other.last = some part)
    (hpart : part ∈ instruction.spelledOut) : IsRetitled machine.frame.text other.frame.text := by
  have hframe : other.frame = { machine.frame with instruction := some part } := by
    rw [frame, hlast', h.chamber, h.settings, frame]
  refine ⟨Frame.rule machine.frame.rows, machine.frame.rows ++ [Frame.rule machine.frame.rows],
    instruction, part, hpart, ?_, ?_⟩
  · rw [Frame.text, Frame.lines, Frame.ruled, Frame.title, frame, hlast]
    rfl
  · rw [hframe]
    rfl

theorem recorded (h : IsSpelledOut machine other) {part : Instruction}
    (hlast : machine.last = some instruction) (hlast' : other.last = some part)
    (hpart : part ∈ instruction.spelledOut) : IsSpelledOut machine.recorded other.recorded := by
  rw [Machine.recorded, Machine.recorded, congrArg Settings.recordFrames h.settings]
  split
  · refine ⟨h.settings, h.chamber, h.exited, h.pending, h.ahead, h.waits, ?_⟩
    rw [Film.toList_push, Film.toList_push]
    exact List.rel_append h.film (.cons (h.isRetitled hlast hlast' hpart) .nil)
  · exact h

theorem converse_eq (h : IsSpelledOut machine other) (terminal : Terminal σ ε)
    (instruction : Instruction) (outside : σ) :
    other.converse terminal instruction.plain outside
      = machine.converse terminal instruction outside := by
  cases instruction with
  | predirect | print | pcondition =>
    simp only [Instruction.plain, converse, h.settings, h.chamber]
  | nop | send | wall | redirect | condition | input | exit => rfl

theorem talk_eq (h : IsSpelledOut machine other) (instruction : Instruction) :
    other.talk instruction.plain = machine.talk instruction := by
  cases instruction with
  | predirect | print | pcondition =>
    simp only [Instruction.plain, talk, h.settings, h.chamber]
  | nop | send | wall | redirect | condition | input | exit => rfl

/-- **A call keeps machines alike,** with the same result, the same outside world and the same
requests to read and to print. -/
theorem callOn (h : IsSpelledOut machine other) (hin : machine.InBounds program)
    (hin' : other.InBounds program') (hstraight : IsStraight machine.program)
    (terminal : Terminal σ ε) (outside : σ) :
    (other.callOn terminal.port outside).1 = (machine.callOn terminal.port outside).1 ∧
      IsSpelledOut (machine.callOn terminal.port outside).2.1
        (other.callOn terminal.port outside).2.1 ∧
      (other.callOn terminal.port outside).2.2 = (machine.callOn terminal.port outside).2.2 ∧
      (other.requests terminal.port outside).filter Request.isTalk
        = (machine.requests terminal.port outside).filter Request.isTalk := by
  match hturn : machine.turn with
  | .stopped =>
    have hturn' := h.turn_of_stopped hturn
    rw [callOn_of_stopped hturn, callOn_of_stopped hturn', requests_of_stopped hturn,
      requests_of_stopped hturn']
    exact ⟨rfl, h, rfl, rfl⟩
  | .waiting =>
    obtain ⟨hturn', -⟩ := h.turn_of_waiting hturn
    obtain ⟨instruction, hlast, hpart⟩ := h.waits (turn_eq_waiting_iff.1 hturn).2
    have hheard : other.converse terminal.port.toTerminal (.nop none) outside
        = (.ok 0, outside) := rfl
    rw [callOn_port_of_waiting hin hturn, callOn_port_of_heard hin' hturn' hheard,
      requests_of_waiting hturn, requests_of_heard hturn' hheard, List.filter_append,
      filter_isTalk_showing, filter_isTalk_showing]
    exact ⟨rfl, (h.waited hturn).recorded hlast rfl hpart, rfl, rfl⟩
  | .dispatch instruction =>
    obtain ⟨hturn', -⟩ := h.turn_of_dispatch hturn
    have hjump := hstraight.jump_eq_zero (mem_program_of_dispatch hturn)
    have hconverse := h.converse_eq terminal.port.toTerminal instruction outside
    rcases hheard : machine.converse terminal.port.toTerminal instruction outside with
      ⟨error | heard, world⟩
    · have hheard' := hconverse.trans hheard
      rw [callOn_of_unheard hturn hheard, callOn_of_unheard hturn' hheard',
        requests_of_unheard hturn hheard, requests_of_unheard hturn' hheard', h.talk_eq]
      exact ⟨rfl, h.noted hturn _, rfl, rfl⟩
    · have hheard' := hconverse.trans hheard
      rw [callOn_port_of_heard hin hturn hheard, callOn_port_of_heard hin' hturn' hheard',
        requests_of_heard hturn hheard, requests_of_heard hturn' hheard', h.talk_eq,
        List.filter_append, List.filter_append, filter_isTalk_showing, filter_isTalk_showing]
      have hpart := instruction.plain_mem_spelledOut
      exact ⟨rfl, (h.carriedOut hturn hjump heard).recorded rfl rfl hpart, rfl, rfl⟩

/-- **Machines that are alike stay alike.** -/
theorem called (h : IsSpelledOut machine other) (hin : machine.InBounds program)
    (hin' : other.InBounds program') (hstraight : IsStraight machine.program)
    (terminal : Terminal σ ε) (outside : σ) (n : Nat) :
    IsSpelledOut (machine.called terminal.port outside n).1
        (other.called terminal.port outside n).1 ∧
      (other.called terminal.port outside n).2 = (machine.called terminal.port outside n).2 := by
  induction n with
  | zero => exact ⟨h, rfl⟩
  | succ n ih =>
    obtain ⟨hmachines, hworld⟩ := ih
    have hprogram := (called_program_settings terminal.port machine outside n).1
    obtain ⟨-, hnext, hafter, -⟩ := hmachines.callOn (hin.called terminal.port outside n)
      (hin'.called terminal.port outside n) (hprogram ▸ hstraight) terminal
      (machine.called terminal.port outside n).2
    rw [called_succ, called_succ, hworld]
    exact ⟨hnext, hafter⟩

end IsSpelledOut

/-! ## Runs that are alike -/

/-- **The runs of two machines are alike,** call for call and as a whole: the machines are in step, and
the frames are the same but for the instructions there. -/
structure RunsAlike (terminal : Terminal σ ε) (machine other : Machine) (outside : σ) : Prop where
  inStep : ∀ n, InStep terminal.port machine other outside n
  film : ∀ n, List.Forall₂ IsRetitled
    (machine.called terminal.port outside n).1.film.frames.toList
    (other.called terminal.port outside n).1.film.frames.toList
  /-- The whole runs end with the same call and in the same way, -/
  run : ∃ n after, EndsAt terminal.port machine outside n ∧ EndsAt terminal.port other outside n ∧
    ((∃ fault, machine.run terminal outside = (.error fault, after) ∧
        other.run terminal outside = (.error fault, after)) ∨
      ∃ film film', machine.run terminal outside = (.ok film, after) ∧
        other.run terminal outside = (.ok film', after) ∧
        List.Forall₂ IsRetitled film.frames.toList film'.frames.toList)
  /-- and have read and printed the same. -/
  transcript : (other.transcript terminal.port outside).filter Request.isTalk
    = (machine.transcript terminal.port outside).filter Request.isTalk

/-- Machines that are alike are in step. -/
theorem IsSpelledOut.inStep (h : IsSpelledOut machine other) (hin : machine.InBounds program)
    (hin' : other.InBounds program') (hstraight : IsStraight machine.program)
    (terminal : Terminal σ ε) (outside : σ) (n : Nat) :
    InStep terminal.port machine other outside n := by
  obtain ⟨hcalled, hworld⟩ := h.called hin hin' hstraight terminal outside n
  have hprogram := (called_program_settings terminal.port machine outside n).1
  obtain ⟨hresult, -, -, htalk⟩ := hcalled.callOn (hin.called terminal.port outside n)
    (hin'.called terminal.port outside n) (hprogram ▸ hstraight) terminal
    (machine.called terminal.port outside n).2
  refine ⟨?_, hworld, hcalled.chamber, ?_⟩
  · rw [result, hworld, hresult, result]
  · rw [hworld, htalk]

/-- **Machines that are alike run alike.** -/
theorem IsSpelledOut.runsAlike (h : IsSpelledOut machine other) (hin : machine.InBounds program)
    (hin' : other.InBounds program') (hstraight : IsStraight machine.program)
    (terminal : Terminal σ ε) (outside : σ) : RunsAlike terminal machine other outside := by
  have hstep := h.inStep hin hin' hstraight terminal outside
  have hfilm (n : Nat) := (h.called hin hin' hstraight terminal outside n).1.film
  obtain ⟨n, hn⟩ := exists_endsAt terminal.port machine outside
  have hn' : EndsAt terminal.port other outside n := hn.congr fun k _ => (hstep k).result
  refine ⟨hstep, hfilm, ⟨n, (machine.called terminal.port outside (n + 1)).2, hn, hn', ?_⟩,
    talk_transcript_of_inStep hstep⟩
  rw [← runOn_port, ← runOn_port, hn.runOn_eq, hn'.runOn_eq, (hstep n).result,
    (hstep (n + 1)).world]
  rcases machine.result terminal.port outside n with fault | _
  · exact Or.inl ⟨fault, rfl, rfl⟩
  · exact Or.inr ⟨_, _, rfl, rfl, hfilm (n + 1)⟩

/-- **A wait may be spelled out,** in a program without jumps. -/
theorem spelledOut_runs_alike (program : Array Instruction) (hstraight : IsStraight program)
    (settings : Settings) (terminal : Terminal σ ε) (outside : σ) :
    RunsAlike terminal { program, settings } { program := spelledOut program, settings } outside :=
  (isSpelledOut_start program settings).runsAlike (inBounds_start program settings)
    (inBounds_start (spelledOut program) settings) hstraight terminal outside

/-- A wait of three ticks that outlives the program, and a print that fails on the first attempt. -/
theorem spelledOut_runs_alike_trailing :
    let terminal : Terminal Bool Unit :=
      ⟨fun full => (.ok "", full), fun _ full => (if full then .error () else .ok (), false)⟩
    let program : Array Instruction := #[.nop (some 0), .print, .nop (some 3)]
    spelledOut program = #[.nop none, .print, .nop none, .nop none, .nop none] ∧
      IsStraight program ∧ RunsAlike terminal { program } { program := spelledOut program } true ∧
      (List.range 7).map (fun n => (result terminal.port { program } true n).toOption)
        = [some true, none, some true, some true, some true, some true, some false] := by
  intro terminal program
  have hstraight : IsStraight program := by simp [program, IsStraight]
  exact ⟨by decide, hstraight, spelledOut_runs_alike program hstraight {} terminal true,
    by decide +kernel⟩

end Machine

end Reverb
