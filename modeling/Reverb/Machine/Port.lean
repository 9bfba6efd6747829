import Reverb.Machine.Basic

/-!
# Machine/Port — a machine that hands its frames out

A port is an outside world that also draws.  `Machine.callOn` is one step of a machine on a port:
where `Machine.step` draws a frame as `Frame.render` does, a call hands it to the port.  A terminal
is the port that draws frames in the usual way, and on it the two are the same (`callOn_port`).
-/

namespace Reverb

/-- An outside world that draws frames in its own way; a drawing that breaks off gives nothing. -/
structure Port (σ ε : Type) extends Terminal σ ε where
  /-- Draw a frame. -/
  draw : Frame → σ → Option String × σ

/-- A terminal as the port that draws frames in the usual way. -/
def Terminal.port {σ ε : Type} (terminal : Terminal σ ε) : Port σ ε :=
  { terminal with draw := fun frame outside => (frame.render, outside) }

namespace Machine

variable {σ ε : Type}

/-- The machine after a tick of waiting. -/
def waited (machine : Machine) : Machine :=
  { machine with pending := machine.pending - 1, chamber := machine.chamber.tick }

/-- The machine after an instruction and its tick. -/
def carriedOut (machine : Machine) (instruction : Instruction) (heard : Nat) : Machine :=
  { machine.perform instruction heard with
    chamber := (machine.chamber.perform instruction heard).tick }

/-- Hand the frame of the machine to the port and add the drawing to the film, if frames are
recorded. -/
def recordOn (port : Port σ ε) (machine : Machine) (outside : σ) :
    Except (Fault ε) Bool × Machine × σ :=
  if machine.settings.recordFrames then
    match port.draw machine.frame outside with
    | (some text, outside) => (.ok true, { machine with film := machine.film.push text }, outside)
    | (none, outside) => (.error .undrawable, machine, outside)
  else (.ok true, machine, outside)

/-- **One step on a port:** `true` if something was left to do. -/
def callOn (port : Port σ ε) (machine : Machine) (outside : σ) :
    Except (Fault ε) Bool × Machine × σ :=
  match machine.turn with
  | .stopped => (.ok false, machine, outside)
  | .waiting => machine.waited.recordOn port outside
  | .dispatch instruction =>
    match machine.converse port.toTerminal instruction outside with
    | (.error e, outside) => (.error (.terminal e), { machine with last := some instruction }, outside)
    | (.ok heard, outside) => (machine.carriedOut instruction heard).recordOn port outside

/-! ## The unfolding lemmas of a call -/

variable {machine : Machine} {instruction : Instruction} {outside after : σ}

theorem callOn_of_stopped (h : machine.turn = .stopped) (port : Port σ ε) (outside : σ) :
    machine.callOn port outside = (.ok false, machine, outside) := by
  rw [callOn, h]

theorem callOn_of_waiting (h : machine.turn = .waiting) (port : Port σ ε) (outside : σ) :
    machine.callOn port outside = machine.waited.recordOn port outside := by
  rw [callOn, h]

theorem callOn_of_heard {port : Port σ ε} {heard : Nat} (h : machine.turn = .dispatch instruction)
    (hheard : machine.converse port.toTerminal instruction outside = (.ok heard, after)) :
    machine.callOn port outside = (machine.carriedOut instruction heard).recordOn port after := by
  rw [callOn, h]
  dsimp only
  rw [hheard]

theorem callOn_of_unheard {port : Port σ ε} {error : ε} (h : machine.turn = .dispatch instruction)
    (herror : machine.converse port.toTerminal instruction outside = (.error error, after)) :
    machine.callOn port outside
      = (.error (.terminal error), { machine with last := some instruction }, after) := by
  rw [callOn, h]
  dsimp only
  rw [herror]

/-- Recording on a port changes nothing but the film. -/
theorem recordOn_cases (port : Port σ ε) (machine : Machine) (outside : σ) :
    (∃ film after, machine.recordOn port outside = (.ok true, { machine with film }, after)) ∨
      ∃ after, machine.recordOn port outside = (.error .undrawable, machine, after) := by
  rw [recordOn]
  split
  · split
    · exact Or.inl ⟨_, _, rfl⟩
    · exact Or.inr ⟨_, rfl⟩
  · exact Or.inl ⟨_, _, rfl⟩

/-! ## Terminals as ports -/

theorem recordOn_port (terminal : Terminal σ ε) (machine : Machine) (outside : σ) :
    machine.recordOn terminal.port outside
      = ((machine.record : Except (Fault ε) Bool × Machine).1,
          (machine.record : Except (Fault ε) Bool × Machine).2, outside) := by
  rw [recordOn, record]
  split
  · cases h : machine.frame.render <;> simp [Terminal.port, h]
  · rfl

/-- **A step is a call on the terminal as a port.** -/
theorem callOn_port (terminal : Terminal σ ε) (machine : Machine) (outside : σ) :
    machine.callOn terminal.port outside = machine.step terminal outside := by
  rw [step]
  split
  · next hturn => exact callOn_of_stopped hturn _ _
  · next hturn => exact (callOn_of_waiting hturn _ _).trans (recordOn_port terminal _ _)
  · next instruction hturn =>
    split
    · next herror => exact callOn_of_unheard hturn herror
    · next hheard => exact (callOn_of_heard hturn hheard).trans (recordOn_port terminal _ _)

end Machine

end Reverb
