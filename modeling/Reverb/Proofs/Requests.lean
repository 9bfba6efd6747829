import Reverb.Proofs.Calls

/-!
# Proofs/Requests — what a machine asks of a port

A call asks for a line or a print if its instruction does (`Machine.talk`), and then hands out its
frame if frames are recorded (`Machine.showing`).  The port that also keeps what it is asked
(`Port.logged`) shows that these are all the requests of a call, in this order, and that to keep
them changes nothing else (`Machine.callOn_logged`).
-/

namespace Reverb

variable {σ ε : Type}

/-- A request to a port. -/
inductive Request where
  | read
  | write (text : String)
  | draw (frame : Frame)
  deriving DecidableEq

/-- The request is to read or to print. -/
def Request.isTalk : Request → Bool
  | read => true
  | write _ => true
  | draw _ => false

/-- The port that also keeps the requests, in order. -/
def Port.logged (port : Port σ ε) : Port (σ × List Request) ε where
  readLine := fun (outside, log) =>
    ((port.readLine outside).1, (port.readLine outside).2, log ++ [.read])
  write text := fun (outside, log) =>
    ((port.write text outside).1, (port.write text outside).2, log ++ [.write text])
  draw frame := fun (outside, log) =>
    ((port.draw frame outside).1, (port.draw frame outside).2, log ++ [.draw frame])

namespace Machine

variable {port : Port σ ε} {machine : Machine} {instruction : Instruction} {outside after : σ}

/-- What the machine asks of the port in a call. -/
def requests (port : Port σ ε) (machine : Machine) (outside : σ) : List Request :=
  (machine.callOn port.logged (outside, [])).2.2.2

/-- What an instruction asks for before it acts. -/
def talk (machine : Machine) (instruction : Instruction) : List Request :=
  match instruction with
  | .input .. => [.read]
  | instruction =>
    if instruction.prints then [.write (machine.settings.style.text machine.chamber.sum)] else []

/-- The frame of the machine as it is handed out, if frames are recorded. -/
def showing (machine : Machine) : List Request :=
  if machine.settings.recordFrames then [.draw machine.frame] else []

theorem filter_isTalk_talk (machine : Machine) (instruction : Instruction) :
    (machine.talk instruction).filter Request.isTalk = machine.talk instruction := by
  cases instruction <;> rfl

theorem filter_isTalk_showing (machine : Machine) :
    machine.showing.filter Request.isTalk = [] := by
  rw [showing]
  split <;> rfl

/-! ## A port that keeps its requests -/

theorem converse_logged (port : Port σ ε) (machine : Machine) (instruction : Instruction)
    (outside : σ) (log : List Request) :
    machine.converse port.logged.toTerminal instruction (outside, log)
      = ((machine.converse port.toTerminal instruction outside).1,
          (machine.converse port.toTerminal instruction outside).2,
          log ++ machine.talk instruction) := by
  cases instruction with
  | input directions distance =>
    rcases h : port.readLine outside with ⟨error | line, after⟩ <;>
      simp [converse, talk, Port.logged, h]
  | predirect | print | pcondition =>
    rcases h : port.write (machine.settings.style.text machine.chamber.sum) outside with
      ⟨error | _, after⟩ <;> simp [converse, talk, Port.logged, Instruction.prints, h]
  | nop | send | wall | redirect | condition | exit =>
    exact congrArg _ (congrArg _ (List.append_nil log).symm)

theorem recordOn_logged (port : Port σ ε) (machine : Machine) (outside : σ) (log : List Request) :
    machine.recordOn port.logged (outside, log)
      = ((machine.recordOn port outside).1, (machine.recordOn port outside).2.1,
          (machine.recordOn port outside).2.2, log ++ machine.showing) := by
  by_cases hframes : machine.settings.recordFrames = true
  · rcases h : port.draw machine.frame outside with ⟨_ | text, after⟩ <;>
      simp [recordOn, showing, Port.logged, hframes, h]
  · simp [recordOn, showing, hframes]

/-! ## The requests of a call -/

theorem requests_of_stopped (h : machine.turn = .stopped) : machine.requests port outside = [] := by
  rw [requests, callOn_of_stopped h]

theorem requests_of_waiting (h : machine.turn = .waiting) :
    machine.requests port outside = machine.waited.showing := by
  rw [requests, callOn_of_waiting h, recordOn_logged, List.nil_append]

theorem requests_of_unheard {error : ε} (h : machine.turn = .dispatch instruction)
    (herror : machine.converse port.toTerminal instruction outside = (.error error, after)) :
    machine.requests port outside = machine.talk instruction := by
  have hlogged := converse_logged port machine instruction outside []
  rw [herror] at hlogged
  rw [requests, callOn_of_unheard h hlogged, List.nil_append]

theorem requests_of_heard {heard : Nat} (h : machine.turn = .dispatch instruction)
    (hheard : machine.converse port.toTerminal instruction outside = (.ok heard, after)) :
    machine.requests port outside
      = machine.talk instruction ++ (machine.carriedOut instruction heard).showing := by
  have hlogged := converse_logged port machine instruction outside []
  rw [hheard] at hlogged
  rw [requests, callOn_of_heard h hlogged, recordOn_logged, List.nil_append]

/-- **To keep the requests changes nothing else,** whatever was kept before. -/
theorem callOn_logged (port : Port σ ε) (machine : Machine) (outside : σ) (log : List Request) :
    machine.callOn port.logged (outside, log)
      = ((machine.callOn port outside).1, (machine.callOn port outside).2.1,
          (machine.callOn port outside).2.2, log ++ machine.requests port outside) := by
  match hturn : machine.turn with
  | .stopped =>
    rw [callOn_of_stopped hturn, callOn_of_stopped hturn, requests_of_stopped hturn,
      List.append_nil]
  | .waiting =>
    rw [callOn_of_waiting hturn, callOn_of_waiting hturn, requests_of_waiting hturn,
      recordOn_logged]
  | .dispatch instruction =>
    have hlogged := converse_logged port machine instruction outside log
    rcases h : machine.converse port.toTerminal instruction outside with ⟨error | heard, world⟩
    · rw [h] at hlogged
      rw [callOn_of_unheard hturn h, callOn_of_unheard hturn hlogged, requests_of_unheard hturn h]
    · rw [h] at hlogged
      rw [callOn_of_heard hturn h, callOn_of_heard hturn hlogged, requests_of_heard hturn h,
        recordOn_logged, List.append_assoc]

end Machine

end Reverb
