import Reverb.Machine.Port
import Reverb.Machine.Run

/-!
# Machine/RunOn — a run that hands its frames out

`Machine.runOn` calls a machine on a port until a call finds nothing left to do or fails.  It ends
for the same reason as a run on a terminal, and on the port of a terminal it is that run
(`runOn_port`).
-/

namespace Reverb

namespace Machine

variable {σ ε : Type} {port : Port σ ε} {machine next : Machine} {outside after : σ}

theorem remaining_recordOn (port : Port σ ε) (machine : Machine) (outside : σ) :
    (machine.recordOn port outside).2.1.remaining = machine.remaining := by
  obtain ⟨film, after, h⟩ | ⟨after, h⟩ := recordOn_cases port machine outside
  · rw [h]
    rfl
  · rw [h]

/-- **Every call that does something brings the machine nearer to its end.** -/
theorem remaining_callOn_lt (h : machine.callOn port outside = (.ok true, next, after)) :
    next.remaining < machine.remaining := by
  obtain rfl : (machine.callOn port outside).2.1 = next := congrArg (fun result => result.2.1) h
  cases hturn : machine.turn with
  | stopped =>
    rw [callOn_of_stopped hturn] at h
    cases h
  | waiting =>
    obtain ⟨-, hpending⟩ := turn_eq_waiting_iff.1 hturn
    rw [callOn_of_waiting hturn, remaining_recordOn]
    simp only [remaining, waited]
    omega
  | dispatch instruction =>
    rcases hheard : machine.converse port.toTerminal instruction outside with ⟨error | heard, world⟩
    · rw [callOn_of_unheard hturn hheard] at h
      cases h
    · rw [callOn_of_heard hturn hheard, remaining_recordOn]
      exact remaining_perform_lt (turn_eq_dispatch_iff.1 hturn).2.2 heard

/-- **Run on a port until nothing is left to do,** and give the film. -/
def runOn (port : Port σ ε) (machine : Machine) (outside : σ) : Except (Fault ε) Film × σ :=
  match _h : machine.callOn port outside with
  | (.ok true, next, outside) => runOn port next outside
  | (.ok false, last, outside) => (.ok last.film, outside)
  | (.error fault, _, outside) => (.error fault, outside)
termination_by machine.remaining
decreasing_by exact remaining_callOn_lt _h

/-! ## The unfolding lemmas of a run -/

theorem runOn_of_true (h : machine.callOn port outside = (.ok true, next, after)) :
    machine.runOn port outside = next.runOn port after := by
  rw [runOn]
  split <;> simp_all

theorem runOn_of_false (h : machine.callOn port outside = (.ok false, next, after)) :
    machine.runOn port outside = (.ok next.film, after) := by
  rw [runOn]
  split <;> simp_all

theorem runOn_of_error {fault : Fault ε}
    (h : machine.callOn port outside = (.error fault, next, after)) :
    machine.runOn port outside = (.error fault, after) := by
  rw [runOn]
  split <;> simp_all

/-- **A run is a run on the terminal as a port.** -/
theorem runOn_port (terminal : Terminal σ ε) (machine : Machine) (outside : σ) :
    machine.runOn terminal.port outside = machine.run terminal outside := by
  rcases h : machine.step terminal outside with ⟨fault | _ | _, next, after⟩
  · rw [run_of_step_error h, runOn_of_error ((callOn_port ..).trans h)]
  · rw [run_of_step_false h, runOn_of_false ((callOn_port ..).trans h)]
  · rw [run_of_step_true h, runOn_of_true ((callOn_port ..).trans h), runOn_port]
termination_by machine.remaining
decreasing_by exact remaining_step_lt h

end Machine

end Reverb
