import Reverb.Machine.Basic

/-!
# Machine/Run — a machine runs until it stops

Every step that does something brings the machine nearer to its end: a wait gets shorter, or the
pointer moves forward.  `Machine.remaining` measures what may be left, and a run ends because it
falls with every step.
-/

namespace Reverb

namespace Machine

variable {σ ε : Type}

/-- A bound on the steps that are left: an instruction waits for less than 255 ticks. -/
def remaining (machine : Machine) : Nat :=
  (machine.program.size - machine.pointer) * 256 + machine.pending

/-- Recording a frame leaves program, pointer and wait as they are. -/
theorem remaining_record (machine : Machine) :
    (machine.record : Except (Fault ε) Bool × Machine).2.remaining = machine.remaining := by
  rw [record]
  split
  · split <;> rfl
  · rfl

theorem remaining_finish (machine : Machine) :
    (machine.finish : Except (Fault ε) Bool × Machine).2.remaining = machine.remaining :=
  remaining_record _

theorem remaining_perform_lt {machine : Machine} {instruction : Instruction}
    (h : machine.program[machine.pointer]? = some instruction) (heard : Nat) :
    (machine.perform instruction heard).remaining < machine.remaining := by
  obtain ⟨hlt, -⟩ := Array.getElem?_eq_some_iff.1 h
  have hwait := instruction.wait_lt
  simp only [remaining, perform]
  omega

/-- **Every step that does something brings the machine nearer to its end.** -/
theorem remaining_step_lt {terminal : Terminal σ ε} {machine next : Machine} {outside after : σ}
    (h : machine.step terminal outside = (.ok true, next, after)) :
    next.remaining < machine.remaining := by
  rw [step] at h
  split at h
  · simp at h
  · next hturn =>
    obtain ⟨-, hpending⟩ := turn_eq_waiting_iff.1 hturn
    have hnext := congrArg (fun result => result.2.1.remaining) h
    simp only [remaining_finish] at hnext
    rw [← hnext]
    simp only [remaining]
    omega
  · next instruction hturn =>
    split at h
    · simp at h
    · next heard _ _ =>
      have hnext := congrArg (fun result => result.2.1.remaining) h
      simp only [remaining_finish] at hnext
      rw [← hnext]
      exact remaining_perform_lt (turn_eq_dispatch_iff.1 hturn).2.2 heard

/-- **Run until nothing is left to do,** and give the film. -/
def run (terminal : Terminal σ ε) (machine : Machine) (outside : σ) : Except (Fault ε) Film × σ :=
  match _h : machine.step terminal outside with
  | (.ok true, next, outside) => run terminal next outside
  | (.ok false, last, outside) => (.ok last.film, outside)
  | (.error fault, _, outside) => (.error fault, outside)
termination_by machine.remaining
decreasing_by exact remaining_step_lt _h

/-! ## The unfolding lemmas of a run -/

theorem run_of_step_true {terminal : Terminal σ ε} {machine next : Machine} {outside after : σ}
    (h : machine.step terminal outside = (.ok true, next, after)) :
    machine.run terminal outside = next.run terminal after := by
  rw [run]
  split <;> simp_all

theorem run_of_step_false {terminal : Terminal σ ε} {machine last : Machine} {outside after : σ}
    (h : machine.step terminal outside = (.ok false, last, after)) :
    machine.run terminal outside = (.ok last.film, after) := by
  rw [run]
  split <;> simp_all

theorem run_of_step_error {terminal : Terminal σ ε} {machine last : Machine} {outside after : σ}
    {fault : Fault ε} (h : machine.step terminal outside = (.error fault, last, after)) :
    machine.run terminal outside = (.error fault, after) := by
  rw [run]
  split <;> simp_all

end Machine

end Reverb
