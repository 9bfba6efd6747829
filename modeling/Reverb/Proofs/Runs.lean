import Reverb.Machine.RunOn
import Reverb.Proofs.Lifetime
import Reverb.Proofs.Requests

/-!
# Proofs/Runs — a run is its calls

A run makes calls until one does not give `true`; that one ends it (`Machine.EndsAt`), and what the
run gives is read off there (`Machine.EndsAt.runOn_eq`).  What it asked of the port is its
`Machine.transcript`, the requests of all its calls (`Machine.EndsAt.transcript_eq`).  The runs of
machines in step read and print the same (`Machine.talk_transcript_of_inStep`).
-/

namespace Reverb

namespace Machine

variable {σ ε : Type} {port : Port σ ε} {machine next : Machine} {outside after : σ} {n : Nat}

/-! ## Machines that have stopped -/

theorem turn_of_exited (h : machine.exited = true) : machine.turn = .stopped := if_pos h

/-- A machine that stops without `exit` has no tick pending and has come to the end of its
program. -/
theorem of_stopped (h : machine.turn = .stopped) (hexited : machine.exited = false) :
    machine.pending = 0 ∧ machine.program.size ≤ machine.pointer := by
  have hstopped : ¬ machine.isRunning = true := by simp [isRunning, h]
  rw [isRunning_iff] at hstopped
  have hend := not_or.1 fun hmore => hstopped ⟨hexited, hmore⟩
  omega

/-! ## Calls after calls -/

theorem called_add (port : Port σ ε) (machine : Machine) (outside : σ) (m n : Nat) :
    machine.called port outside (m + n)
      = (machine.called port outside m).1.called port (machine.called port outside m).2 n := by
  rw [called, Nat.add_comm, Function.iterate_add_apply]
  rfl

theorem called_succ_of_callOn {result : Except (Fault ε) Bool}
    (h : machine.callOn port outside = (result, next, after)) (n : Nat) :
    machine.called port outside (n + 1) = next.called port after n := by
  rw [Nat.add_comm, called_add, called_succ]
  exact congrArg (fun after : Machine × σ => after.1.called port after.2 n) (congrArg Prod.snd h)

/-- Calls leave the program and the settings as they are. -/
theorem called_program_settings (port : Port σ ε) (machine : Machine) (outside : σ) (n : Nat) :
    (machine.called port outside n).1.program = machine.program ∧
      (machine.called port outside n).1.settings = machine.settings := by
  induction n with
  | zero => exact ⟨rfl, rfl⟩
  | succ n ih =>
    rw [called_succ]
    obtain ⟨-, last, h⟩ | ⟨-, film, h⟩ | ⟨instruction, heard, -, -, film, h⟩ :=
      next_cases port (machine.called port outside n).1 (machine.called port outside n).2 <;>
    · rw [h]
      exact ih

theorem result_zero_of_callOn {result : Except (Fault ε) Bool}
    (h : machine.callOn port outside = (result, next, after)) :
    machine.result port outside 0 = result := congrArg Prod.fst h

theorem result_succ_of_callOn {result : Except (Fault ε) Bool}
    (h : machine.callOn port outside = (result, next, after)) (n : Nat) :
    machine.result port outside (n + 1) = next.result port after n := by
  rw [Machine.result, called_succ_of_callOn h]
  rfl

/-- Only a machine that has stopped gives `false`. -/
theorem turn_of_result_false (h : machine.result port outside n = .ok false) :
    (machine.called port outside n).1.turn = .stopped := by
  have hrecord (port : Port σ ε) (machine : Machine) (outside : σ) :
      (machine.recordOn port outside).1 ≠ .ok false := by
    obtain ⟨film, after, h⟩ | ⟨after, h⟩ := recordOn_cases port machine outside <;>
      simp [h]
  rcases hcall : (machine.called port outside n).1.callOn port
    (machine.called port outside n).2 with ⟨result, next, after⟩
  rw [Machine.result, hcall] at h
  obtain ⟨hturn, -⟩ | ⟨-, hwaited⟩ | ⟨_, error, -, -, herror, -⟩ | ⟨_, _, _, -, -, hcarried⟩ :=
    callOn_cases hcall
  · exact hturn
  · exact absurd ((congrArg Prod.fst hwaited).trans h) (hrecord _ _ _)
  · cases herror.symm.trans h
  · exact absurd ((congrArg Prod.fst hcarried).trans h) (hrecord _ _ _)

theorem result_of_stopped (h : (machine.called port outside n).1.turn = .stopped) :
    machine.result port outside n = .ok false := by
  rw [result, callOn_of_stopped h]

/-- A machine that has not stopped after some calls had not stopped before. -/
theorem turn_ne_stopped_of_le (h : (machine.called port outside n).1.turn ≠ .stopped) {k : Nat}
    (hk : k ≤ n) : (machine.called port outside k).1.turn ≠ .stopped := by
  intro hstopped
  rw [called_of_stopped hstopped hk] at h
  exact h hstopped

/-! ## The requests of a number of calls -/

/-- What the machine asks of the port in `n` calls. -/
def asked (port : Port σ ε) (machine : Machine) (outside : σ) (n : Nat) : List Request :=
  (List.range n).flatMap fun k =>
    (machine.called port outside k).1.requests port (machine.called port outside k).2

theorem asked_succ (port : Port σ ε) (machine : Machine) (outside : σ) (n : Nat) :
    machine.asked port outside (n + 1) = machine.asked port outside n ++
      (machine.called port outside n).1.requests port (machine.called port outside n).2 := by
  rw [asked, asked, List.range_succ, List.flatMap_append, List.flatMap_singleton]

/-- Machines that ask for the same in each call ask for the same in all of them. -/
theorem asked_congr {σ' : Type} {port' : Port σ' ε} {machine' : Machine} {outside' : σ'}
    (h : ∀ k < n, (machine'.called port' outside' k).1.requests port'
        (machine'.called port' outside' k).2
      = (machine.called port outside k).1.requests port (machine.called port outside k).2) :
    machine'.asked port' outside' n = machine.asked port outside n :=
  List.flatMap_congr fun k hk => h k (List.mem_range.1 hk)

/-- A port that keeps its requests keeps those of all calls. -/
theorem called_logged (port : Port σ ε) (machine : Machine) (outside : σ) (log : List Request)
    (n : Nat) :
    machine.called port.logged (outside, log) n
      = ((machine.called port outside n).1, (machine.called port outside n).2,
          log ++ machine.asked port outside n) := by
  induction n with
  | zero => exact congrArg _ (congrArg _ (List.append_nil log).symm)
  | succ n ih =>
    rw [called_succ, ih, callOn_logged, called_succ, asked_succ, List.append_assoc]

theorem result_logged (port : Port σ ε) (machine : Machine) (outside : σ) (log : List Request)
    (n : Nat) :
    machine.result port.logged (outside, log) n = machine.result port outside n := by
  rw [result, called_logged, callOn_logged]
  rfl

/-! ## The end of a run -/

/-- **A run ends after `n` calls** with the next one, the first that does not give `true`. -/
structure EndsAt (port : Port σ ε) (machine : Machine) (outside : σ) (n : Nat) : Prop where
  goes : ∀ k < n, machine.result port outside k = .ok true
  ends : machine.result port outside n ≠ .ok true

/-- **Every run ends.** -/
theorem exists_endsAt (port : Port σ ε) (machine : Machine) (outside : σ) :
    ∃ n, EndsAt port machine outside n := by
  rcases h : machine.callOn port outside with ⟨result, next, after⟩
  by_cases hgoes : result = .ok true
  · subst hgoes
    obtain ⟨n, hn⟩ := exists_endsAt port next after
    refine ⟨n + 1, fun k hk => ?_, (result_succ_of_callOn h n).trans_ne hn.ends⟩
    cases k with
    | zero => exact result_zero_of_callOn h
    | succ k => exact (result_succ_of_callOn h k).trans (hn.goes k (Nat.lt_of_succ_lt_succ hk))
  · exact ⟨0, fun k hk => absurd hk (Nat.not_lt_zero k), (result_zero_of_callOn h).trans_ne hgoes⟩
termination_by machine.remaining
decreasing_by exact remaining_callOn_lt h

/-- What a run asks of its port. -/
def transcript (port : Port σ ε) (machine : Machine) (outside : σ) : List Request :=
  (machine.runOn port.logged (outside, [])).2.2

namespace EndsAt

/-- Where the results are the same, a run ends at the same call. -/
theorem congr {σ' : Type} {port' : Port σ' ε} {machine' : Machine} {outside' : σ'}
    (h : EndsAt port machine outside n) (hresult : ∀ k ≤ n,
      machine'.result port' outside' k = machine.result port outside k) :
    EndsAt port' machine' outside' n where
  goes k hk := (hresult k hk.le).trans (h.goes k hk)
  ends := (hresult n le_rfl).trans_ne h.ends

/-- Before its end a run has not stopped. -/
theorem turn_ne_stopped (h : EndsAt port machine outside n) {k : Nat} (hk : k < n) :
    (machine.called port outside k).1.turn ≠ .stopped := fun hstopped => by
  cases (result_of_stopped hstopped).symm.trans (h.goes k hk)

/-- **What a run gives** is read off its last call. -/
theorem runOn_eq (h : EndsAt port machine outside n) :
    machine.runOn port outside
      = ((machine.result port outside n).map fun _ => (machine.called port outside (n + 1)).1.film,
          (machine.called port outside (n + 1)).2) := by
  induction n generalizing machine outside with
  | zero =>
    have hends := h.ends
    rcases hcall : machine.callOn port outside with ⟨fault | _ | _, next, after⟩
    · rw [runOn_of_error hcall, result_zero_of_callOn hcall, called_succ_of_callOn hcall]
      rfl
    · rw [runOn_of_false hcall, result_zero_of_callOn hcall, called_succ_of_callOn hcall]
      rfl
    · exact absurd (result_zero_of_callOn hcall) hends
  | succ n ih =>
    have hfirst := h.goes 0 n.succ_pos
    rcases hcall : machine.callOn port outside with ⟨result, next, after⟩
    obtain rfl : result = .ok true := (result_zero_of_callOn hcall).symm.trans hfirst
    have hnext : EndsAt port next after n :=
      ⟨fun k hk => (result_succ_of_callOn hcall k).symm.trans (h.goes _ (Nat.succ_lt_succ hk)),
        (result_succ_of_callOn hcall n).symm.trans_ne h.ends⟩
    rw [runOn_of_true hcall, ih hnext, result_succ_of_callOn hcall, called_succ_of_callOn hcall]

/-- A run on a port that keeps its requests is the run, with what it asks behind what was kept. -/
theorem runOn_logged (h : EndsAt port machine outside n) (log : List Request) :
    machine.runOn port.logged (outside, log)
      = ((machine.runOn port outside).1, (machine.runOn port outside).2,
          log ++ machine.asked port outside (n + 1)) := by
  have hlogged : EndsAt port.logged machine (outside, log) n :=
    h.congr fun k _ => result_logged port machine outside log k
  rw [hlogged.runOn_eq, h.runOn_eq, called_logged, result_logged]

/-- **A run asks for what its calls ask for.** -/
theorem transcript_eq (h : EndsAt port machine outside n) :
    machine.transcript port outside = machine.asked port outside (n + 1) := by
  rw [transcript, h.runOn_logged, List.nil_append]

end EndsAt

/-- A run that succeeds ends with a machine that has stopped. -/
theorem exists_of_runOn_ok {film : Film} (h : machine.runOn port outside = (.ok film, after)) :
    ∃ n, EndsAt port machine outside n ∧ (machine.called port outside n).1.turn = .stopped ∧
      (machine.called port outside n).1.film = film ∧ (machine.called port outside n).2 = after := by
  obtain ⟨n, hn⟩ := exists_endsAt port machine outside
  have hends := hn.ends
  rw [hn.runOn_eq] at h
  rcases hresult : machine.result port outside n with fault | _ | _
  · rw [hresult] at h
    cases congrArg Prod.fst h
  · have hstopped := turn_of_result_false hresult
    rw [hresult, called_of_stopped hstopped n.le_succ] at h
    cases h
    exact ⟨n, hn, hstopped, rfl, rfl⟩
  · exact absurd hresult hends

/-- A run that fails ends with a machine that has not stopped. -/
theorem exists_of_runOn_error {fault : Fault ε}
    (h : machine.runOn port outside = (.error fault, after)) :
    ∃ n, EndsAt port machine outside n ∧ (machine.called port outside n).1.turn ≠ .stopped := by
  obtain ⟨n, hn⟩ := exists_endsAt port machine outside
  refine ⟨n, hn, fun hstopped => ?_⟩
  rw [hn.runOn_eq, result_of_stopped hstopped] at h
  cases congrArg Prod.fst h

/-! ## Machines in step -/

/-- **In step** after `n` calls: from outside and in their chambers the machines are the same, and
their next calls have the same result and ask to read and to print the same. -/
structure InStep (port : Port σ ε) (machine other : Machine) (outside : σ) (n : Nat) : Prop where
  result : other.result port outside n = machine.result port outside n
  world : (other.called port outside n).2 = (machine.called port outside n).2
  chamber : (other.called port outside n).1.chamber = (machine.called port outside n).1.chamber
  talk : ((other.called port outside n).1.requests port
      (other.called port outside n).2).filter Request.isTalk
    = ((machine.called port outside n).1.requests port
      (machine.called port outside n).2).filter Request.isTalk

/-- **The runs of machines in step** read and print the same. -/
theorem talk_transcript_of_inStep {other : Machine}
    (h : ∀ n, InStep port machine other outside n) :
    (other.transcript port outside).filter Request.isTalk
      = (machine.transcript port outside).filter Request.isTalk := by
  obtain ⟨n, hn⟩ := exists_endsAt port machine outside
  have hn' : EndsAt port other outside n := hn.congr fun k _ => (h k).result
  rw [hn.transcript_eq, hn'.transcript_eq, asked, asked, List.filter_flatMap, List.filter_flatMap]
  exact List.flatMap_congr fun k _ => (h k).talk

end Machine

end Reverb
