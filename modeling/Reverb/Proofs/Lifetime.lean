import Mathlib.Algebra.Order.BigOperators.Group.List
import Mathlib.Algebra.Order.Group.Nat
import Mathlib.Data.Nat.Find
import Reverb.Proofs.Safety

/-!
# Proofs/Lifetime — how long a machine runs

A machine goes through its program and never back.  The instructions that it dispatches, each at
its position and with the sound sum that it finds, are a `Path`: every way on is one position
further, or further still where a comparison holds, and there is none after `exit`.

Each call is a tick, and an instruction with its wait takes its `Instruction.duration`.  So the
calls so far and the ticks that are still pending make up the durations on the path
(`Machine.Course`), and no path lasts longer than the whole program.
-/

namespace Reverb

variable {σ ε : Type}

/-! ## What an instruction takes -/

namespace Instruction

/-- The number of ticks that an instruction takes, its own and those of its wait. -/
def duration : Instruction → Nat
  | nop (some ticks) => max ticks.toNat 1
  | _ => 1

/-- The wait follows the tick of the instruction itself. -/
theorem wait_add_one (instruction : Instruction) :
    instruction.wait + 1 = instruction.duration := by
  cases instruction with
  | nop ticks =>
    cases ticks with
    | none => rfl
    | some ticks =>
      rw [wait, duration]
      omega
  | send | wall | redirect | predirect | print | condition | pcondition | input | exit => rfl

theorem stops_eq_true_iff {instruction : Instruction} :
    instruction.stops = true ↔ instruction = exit := by
  cases instruction <;> simp [stops]

end Instruction

/-! ## Paths through a program -/

/-- An instruction that is dispatched: where it stands and the sound sum that it finds. -/
structure Dispatch where
  position : Nat
  instruction : Instruction
  sum : UInt8
  deriving DecidableEq

namespace Dispatch

/-- The instruction is a conditional jump over `offset` instructions, and the sum is such that it is
taken. -/
def Skips (dispatch : Dispatch) (offset : Nat) : Prop :=
  ∃ comparison value skipped,
    (dispatch.instruction = .condition comparison value skipped ∨
      dispatch.instruction = .pcondition comparison value skipped) ∧
    comparison.holds dispatch.sum value = true ∧ skipped.toNat = offset

/-- **The position after a dispatch** is the next one, unless it skips some. -/
structure LeadsTo (dispatch : Dispatch) (next : Nat) : Prop where
  of_skips : ∀ offset, dispatch.Skips offset → next = dispatch.position + 1 + offset
  of_not_skips : (∀ offset, ¬ dispatch.Skips offset) → next = dispatch.position + 1

/-- The pointer is set to where the dispatch leads. -/
theorem leadsTo (dispatch : Dispatch) : dispatch.LeadsTo
    (dispatch.position + 1 + dispatch.instruction.jump dispatch.sum) where
  of_skips offset h := by
    obtain ⟨comparison, value, skipped, hjump, hholds, rfl⟩ := h
    rcases hjump with hjump | hjump <;> rw [hjump, Instruction.jump, if_pos hholds]
  of_not_skips h := by
    have hjump : dispatch.instruction.jump dispatch.sum = 0 := by
      rw [Instruction.jump.eq_def]
      split
      · next comparison value skipped hinstruction =>
        exact if_neg fun hholds => h _ ⟨_, _, _, Or.inl hinstruction, hholds, rfl⟩
      · next comparison value skipped hinstruction =>
        exact if_neg fun hholds => h _ ⟨_, _, _, Or.inr hinstruction, hholds, rfl⟩
      · rfl
    rw [hjump, Nat.add_zero]

end Dispatch

/-- **A path through a program:** dispatches from its start on, and the position `next` that they
lead to. -/
inductive Path (program : Array Instruction) : List Dispatch → Nat → Prop where
  | start : Path program [] 0
  | dispatch {done : List Dispatch} {next : Nat} {instruction : Instruction} (sum : UInt8)
      (h : Path program done next) (hexit : ∀ earlier ∈ done, earlier.instruction ≠ .exit)
      (hinstruction : program[next]? = some instruction) :
      Path program (done ++ [⟨next, instruction, sum⟩]) (next + 1 + instruction.jump sum)

namespace Path

variable {program : Array Instruction} {done : List Dispatch} {next : Nat}

/-- A path is behind its end. -/
theorem position_lt (h : Path program done next) : ∀ dispatch ∈ done, dispatch.position < next := by
  induction h with
  | start => exact fun dispatch hmem => absurd hmem List.not_mem_nil
  | dispatch sum _ _ _ ih =>
    intro dispatch hmem
    rcases List.mem_append.1 hmem with hbefore | hlast
    · have hlt := ih dispatch hbefore
      omega
    · obtain rfl := List.mem_singleton.1 hlast
      dsimp only
      omega

/-- A dispatched instruction stands at its position. -/
theorem instruction_eq (h : Path program done next) :
    ∀ dispatch ∈ done, program[dispatch.position]? = some dispatch.instruction := by
  induction h with
  | start => exact fun dispatch hmem => absurd hmem List.not_mem_nil
  | dispatch sum _ _ hinstruction ih =>
    intro dispatch hmem
    rcases List.mem_append.1 hmem with hbefore | hlast
    · exact ih dispatch hbefore
    · obtain rfl := List.mem_singleton.1 hlast
      exact hinstruction

/-- A path starts at position 0. -/
theorem first (h : Path program done next) :
    (done = [] ∧ next = 0) ∨ ∃ dispatch ∈ done.head?, dispatch.position = 0 := by
  induction h with
  | start => exact Or.inl ⟨rfl, rfl⟩
  | dispatch sum _ _ _ ih =>
    refine Or.inr ?_
    rcases ih with ⟨rfl, rfl⟩ | ⟨dispatch, hhead, hzero⟩
    · exact ⟨_, rfl, rfl⟩
    · refine ⟨dispatch, ?_, hzero⟩
      rw [List.head?_append, Option.mem_def.1 hhead]
      rfl

/-- A path goes forward, and not on from `exit`. -/
theorem pairwise (h : Path program done next) : done.Pairwise fun earlier later =>
    earlier.position < later.position ∧ earlier.instruction ≠ .exit := by
  induction h with
  | start => exact List.Pairwise.nil
  | dispatch sum hpath hexit _ ih =>
    refine List.pairwise_append.2 ⟨ih, List.pairwise_singleton _ _, ?_⟩
    intro earlier hearlier later hlater
    obtain rfl := List.mem_singleton.1 hlater
    exact ⟨hpath.position_lt earlier hearlier, hexit earlier hearlier⟩

/-- **On a path each dispatch leads to the next one,** and the last one leads to its end. -/
theorem leads (h : Path program done next) :
    (done.IsChain fun earlier later => earlier.LeadsTo later.position) ∧
      ∀ dispatch ∈ done.getLast?, dispatch.LeadsTo next := by
  induction h with
  | start => exact ⟨List.IsChain.nil, fun dispatch hlast => by cases hlast⟩
  | dispatch sum _ _ _ ih =>
    obtain ⟨hchain, hend⟩ := ih
    constructor
    · refine List.isChain_append.2 ⟨hchain, List.IsChain.singleton _, ?_⟩
      intro earlier hlast later hhead
      obtain rfl := Option.some.inj hhead
      exact hend earlier hlast
    · intro dispatch hlast
      rw [List.getLast?_concat] at hlast
      obtain rfl := Option.some.inj hlast
      exact Dispatch.leadsTo _

/-- **A path takes each instruction once at most.** -/
theorem sublist (h : Path program done next) :
    (done.map Dispatch.instruction).Sublist (program.toList.take next) := by
  induction h with
  | start => exact List.Sublist.refl _
  | @dispatch done next instruction sum _ _ hinstruction ih =>
    rw [List.map_append, List.take_add, List.take_add_one, Array.getElem?_toList, hinstruction]
    exact (ih.append (List.Sublist.refl _)).trans (List.sublist_append_left _ _)

/-- A path lasts no longer than the whole program. -/
theorem duration_le (h : Path program done next) :
    (done.map fun dispatch => dispatch.instruction.duration).sum
      ≤ (program.toList.map Instruction.duration).sum := by
  have hsub := (h.sublist.trans (List.take_sublist next program.toList)).map Instruction.duration
  rw [List.map_map] at hsub
  exact hsub.sum_le_sum fun ticks _ => Nat.zero_le ticks

end Path

namespace Machine

variable {port : Port σ ε} {program : Array Instruction} {settings : Settings} {machine : Machine}
variable {outside : σ} {done : List Dispatch} {n : Nat}

/-! ## A number of calls -/

/-- The machine and the outside world after `n` calls. -/
def called (port : Port σ ε) (machine : Machine) (outside : σ) (n : Nat) : Machine × σ :=
  (fun (machine, outside) => (machine.callOn port outside).2)^[n] (machine, outside)

/-- The result of the call after `n` calls. -/
def result (port : Port σ ε) (machine : Machine) (outside : σ) (n : Nat) : Except (Fault ε) Bool :=
  ((machine.called port outside n).1.callOn port (machine.called port outside n).2).1

/-- What the machine dispatches next, if it does not wait and has not stopped. -/
def dispatch? (machine : Machine) : Option Dispatch :=
  match machine.turn with
  | .dispatch instruction => some ⟨machine.pointer, instruction, machine.chamber.sum⟩
  | _ => none

/-- What the machine dispatches in `n` calls. -/
def dispatches (port : Port σ ε) (machine : Machine) (outside : σ) (n : Nat) : List Dispatch :=
  (List.range n).filterMap fun k => (machine.called port outside k).1.dispatch?

/-- **The port serves the machine:** whenever an instruction is to read or to print, it can, and
whatever has a row in a frame is drawn. -/
structure Served (port : Port σ ε) (machine : Machine) (outside : σ) : Prop where
  heard : ∀ n instruction, (machine.called port outside n).1.turn = .dispatch instruction →
    ∃ heard after, (machine.called port outside n).1.converse port.toTerminal instruction
      (machine.called port outside n).2 = (.ok heard, after)
  draws : port.DrawsDrawable

theorem called_succ (port : Port σ ε) (machine : Machine) (outside : σ) (n : Nat) :
    machine.called port outside (n + 1)
      = ((machine.called port outside n).1.callOn port (machine.called port outside n).2).2 :=
  Function.iterate_succ_apply' _ n (machine, outside)

theorem dispatches_succ (port : Port σ ε) (machine : Machine) (outside : σ) (n : Nat) :
    machine.dispatches port outside (n + 1) = machine.dispatches port outside n ++
      (machine.called port outside n).1.dispatch?.toList := by
  rw [dispatches, List.range_succ, List.filterMap_append, dispatches]
  cases h : (machine.called port outside n).1.dispatch? <;> simp [h]

/-- A port that never fails serves every machine. -/
theorem served_of_ok (hread : ∀ outside, ∃ line after, port.readLine outside = (.ok line, after))
    (hwrite : ∀ text outside, ∃ after, port.write text outside = (.ok (), after))
    (hdraws : port.DrawsDrawable) (machine : Machine) (outside : σ) :
    Served port machine outside := by
  refine ⟨fun n instruction _ => ?_, hdraws⟩
  generalize machine.called port outside n = reached
  obtain ⟨line, read, hread⟩ := hread reached.2
  obtain ⟨written, hwrite⟩ :=
    hwrite (reached.1.settings.style.text reached.1.chamber.sum) reached.2
  cases instruction with
  | input => simp [converse, hread]
  | predirect | print | pcondition => simp [converse, Instruction.prints, hwrite]
  | nop | send | wall | redirect | condition | exit => exact ⟨0, reached.2, rfl⟩

/-! ## The course of a machine -/

/-- **The course of a machine:** what it is like after `n` calls that have dispatched `done`. -/
structure Course (program : Array Instruction) (n : Nat) (done : List Dispatch)
    (machine : Machine) : Prop where
  inBounds : machine.InBounds program
  path : Path program done machine.pointer
  /-- The calls and the pending ticks make up the durations. -/
  ticks : n + machine.pending = (done.map fun dispatch => dispatch.instruction.duration).sum
  running : machine.exited = false → ∀ dispatch ∈ done, dispatch.instruction ≠ .exit
  exited : machine.exited = true →
    machine.pending = 0 ∧ ∃ dispatch ∈ done.getLast?, dispatch.instruction = .exit

namespace Course

theorem start (program : Array Instruction) (settings : Settings) :
    Course program 0 [] { program, settings } where
  inBounds := inBounds_start program settings
  path := .start
  ticks := rfl
  running _ _ hmem := absurd hmem List.not_mem_nil
  exited h := absurd h Bool.false_ne_true

theorem waited (h : Course program n done machine) (hturn : machine.turn = .waiting) :
    Course program (n + 1) done machine.waited where
  inBounds := h.inBounds.waited
  path := h.path
  ticks := by
    obtain ⟨-, hpending⟩ := turn_eq_waiting_iff.1 hturn
    rw [← h.ticks]
    simp only [Machine.waited]
    omega
  running := h.running
  exited hexited := by
    obtain ⟨hrunning, -⟩ := turn_eq_waiting_iff.1 hturn
    exact absurd (hrunning.symm.trans hexited) Bool.false_ne_true

theorem carriedOut {instruction : Instruction} (h : Course program n done machine)
    (hturn : machine.turn = .dispatch instruction) (heard : Nat) :
    Course program (n + 1) (done ++ [⟨machine.pointer, instruction, machine.chamber.sum⟩])
      (machine.carriedOut instruction heard) := by
  obtain ⟨hrunning, hpending, hinstruction⟩ := turn_eq_dispatch_iff.1 hturn
  rw [h.inBounds.program_eq] at hinstruction
  refine ⟨h.inBounds.carriedOut hturn heard, ?_, ?_, fun hgoes => ?_, fun hexited => ?_⟩
  · exact h.path.dispatch _ (h.running hrunning) hinstruction
  · have hticks := h.ticks
    have hduration := instruction.wait_add_one
    simp only [Machine.carriedOut, perform, List.map_append, List.map_cons, List.map_nil,
      List.sum_append, List.sum_cons, List.sum_nil]
    omega
  · intro dispatch hmem
    rcases List.mem_append.1 hmem with hbefore | hlast
    · exact h.running hrunning dispatch hbefore
    · obtain rfl := List.mem_singleton.1 hlast
      intro hexit
      exact absurd ((Instruction.stops_eq_true_iff.2 hexit).symm.trans hgoes) (by decide)
  · obtain rfl := Instruction.stops_eq_true_iff.1 hexited
    exact ⟨rfl, _, List.getLast?_concat, rfl⟩

theorem filmed (h : Course program n done machine) (film : Film) :
    Course program n done { machine with film } :=
  ⟨h.inBounds.filmed film, h.path, h.ticks, h.running, h.exited⟩

/-- A frame of a machine on its course is drawn. -/
theorem recordOn (h : Course program n done machine) (hdraws : port.DrawsDrawable) (outside : σ) :
    (machine.recordOn port outside).1 = .ok true ∧
      Course program n done (machine.recordOn port outside).2.1 := by
  obtain ⟨film, after, hrecord⟩ := recordOn_of_isDrawable hdraws h.inBounds.isDrawable outside
  rw [hrecord]
  exact ⟨rfl, h.filmed film⟩

/-- **A call keeps a machine on its course** until it stops. -/
theorem callOn (h : Course program n done machine) (hdraws : port.DrawsDrawable)
    (hheard : ∀ instruction, machine.turn = .dispatch instruction →
      ∃ heard after, machine.converse port.toTerminal instruction outside = (.ok heard, after))
    (hturn : machine.turn ≠ .stopped) :
    (machine.callOn port outside).1 = .ok true ∧
      Course program (n + 1) (done ++ machine.dispatch?.toList)
        (machine.callOn port outside).2.1 := by
  match hnext : machine.turn with
  | .stopped => exact absurd hnext hturn
  | .waiting =>
    rw [callOn_of_waiting hnext, dispatch?, hnext, Option.toList_none, List.append_nil]
    exact (h.waited hnext).recordOn hdraws outside
  | .dispatch instruction =>
    obtain ⟨heard, after, hok⟩ := hheard instruction hnext
    rw [callOn_of_heard hnext hok, dispatch?, hnext, Option.toList_some]
    exact (h.carriedOut hnext heard).recordOn hdraws after

/-- A machine that has stopped has no tick pending, and it has come to `exit` or to the end. -/
theorem of_stopped (h : Course program n done machine) (hturn : machine.turn = .stopped) :
    machine.pending = 0 ∧
      ((∃ dispatch ∈ done.getLast?, dispatch.instruction = .exit) ∨
        program.size ≤ machine.pointer) := by
  rcases hexited : machine.exited with _ | _
  · have hstopped : ¬ machine.isRunning = true := by simp [isRunning, hturn]
    rw [isRunning_iff, h.inBounds.program_eq] at hstopped
    have hend := not_or.1 fun hmore => hstopped ⟨hexited, hmore⟩
    exact ⟨by omega, Or.inr (by omega)⟩
  · obtain ⟨hpending, hlast⟩ := h.exited hexited
    exact ⟨hpending, Or.inl hlast⟩

end Course

/-- **A machine keeps to its course** as long as it has not stopped. -/
theorem course_called (hserved : Served port { program, settings } outside)
    (hgoes : ∀ k < n, (called port { program, settings } outside k).1.turn ≠ .stopped) :
    Course program n (dispatches port { program, settings } outside n)
      (called port { program, settings } outside n).1 := by
  induction n with
  | zero => exact Course.start program settings
  | succ n ih =>
    rw [called_succ, dispatches_succ]
    exact ((ih fun k hk => hgoes k (hk.trans n.lt_succ_self)).callOn hserved.draws
      (hserved.heard n) (hgoes n n.lt_succ_self)).2

/-- **Every machine stops** within the duration of its program. -/
theorem exists_stopped (hserved : Served port { program, settings } outside) :
    ∃ n, (called port { program, settings } outside n).1.turn = .stopped := by
  by_contra hnever
  have hcourse := course_called (n := (program.toList.map Instruction.duration).sum + 1) hserved
    fun k _ hstopped => hnever ⟨k, hstopped⟩
  have hticks := hcourse.ticks
  have hle := hcourse.path.duration_le
  omega

/-! ## Stopped machines -/

/-- **A machine that has stopped stays as it is.** -/
theorem called_of_stopped (hstopped : (machine.called port outside n).1.turn = .stopped) {m : Nat}
    (h : n ≤ m) : machine.called port outside m = machine.called port outside n := by
  induction m, h using Nat.le_induction with
  | base => rfl
  | succ m _ ih => rw [called_succ, ih, callOn_of_stopped hstopped]

theorem dispatches_of_stopped (hstopped : (machine.called port outside n).1.turn = .stopped)
    {m : Nat} (h : n ≤ m) :
    machine.dispatches port outside m = machine.dispatches port outside n := by
  induction m, h using Nat.le_induction with
  | base => rfl
  | succ m hle ih =>
    rw [dispatches_succ, ih, called_of_stopped hstopped hle, dispatch?, hstopped]
    exact List.append_nil _

/-! ## The lifetime of a machine -/

/-- **The lifetime of a machine** is `lifetime` calls. -/
structure HasLifetime (port : Port σ ε) (machine : Machine) (outside : σ) (lifetime : Nat) :
    Prop where
  /-- So many calls give `true`, and those after them `false`. -/
  result : ∀ n, machine.result port outside n = .ok (decide (n < lifetime))
  /-- Those after them change nothing. -/
  called : ∀ n, lifetime ≤ n →
    machine.called port outside n = machine.called port outside lifetime
  /-- Those after them dispatch nothing. -/
  dispatches : ∀ n, lifetime ≤ n →
    machine.dispatches port outside n = machine.dispatches port outside lifetime
  /-- Each dispatched instruction stands at its position in the program. -/
  instruction : ∀ dispatch ∈ machine.dispatches port outside lifetime,
    machine.program[dispatch.position]? = some dispatch.instruction
  /-- The first one stands at position 0. -/
  first : machine.program ≠ #[] →
    ∃ dispatch ∈ (machine.dispatches port outside lifetime).head?, dispatch.position = 0
  /-- The positions increase, and nothing comes after `exit`. -/
  increasing : (machine.dispatches port outside lifetime).Pairwise fun earlier later =>
    earlier.position < later.position ∧ earlier.instruction ≠ .exit
  /-- Each dispatch leads to the next one. -/
  leads : (machine.dispatches port outside lifetime).IsChain fun earlier later =>
    earlier.LeadsTo later.position
  /-- The last one is `exit` or leads out of the program. -/
  ends : ∀ dispatch ∈ (machine.dispatches port outside lifetime).getLast?,
    dispatch.instruction = .exit ∨
      ∃ next, dispatch.LeadsTo next ∧ machine.program.size ≤ next
  /-- The lifetime is what the dispatched instructions take. -/
  duration : lifetime = ((machine.dispatches port outside lifetime).map
    fun dispatch => dispatch.instruction.duration).sum
  /-- It is no longer than what all instructions of the program would take. -/
  duration_le : lifetime ≤ (machine.program.toList.map Instruction.duration).sum

/-- **Every machine that is served has a lifetime,** on any program and any port. -/
theorem exists_hasLifetime (program : Array Instruction) (settings : Settings) (port : Port σ ε)
    (outside : σ) (hserved : Served port { program, settings } outside) :
    ∃ lifetime, HasLifetime port { program, settings } outside lifetime := by
  classical
  have hstops := exists_stopped hserved
  obtain ⟨lifetime, hstopped, hgoes⟩ :
      ∃ lifetime, (called port { program, settings } outside lifetime).1.turn = .stopped ∧
        ∀ k < lifetime, (called port { program, settings } outside k).1.turn ≠ .stopped :=
    ⟨Nat.find hstops, Nat.find_spec hstops, fun k hk => Nat.find_min hstops hk⟩
  have hcourse := course_called hserved hgoes
  obtain ⟨hpending, hend⟩ := hcourse.of_stopped hstopped
  have hticks := hcourse.ticks
  rw [hpending, Nat.add_zero] at hticks
  refine ⟨lifetime, ?_, fun n hn => called_of_stopped hstopped hn,
    fun n hn => dispatches_of_stopped hstopped hn, hcourse.path.instruction_eq, fun hne => ?_,
    hcourse.path.pairwise, hcourse.path.leads.1, fun dispatch hlast => ?_, hticks,
    hticks.trans_le hcourse.path.duration_le⟩
  · intro n
    rcases Nat.lt_or_ge n lifetime with hlt | hge
    · have hbefore := course_called hserved fun k hk => hgoes k (hk.trans hlt)
      rw [decide_eq_true hlt]
      exact (hbefore.callOn hserved.draws (hserved.heard n) (hgoes n hlt)).1
    · rw [decide_eq_false (Nat.not_lt.2 hge), result, called_of_stopped hstopped hge,
        callOn_of_stopped hstopped]
  · rcases hcourse.path.first with ⟨hnil, hzero⟩ | hfirst
    · rcases hend with ⟨dispatch, hlast, -⟩ | hsize
      · rw [hnil] at hlast
        cases hlast
      · rw [hzero] at hsize
        exact absurd (Array.eq_empty_of_size_eq_zero (Nat.le_zero.1 hsize)) hne
    · exact hfirst
  · rcases hend with ⟨last, hmem, hexit⟩ | hsize
    · obtain rfl := Option.mem_unique hlast hmem
      exact Or.inl hexit
    · exact Or.inr ⟨_, hcourse.path.leads.2 dispatch hlast, hsize⟩

/-- A jump that is taken skips a print, a wait takes three ticks, and `exit` the fifth. -/
theorem exists_hasLifetime_skip :
    let program : Array Instruction :=
      #[.condition ⟨1, by decide, by decide⟩ 0 1, .print, .nop (some 3), .exit, .print]
    let terminal : Terminal Unit Unit := ⟨fun _ => (.ok "", ()), fun _ _ => (.ok (), ())⟩
    Served terminal.port { program } () ∧ HasLifetime terminal.port { program } () 5 ∧
      (dispatches terminal.port { program } () 5).map Dispatch.position = [0, 2, 3] := by
  intro program terminal
  have hserved : Served terminal.port { program } () :=
    served_of_ok (fun _ => ⟨"", (), rfl⟩) (fun _ _ => ⟨(), rfl⟩) terminal.drawsDrawable_port _ ()
  obtain ⟨lifetime, h⟩ := exists_hasLifetime program {} terminal.port () hserved
  have hfour : (result terminal.port { program } () 4).toOption = some true := by decide +kernel
  have hfive : (result terminal.port { program } () 5).toOption = some false := by decide +kernel
  rw [h.result] at hfour hfive
  have hlt := of_decide_eq_true (Option.some.inj hfour)
  have hge := of_decide_eq_false (Option.some.inj hfive)
  obtain rfl : lifetime = 5 := by omega
  exact ⟨hserved, h, by decide +kernel⟩

end Machine

end Reverb
