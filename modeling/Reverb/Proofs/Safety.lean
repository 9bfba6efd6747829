import Reverb.Proofs.Calls
import Reverb.Proofs.Pace

/-!
# Proofs/Safety — a machine stays within its bounds

A machine never goes back, and an instruction acts in at most four directions, each at most once.
So the length of the program bounds its counters, and its chamber is paced (`Proofs/Pace`) with
walls no further than a byte says.  `Machine.InBounds` holds after any calls
(`Reachable.inBounds`), and from it follows that nothing a step computes leaves its range
(`isSafeStep_of_reachable`).
-/

namespace Reverb

open Reverb.Action

/-! ## What an instruction asks for -/

theorem Directions.nodup_toList (directions : Directions) : directions.toList.Nodup :=
  List.nodup_range.filter _

namespace Instruction

/-- A jump skips at most 255 instructions. -/
theorem jump_lt (sum : UInt8) (instruction : Instruction) : instruction.jump sum < 256 := by
  rw [jump.eq_def]
  split
  · split
    · exact UInt8.toNat_lt _
    · decide
  · split
    · exact UInt8.toNat_lt _
    · decide
  · decide

theorem distance_lt_of_emission {sum : UInt8} {heard : Nat} {instruction : Instruction}
    {directions : Directions} {intensity distance : Nat}
    (h : instruction.emission sum heard = some (directions, intensity, distance)) :
    distance < 256 := by
  cases instruction with
  | send | redirect | predirect | input =>
    cases h
    exact UInt8.toNat_lt _
  | nop | wall | print | condition | pcondition | exit => cases h

/-- **An instruction asks for a round** within the reach of a byte. -/
theorem isRound_actions (sum : UInt8) (heard : Nat) (instruction : Instruction) :
    IsRound 255 (instruction.actions sum heard) := by
  obtain ⟨directions, distance, rfl, h⟩ | ⟨directions, intensity, distance, hemission, h⟩ |
    ⟨-, h⟩ := instruction.actions_cases sum heard
  · have hbyte := distance.toNat_lt
    rw [h]
    refine ⟨by simp, ?_, by simp, fun direction cell hmem => ?_⟩
    · rw [List.filterMap_map]
      exact (List.filterMap_eq_nil_iff.2 fun direction _ => rfl) ▸ List.nodup_nil
    · obtain ⟨d, hd, hplace⟩ := List.mem_map.1 hmem
      cases hplace
      exact ⟨(Directions.mem_toList.1 hd).1, by omega⟩
  · have hbyte := distance_lt_of_emission hemission
    rw [h]
    refine ⟨by simp, ?_, fun direction i cell hmem => ?_, by simp⟩
    · rw [List.filterMap_map]
      exact List.filterMap_some.symm ▸ directions.nodup_toList
    · obtain ⟨d, hd, hsend⟩ := List.mem_map.1 hmem
      cases hsend
      exact ⟨(Directions.mem_toList.1 hd).1, by omega⟩
  · rw [h]
    exact isRound_nil 255

theorem length_actions_le (sum : UInt8) (heard : Nat) (instruction : Instruction) :
    (instruction.actions sum heard).length ≤ 4 := by
  obtain ⟨directions, _, -, h⟩ | ⟨directions, _, _, -, h⟩ | ⟨-, h⟩ :=
    instruction.actions_cases sum heard
  · rw [h, List.length_map]
    exact directions.length_toList_le
  · rw [h, List.length_map]
    exact directions.length_toList_le
  · rw [h]
    exact Nat.zero_le 4

end Instruction

namespace Chamber

/-- An action takes at most one id of a structural wall. -/
theorem le_nextWallId_run (chamber : Chamber) (actions : List Action) :
    chamber.nextWallId - actions.length ≤ (chamber.run actions).nextWallId := by
  induction actions generalizing chamber with
  | nil => simp
  | cons action rest ih =>
    have hact : chamber.nextWallId - 1 ≤ (chamber.act action).nextWallId := by
      cases action with
      | send direction intensity distance =>
        rw [act, send]
        split <;> exact Int.sub_le_self _ (by decide)
      | place direction distance => exact Int.le_refl _
      | tick => exact Int.sub_le_self _ (by decide)
    have hrest := ih (chamber.act action)
    rw [run_cons, List.length_cons]
    omega

end Chamber

namespace Machine

variable {σ ε : Type} {program : Array Instruction} {settings : Settings} {machine : Machine}

/-! ## Bounds that calls keep -/

/-- **A machine within its bounds:** the counters keep to the part of the program that is behind the
pointer, and the chamber is paced. -/
structure InBounds (machine : Machine) (program : Array Instruction) : Prop where
  program_eq : machine.program = program
  pointer_le : machine.pointer ≤ program.size + 255
  nextSoundId_le : machine.chamber.nextSoundId ≤ 1 + 4 * min machine.pointer program.size
  le_nextWallId : -1 - 4 * (min machine.pointer program.size : Nat) ≤ machine.chamber.nextWallId
  paced : ∃ time since, machine.chamber.Paced 255 time [] since

theorem inBounds_start (program : Array Instruction) (settings : Settings) :
    InBounds { program, settings } program where
  program_eq := rfl
  pointer_le := Nat.zero_le _
  nextSoundId_le := Nat.le_add_right _ _
  le_nextWallId := by simp
  paced := ⟨0, id, Chamber.paced_empty 255⟩

/-- A round and its tick keep a chamber paced. -/
theorem paced_round {chamber : Chamber} {round : List Action}
    (h : ∃ time since, chamber.Paced 255 time [] since) (hround : IsRound 255 round) :
    ∃ time since, (chamber.run (round ++ [.tick])).Paced 255 time [] since := by
  obtain ⟨time, since, hpaced⟩ := h
  obtain ⟨since', hafter⟩ := hpaced.run_part hround round (List.prefix_refl round)
  rw [Chamber.run_append]
  exact ⟨time + 1, since', hafter.tick (by decide)⟩

namespace InBounds

variable {instruction : Instruction} {terminal : Terminal σ ε} {outside : σ}

theorem waited (h : machine.InBounds program) : machine.waited.InBounds program where
  program_eq := h.program_eq
  pointer_le := h.pointer_le
  nextSoundId_le := h.nextSoundId_le
  le_nextWallId := h.le_nextWallId
  paced := paced_round h.paced (isRound_nil 255)

theorem pointer_lt (h : machine.InBounds program) (hturn : machine.turn = .dispatch instruction) :
    machine.pointer < program.size := by
  obtain ⟨hlt, -⟩ := Array.getElem?_eq_some_iff.1 (turn_eq_dispatch_iff.1 hturn).2.2
  rwa [h.program_eq] at hlt

theorem carriedOut (h : machine.InBounds program) (hturn : machine.turn = .dispatch instruction)
    (heard : Nat) : (machine.carriedOut instruction heard).InBounds program := by
  have hlt := h.pointer_lt hturn
  have hids := h.nextSoundId_le
  have hwalls := h.le_nextWallId
  have hfour := instruction.length_actions_le machine.chamber.sum heard
  refine ⟨h.program_eq, ?_, ?_, ?_, ?_⟩
  · have hjump := instruction.jump_lt machine.chamber.sum
    simp only [Machine.carriedOut, perform]
    omega
  · have hsends := instruction.sendCount_actions_le machine.chamber.sum heard
    have hsound := machine.chamber.nextSoundId_run_le
      (instruction.actions machine.chamber.sum heard)
    simp only [Machine.carriedOut, perform, Chamber.nextSoundId_tick, Chamber.perform_eq_run]
    omega
  · have hwall := machine.chamber.le_nextWallId_run
      (instruction.actions machine.chamber.sum heard)
    simp only [Machine.carriedOut, perform, Chamber.nextWallId_tick, Chamber.perform_eq_run]
    omega
  · have hround := paced_round h.paced (instruction.isRound_actions machine.chamber.sum heard)
    rwa [Chamber.run_append, ← Chamber.perform_eq_run] at hround

/-- The bounds do not depend on the note. -/
theorem noted (h : machine.InBounds program) (last : Option Instruction) :
    InBounds { machine with last } program :=
  ⟨h.program_eq, h.pointer_le, h.nextSoundId_le, h.le_nextWallId, h.paced⟩

/-- The bounds do not depend on the film. -/
theorem filmed (h : machine.InBounds program) (film : Film) :
    InBounds { machine with film } program :=
  ⟨h.program_eq, h.pointer_le, h.nextSoundId_le, h.le_nextWallId, h.paced⟩

/-- **A call keeps a machine within its bounds.** -/
theorem callOn (h : machine.InBounds program) (port : Port σ ε) (outside : σ) :
    (machine.callOn port outside).2.1.InBounds program := by
  obtain ⟨-, last, hnext⟩ | ⟨-, film, hnext⟩ | ⟨instruction, heard, hturn, -, film, hnext⟩ :=
    next_cases port machine outside
  · rw [hnext]
    exact h.noted last
  · rw [hnext]
    exact h.waited.filmed film
  · rw [hnext]
    exact (h.carriedOut hturn heard).filmed film

/-! ## What follows for one step -/

/-- Everything in the chamber has a row. -/
theorem isDrawable (h : machine.InBounds program) : machine.frame.isDrawable = true := by
  obtain ⟨time, since, hpaced⟩ := h.paced
  simp only [Frame.isDrawable, Machine.frame, Bool.and_eq_true, List.all_eq_true,
    decide_eq_true_eq]
  exact ⟨hpaced.sound_direction, hpaced.wall_direction⟩

/-- **A frame can always be drawn.** -/
theorem result_ne_undrawable (h : machine.InBounds program) {port : Port σ ε}
    (hdraws : port.DrawsDrawable) (outside : σ) :
    (machine.callOn port outside).1 ≠ .error .undrawable := by
  have hrecorded {recorded : Machine} (hin : recorded.InBounds program) (world : σ) :
      (recorded.recordOn port world).1 ≠ .error .undrawable := by
    obtain ⟨film, after, hrecord⟩ := recordOn_of_isDrawable hdraws hin.isDrawable world
    rw [hrecord]
    exact fun h => by cases h
  cases hturn : machine.turn with
  | stopped =>
    rw [callOn_of_stopped hturn]
    exact fun h => by cases h
  | waiting =>
    rw [callOn_of_waiting hturn]
    exact hrecorded h.waited outside
  | dispatch instruction =>
    rcases hheard : machine.converse port.toTerminal instruction outside with ⟨error | heard, world⟩
    · rw [callOn_of_unheard hturn hheard]
      exact fun h => by cases h
    · rw [callOn_of_heard hturn hheard]
      exact hrecorded (h.carriedOut hturn heard) world

/-- **At any moment of a step** the chamber is paced. -/
theorem paced_part (h : machine.InBounds program) {part : List Action}
    (hpart : part <+: machine.actions terminal outside) :
    ∃ time taken since, (machine.chamber.run part).Paced 255 time taken since := by
  have hround {round : List Action} (hin : IsRound 255 round) (hpart : part <+: round ++ [.tick]) :
      ∃ time taken since, (machine.chamber.run part).Paced 255 time taken since := by
    rcases List.prefix_concat_iff.1 hpart with rfl | hbefore
    · obtain ⟨time, since, hpaced⟩ := paced_round h.paced hin
      exact ⟨time, [], since, hpaced⟩
    · obtain ⟨time, since, hpaced⟩ := h.paced
      obtain ⟨since', hafter⟩ := hpaced.run_part hin part hbefore
      exact ⟨time, _, since', hafter⟩
  rw [actions] at hpart
  split at hpart
  · exact hround (isRound_nil 255) (hpart.trans (List.nil_prefix))
  · exact hround (isRound_nil 255) hpart
  · split at hpart
    · exact hround (Instruction.isRound_actions _ _ _) hpart
    · exact hround (isRound_nil 255) (hpart.trans (List.nil_prefix))

end InBounds

theorem Reachable.inBounds (h : Reachable program settings machine) : machine.InBounds program := by
  induction h with
  | start => exact inBounds_start program settings
  | call port outside _ ih => exact ih.callOn port outside

/-! ## Safe steps -/

/-- A step asks for at most four things and its tick. -/
theorem length_actions_le (terminal : Terminal σ ε) (machine : Machine) (outside : σ) :
    (machine.actions terminal outside).length ≤ 5 := by
  rw [actions]
  split
  · exact Nat.zero_le 5
  · exact Nat.le_add_left 1 4
  · split
    · rw [List.length_append]
      exact Nat.add_le_add_right (Instruction.length_actions_le _ _ _) 1
    · exact Nat.zero_le 5

/-- The machine runs unless it has stopped or has come to the end without a wait. -/
theorem isRunning_iff : machine.isRunning = true ↔
    machine.exited = false ∧ (machine.pointer < machine.program.size ∨ 0 < machine.pending) := by
  rw [isRunning, bne_iff_ne, turn]
  split
  · next hexited => simp [hexited]
  · split
    · next hexited hpending => simp [hexited, hpending]
    · next hexited hpending =>
      split
      · next hsome =>
        obtain ⟨hlt, -⟩ := Array.getElem?_eq_some_iff.1 hsome
        simp [hexited, hlt]
      · next hnone =>
        have hend := Array.getElem?_eq_none_iff.1 hnone
        simp only [ne_eq, not_true_eq_false, false_iff]
        omega

/-- **A safe step:** everything that it computes is in its range. -/
structure IsSafeStep (terminal : Terminal σ ε) (machine : Machine) (outside : σ) : Prop where
  /-- The machine runs as long as there is an instruction or a wait. -/
  running : machine.isRunning = true ↔
    machine.exited = false ∧ (machine.pointer < machine.program.size ∨ 0 < machine.pending)
  /-- The instruction that is carried out stands at the pointer. -/
  index : ∀ instruction, machine.turn = .dispatch instruction →
    ∃ h : machine.pointer < machine.program.size, machine.program[machine.pointer] = instruction
  /-- Something, perhaps nothing, is missing from the sound sum to 256. -/
  complement : machine.chamber.sum.toNat ≤ 256
  /-- The pointer stays a word. -/
  pointer : (machine.step terminal outside).2.1.pointer < 2 ^ 64
  /-- What the step does to the chamber is its actions, one after the other. -/
  chamber : (machine.step terminal outside).2.1.chamber
    = machine.chamber.run (machine.actions terminal outside)
  /-- At every moment of them the next ids are signed words. -/
  ids : ∀ part, part <+: machine.actions terminal outside →
    (machine.chamber.run part).nextSoundId < 2 ^ 63 ∧
      -2 ^ 63 ≤ (machine.chamber.run part).nextWallId
  /-- At every moment of them every sound and every wall is in one of four directions. -/
  directions : ∀ part, part <+: machine.actions terminal outside →
    (∀ sound ∈ (machine.chamber.run part).sounds, sound.direction ≤ 3) ∧
      ∀ wall ∈ (machine.chamber.run part).walls, wall.direction ≤ 3
  /-- A tick absorbs at most 1020 sounds, so it adds up to 260100 at most. -/
  absorbed : ∀ part, part ++ [.tick] <+: machine.actions terminal outside →
    (machine.chamber.run part).homecoming.length ≤ 1020 ∧
      Chamber.loudness (machine.chamber.run part).homecoming ≤ 260100
  /-- The frame can be drawn. -/
  drawn : (machine.step terminal outside).1 ≠ .error .undrawable
  /-- It has a cell for every wall and every sound. -/
  cells : (∀ wall ∈ (machine.step terminal outside).2.1.frame.walls,
      wall.distance < (machine.step terminal outside).2.1.frame.width) ∧
    ∀ sound ∈ (machine.step terminal outside).2.1.frame.sounds,
      sound.distance < (machine.step terminal outside).2.1.frame.width

/-- A machine within its bounds takes a safe step. -/
theorem InBounds.isSafeStep (h : machine.InBounds program) (hsize : program.size < 2 ^ 60)
    (terminal : Terminal σ ε) (outside : σ) : IsSafeStep terminal machine outside where
  running := isRunning_iff
  index instruction hturn := Array.getElem?_eq_some_iff.1 (turn_eq_dispatch_iff.1 hturn).2.2
  complement := Nat.le_of_lt machine.chamber.sum.toNat_lt
  pointer := by
    have hnext := (h.callOn terminal.port outside).pointer_le
    rw [callOn_port] at hnext
    omega
  chamber := by
    rw [← callOn_port]
    exact chamber_callOn terminal.port machine outside
  ids part hpart := by
    have hlength := Nat.le_trans hpart.length_le (length_actions_le terminal machine outside)
    have hsends : sendCount part ≤ part.length := List.countP_le_length
    have hsound := machine.chamber.nextSoundId_run_le part
    have hwall := machine.chamber.le_nextWallId_run part
    have hids := h.nextSoundId_le
    have hwalls := h.le_nextWallId
    omega
  directions part hpart := by
    obtain ⟨time, taken, since, hpaced⟩ := h.paced_part hpart
    exact ⟨fun sound hs => Nat.le_of_lt_succ (hpaced.sound_direction sound hs),
      fun wall hw => Nat.le_of_lt_succ (hpaced.wall_direction wall hw)⟩
  absorbed part hpart := by
    obtain ⟨time, taken, since, hpaced⟩ :=
      h.paced_part ((List.prefix_append part [.tick]).trans hpart)
    have hlength := hpaced.length_homecoming_le (by decide)
    have hloud := Chamber.loudness_le (machine.chamber.run part).homecoming
    omega
  drawn := by
    rw [← callOn_port]
    exact h.result_ne_undrawable terminal.drawsDrawable_port outside
  cells := ⟨fun _ => Frame.wall_lt_width, fun _ => Frame.sound_lt_width⟩

/-- **Every step is safe,** whatever calls went before it, on whatever ports they were made, and
whether they failed or not. -/
theorem isSafeStep_of_reachable (hsize : program.size < 2 ^ 60)
    (h : Reachable program settings machine) {σ ε : Type} (terminal : Terminal σ ε) (outside : σ) :
    IsSafeStep terminal machine outside :=
  h.inBounds.isSafeStep hsize terminal outside

/-- A print fails and is tried again while four sounds come home. -/
theorem isSafeStep_of_reachable_retry :
    let program : Array Instruction := #[.send ⟨15, by decide, by decide⟩ 1 255, .print]
    let full : Terminal Unit Unit := ⟨fun _ => (.ok "", ()), fun _ _ => (.error (), ())⟩
    let empty : Terminal Unit Unit := ⟨fun _ => (.ok "", ()), fun _ _ => (.ok (), ())⟩
    let failed := ((({ program } : Machine).callOn full.port ()).2.1.callOn full.port ()).2.1
    program.size < 2 ^ 60 ∧ Reachable program {} failed ∧ failed.last = some .print ∧
      Chamber.loudness (failed.chamber.run []).homecoming = 1020 ∧ IsSafeStep empty failed () := by
  intro program full empty failed
  have hreachable : Reachable program {} failed := (Reachable.start.call full.port ()).call _ ()
  exact ⟨by decide, hreachable, by decide +kernel, by decide +kernel,
    isSafeStep_of_reachable (by decide) hreachable empty ()⟩

end Machine

end Reverb
