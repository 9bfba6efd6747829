import Mathlib.Data.List.Perm.Subperm
import Reverb.Proofs.Listing
import Reverb.Proofs.Safety

/-!
# Proofs/Population — how many sounds and walls a program keeps under way

No line of a source says a distance of 0, so every wall of a compiled program stands off the origin
and within reach of a byte, and no sound gets past its own wall.  A sound is therefore home after
twice 255 ticks at the latest, and as each tick brings at most four new ones, at most `4 * 509`
sounds are there at a time (`sparse_of_reachable`), however long the program is.

`Chamber.Enclosed` is what the actions keep.  It needs the sound ids to last: a personal wall is
told from a structural one by the sign of its id, and after `2 ^ 63` sounds the signs run out.
-/

namespace Reverb

open Reverb.Action

/-! ## Actions that keep off the origin -/

/-- The wall of the action, if it comes with one, stands off the origin and within reach. -/
def Action.IsInRange (reach : Nat) : Action → Prop
  | .send _ _ distance => 1 ≤ distance ∧ distance ≤ reach
  | .place _ distance => 1 ≤ distance ∧ distance ≤ reach
  | .tick => True

namespace Instruction

/-- An instruction that can be written sends to no distance of 0. -/
theorem pos_of_emission {sum : UInt8} {heard : Nat} {instruction : Instruction}
    {directions : Directions} {intensity distance : Nat} (hwritable : instruction.IsWritable)
    (h : instruction.emission sum heard = some (directions, intensity, distance)) :
    0 < distance := by
  cases instruction with
  | send | redirect | predirect | input =>
    cases h
    exact UInt8.lt_iff_toNat_lt.1 (hwritable _ (by simp [amounts]))
  | nop | wall | print | condition | pcondition | exit => cases h

/-- **An instruction that can be written asks for walls in range.** -/
theorem isInRange_of_mem_actions {instruction : Instruction} (hwritable : instruction.IsWritable)
    (sum : UInt8) (heard : Nat) :
    ∀ action ∈ instruction.actions sum heard, action.IsInRange 255 := by
  obtain ⟨directions, distance, rfl, h⟩ | ⟨directions, intensity, distance, hemission, h⟩ |
    ⟨-, h⟩ := instruction.actions_cases sum heard
  · have hpos : 0 < distance.toNat := UInt8.lt_iff_toNat_lt.1 (hwritable _ (by simp [amounts]))
    have hbyte := distance.toNat_lt
    rw [h, List.forall_mem_map]
    exact fun direction _ => ⟨hpos, by omega⟩
  · have hpos := pos_of_emission hwritable hemission
    have hbyte := distance_lt_of_emission hemission
    rw [h, List.forall_mem_map]
    exact fun direction _ => ⟨hpos, by omega⟩
  · rw [h]
    exact List.forall_mem_nil _

end Instruction

namespace Chamber

/-! ## Ids that last -/

/-- No action gives a sound id back. -/
theorem le_nextSoundId_act (chamber : Chamber) (action : Action) :
    chamber.nextSoundId ≤ (chamber.act action).nextSoundId := by
  cases action with
  | send direction intensity distance =>
    rw [act, send]
    split
    · exact Nat.le_succ _
    · exact Nat.le_refl _
  | place direction distance => exact Nat.le_refl _
  | tick => exact Nat.le_refl _

theorem le_nextSoundId_run (chamber : Chamber) (actions : List Action) :
    chamber.nextSoundId ≤ (chamber.run actions).nextSoundId := by
  induction actions generalizing chamber with
  | nil => exact Nat.le_refl _
  | cons action rest ih => exact Nat.le_trans (chamber.le_nextSoundId_act action) (ih _)

/-- An action keeps a chamber orderly if the ids that it hands out are signed words. -/
theorem Orderly.act_of_ids {chamber : Chamber} (h : chamber.Orderly) (action : Action)
    (hids : (chamber.act action).nextSoundId ≤ 2 ^ 63) : (chamber.act action).Orderly := by
  cases action with
  | send direction intensity distance =>
    by_cases hrange : 0 < intensity ∧ intensity < 256
    · rw [Chamber.act, send_of_in_range chamber direction distance hrange] at hids
      exact h.send direction intensity distance hids
    · rwa [Chamber.act, send_of_out_of_range chamber direction distance hrange]
  | place direction distance => exact h.placeWall direction distance
  | tick => exact h.tick

/-! ## Enclosed chambers -/

/-- **An enclosed chamber:** it is orderly, its walls stand in range, and no sound is beyond. -/
structure Enclosed (chamber : Chamber) (reach : Nat) : Prop where
  orderly : chamber.Orderly
  wall_range : ∀ wall ∈ chamber.walls, 1 ≤ wall.distance ∧ wall.distance ≤ reach
  sound_le : ∀ sound ∈ chamber.sounds, sound.distance ≤ reach

namespace Enclosed

variable {chamber : Chamber} {reach : Nat}

theorem empty (reach : Nat) : ({} : Chamber).Enclosed reach :=
  ⟨orderly_empty, by simp, by simp⟩

/-- In a tick a sound on its way back comes nearer, and one on its way out has its wall before
it. -/
theorem tick (h : chamber.Enclosed reach) : chamber.tick.Enclosed reach where
  orderly := h.orderly.tick
  wall_range wall hw := h.wall_range wall (of_mem_walls_tick hw).1
  sound_le sound hs := by
    rcases h.orderly.tick.velocity sound hs with hout | hback
    · obtain ⟨wall, hw, -, hdistance⟩ := h.orderly.tick.kept sound hs hout
      have hrange := h.wall_range wall (of_mem_walls_tick hw).1
      omega
    · obtain ⟨⟨before, hbefore, rfl⟩, -⟩ := mem_sounds_tick.1 hs
      have hle := h.sound_le before hbefore
      have hmoved : (before.next chamber.walls).distance ≤ before.distance := by
        rw [Sound.velocity_next] at hback
        by_cases hfresh : before.fresh = true
        · rw [Sound.next_of_fresh hfresh]
        · rw [Sound.next, if_neg hfresh]
          dsimp only
          rw [hback, Sound.moved]
          omega
      exact Nat.le_trans hmoved hle

/-- **An action in range keeps a chamber enclosed** while the sound ids last. -/
theorem act (h : chamber.Enclosed reach) {action : Action} (hrange : action.IsInRange reach)
    (hids : (chamber.act action).nextSoundId ≤ 2 ^ 63) : (chamber.act action).Enclosed reach := by
  have horderly := h.orderly.act_of_ids action hids
  cases action with
  | send direction intensity distance =>
    refine ⟨horderly, ?_, ?_⟩
    · rw [Chamber.act, Chamber.send]
      split
      · exact List.forall_mem_append.2 ⟨h.wall_range, List.forall_mem_singleton.2 hrange⟩
      · exact h.wall_range
    · rw [Chamber.act, Chamber.send]
      split
      · exact List.forall_mem_append.2
          ⟨h.sound_le, List.forall_mem_singleton.2 (Nat.le_trans hrange.1 hrange.2)⟩
      · exact h.sound_le
  | place direction distance =>
    exact ⟨horderly,
      List.forall_mem_append.2 ⟨h.wall_range, List.forall_mem_singleton.2 hrange⟩, h.sound_le⟩
  | tick => exact h.tick

theorem run (h : chamber.Enclosed reach) {actions : List Action}
    (hrange : ∀ action ∈ actions, action.IsInRange reach)
    (hids : (chamber.run actions).nextSoundId ≤ 2 ^ 63) : (chamber.run actions).Enclosed reach := by
  induction actions generalizing chamber with
  | nil => exact h
  | cons action rest ih =>
    obtain ⟨haction, hrest⟩ := List.forall_mem_cons.1 hrange
    exact ih (h.act haction (Nat.le_trans (le_nextSoundId_run _ rest) hids)) hrest hids

/-- **There are no more personal walls than sounds:** each belongs to one. -/
theorem length_personal_le (h : chamber.Enclosed reach) :
    (chamber.walls.filter fun wall => 0 < wall.id).length ≤ chamber.sounds.length := by
  let personal := chamber.walls.filter fun wall => 0 < wall.id
  have hnodup : (personal.map Wall.id).Nodup :=
    h.orderly.wall_ids_nodup.sublist (List.filter_sublist.map Wall.id)
  have howned : personal.map Wall.id ⊆ chamber.sounds.map fun sound => (sound.id : Int) := by
    intro id hid
    obtain ⟨wall, hwall, rfl⟩ := List.mem_map.1 hid
    obtain ⟨hmem, hpos⟩ := List.mem_filter.1 hwall
    obtain ⟨sound, hs, hsound, -⟩ :=
      h.orderly.owned wall hmem (Int.le_of_lt (of_decide_eq_true hpos))
    exact List.mem_map.2 ⟨sound, hs, hsound⟩
  have hle := (List.subperm_of_subset hnodup howned).length_le
  rwa [List.length_map, List.length_map] at hle

end Enclosed

/-- **A sparse chamber:** everything is within reach of a byte, and there is not much of it. -/
structure Sparse (chamber : Chamber) : Prop where
  /-- No sound is home, and none is beyond the reach of a byte. -/
  sound_range : ∀ sound ∈ chamber.sounds, 1 ≤ sound.distance ∧ sound.distance ≤ 255
  /-- No wall stands at the origin, and none is beyond the reach of a byte. -/
  wall_range : ∀ wall ∈ chamber.walls, 1 ≤ wall.distance ∧ wall.distance ≤ 255
  /-- The sounds come from the last 509 ticks, four from each at most. -/
  length_sounds_le : chamber.sounds.length ≤ 4 * 509
  /-- There are no more personal walls than sounds. -/
  length_personal_le :
    (chamber.walls.filter fun wall => 0 < wall.id).length ≤ chamber.sounds.length

end Chamber

namespace Machine

variable {σ ε : Type} {program : Array Instruction} {settings : Settings} {machine : Machine}

/-- A call asks for walls in range if all instructions of the program can be written. -/
theorem isInRange_of_mem_actions (hwritable : ∀ instruction ∈ machine.program,
    instruction.IsWritable) (terminal : Terminal σ ε) (outside : σ) :
    ∀ action ∈ machine.actions terminal outside, action.IsInRange 255 := by
  rw [actions]
  split
  · exact List.forall_mem_nil _
  · exact List.forall_mem_singleton.2 trivial
  · next instruction hturn =>
    have hmem := hwritable instruction (mem_program_of_dispatch hturn)
    split
    · exact List.forall_mem_append.2 ⟨Instruction.isInRange_of_mem_actions hmem _ _,
        List.forall_mem_singleton.2 trivial⟩
    · exact List.forall_mem_nil _

/-- **Calls keep the chamber of a compiled program enclosed** while the sound ids last. -/
theorem Reachable.enclosed (hwritable : ∀ instruction ∈ program, instruction.IsWritable)
    (h : Reachable program settings machine) (hids : machine.chamber.nextSoundId ≤ 2 ^ 63) :
    machine.chamber.Enclosed 255 := by
  induction h with
  | start => exact Chamber.Enclosed.empty 255
  | call port outside hbefore ih =>
    rw [chamber_callOn] at hids ⊢
    refine (ih (Nat.le_trans (Chamber.le_nextSoundId_run _ _) hids)).run ?_ hids
    refine isInRange_of_mem_actions (fun instruction hmem => hwritable instruction ?_) _ outside
    rwa [hbefore.inBounds.program_eq] at hmem

/-- **A compiled program never has much under way,** however long it is, whatever the ports answer,
and whether calls fail or not, as long as the ids of its sounds are signed words.  A program of
fewer than `2 ^ 61` instructions cannot use up these ids (`InBounds.nextSoundId_le`), and no memory
holds a longer one. -/
theorem sparse_of_reachable {source : List String} {limits : Limits}
    (hcompile : compile limits source = .ok program) (h : Reachable program settings machine)
    (hids : machine.chamber.nextSoundId ≤ 2 ^ 63) : machine.chamber.Sparse := by
  have henclosed := h.enclosed (isWritable_of_compile hcompile) hids
  obtain ⟨time, since, hpaced⟩ := h.inBounds.paced
  exact {
    sound_range := fun sound hs =>
      ⟨henclosed.orderly.distance_pos sound hs, henclosed.sound_le sound hs⟩
    wall_range := henclosed.wall_range
    length_sounds_le := hpaced.length_sounds_le henclosed.sound_le
    length_personal_le := henclosed.length_personal_le }

/-- Two rounds of four sounds are under way, and a print that failed is tried again. -/
theorem sparse_of_reachable_retry :
    let source := ["for 2 1", "send 15 255 1", "print"]
    let program : Array Instruction := #[.send ⟨15, by decide, by decide⟩ 255 1,
      .send ⟨15, by decide, by decide⟩ 255 1, .print]
    let full : Port Unit Unit := Terminal.port ⟨fun _ => (.ok "", ()), fun _ _ => (.error (), ())⟩
    let empty : Port Unit Unit := Terminal.port ⟨fun _ => (.ok "", ()), fun _ _ => (.ok (), ())⟩
    let sent := (({ program } : Machine).callOn full ()).2.1
    let again := (sent.callOn full ()).2.1
    let failed := (again.callOn full ()).2.1
    let printed := (failed.callOn empty ()).2.1
    compile {} source = .ok program ∧ Reachable program {} printed ∧
      failed.pointer = again.pointer ∧
      printed.chamber.nextSoundId ≤ 2 ^ 63 ∧ printed.chamber.sounds.length = 8 ∧
      printed.chamber.Sparse := by
  intro source program full empty sent again failed printed
  have hcompile : compile {} source = .ok program := by decide +kernel
  have hsent : Reachable program {} sent := Reachable.start.call full ()
  have hagain : Reachable program {} again := hsent.call full ()
  have hfailed : Reachable program {} failed := hagain.call full ()
  have hprinted : Reachable program {} printed := hfailed.call empty ()
  have hids : printed.chamber.nextSoundId ≤ 2 ^ 63 := by decide +kernel
  exact ⟨hcompile, hprinted, by decide +kernel, hids, by decide +kernel,
    sparse_of_reachable hcompile hprinted hids⟩

end Machine

end Reverb
