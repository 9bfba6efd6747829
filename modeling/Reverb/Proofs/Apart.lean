import Mathlib.Algebra.BigOperators.Group.Finset.Basic
import Mathlib.Algebra.BigOperators.ModEq
import Reverb.Proofs.Orderly

/-!
# Proofs/Apart — the directions keep apart

All directions share one list of sounds and one list of walls, and a tick takes personal walls away
by their ids, without a look at their directions.  Still nothing crosses over.  A sound meets the
walls of its own direction only (`Sound.next_filter`, `filter_advanceAll`), and in an orderly
chamber the personal wall of an absorbed sound stands in the direction of that sound
(`IsPart.isOrphanOf_eq`).  So each direction lives on as it would alone (`IsPart.tick`,
`IsPart.ticks`), and a tick brings home what it would bring home in each direction alone
(`directions_apart`).
-/

namespace Reverb

open Reverb.Action

/-- The wall stands in this direction. -/
def Wall.liesIn (direction : Nat) (wall : Wall) : Bool := wall.direction == direction

/-- The sound moves in this direction. -/
def Sound.liesIn (direction : Nat) (sound : Sound) : Bool := sound.direction == direction

/-! ## Strikes in one direction -/

namespace Wall

variable {hit : Wall → Bool} {direction : Nat}

/-- The first wall that `hit` picks is the first one in the direction where it picks. -/
theorem filter_strikeFirst (h : ∀ wall, hit wall = true → wall.liesIn direction = true)
    (walls : List Wall) : (strikeFirst hit walls).filter (liesIn direction)
      = strikeFirst hit (walls.filter (liesIn direction)) := by
  induction walls with
  | nil => rfl
  | cons wall rest ih =>
    by_cases hhit : hit wall = true
    · have hstruck : liesIn direction { wall with struck := true } = true := h wall hhit
      rw [strikeFirst, if_pos hhit, List.filter_cons_of_pos hstruck,
        List.filter_cons_of_pos (h wall hhit), strikeFirst, if_pos hhit]
    · rw [strikeFirst, if_neg hhit]
      by_cases hin : wall.liesIn direction = true
      · rw [List.filter_cons_of_pos hin, List.filter_cons_of_pos hin, ih, strikeFirst, if_neg hhit]
      · rw [List.filter_cons_of_neg hin, List.filter_cons_of_neg hin, ih]

/-- In the directions where `hit` picks no wall nothing is struck. -/
theorem filter_strikeFirst_of_not (h : ∀ wall, hit wall = true → wall.liesIn direction = false)
    (walls : List Wall) :
    (strikeFirst hit walls).filter (liesIn direction) = walls.filter (liesIn direction) := by
  induction walls with
  | nil => rfl
  | cons wall rest ih =>
    by_cases hhit : hit wall = true
    · have hout : ¬wall.liesIn direction = true := by simp [h wall hhit]
      have hstruck : ¬liesIn direction { wall with struck := true } = true := hout
      rw [strikeFirst, if_pos hhit, List.filter_cons_of_neg hstruck, List.filter_cons_of_neg hout]
    · rw [strikeFirst, if_neg hhit, List.filter_cons, List.filter_cons, ih]

end Wall

namespace Sound

variable {sound : Sound} {direction : Nat}

theorem direction_of_meets {wall : Wall} (h : sound.meets wall = true) :
    wall.direction = sound.direction := by
  simp only [meets, Bool.and_eq_true, beq_iff_eq] at h
  exact h.1.1

/-- A sound turns at walls of its own direction. -/
theorem turns_filter (h : sound.direction = direction) (walls : List Wall) :
    sound.turns (walls.filter (Wall.liesIn direction)) = sound.turns walls := by
  have hany : (walls.filter (Wall.liesIn direction)).any sound.meets = walls.any sound.meets := by
    rw [List.any_filter]
    refine congrArg walls.any (funext fun wall => ?_)
    by_cases hmeets : sound.meets wall = true
    · simp [Wall.liesIn, direction_of_meets hmeets, h]
    · simp [hmeets]
  rw [turns, turns, hany]

/-- **A sound moves as it would among the walls of its own direction.** -/
theorem next_filter (h : sound.direction = direction) (walls : List Wall) :
    sound.next (walls.filter (Wall.liesIn direction)) = sound.next walls := by
  rw [next, next, turns_filter h]

/-- Among the walls of its own direction a sound strikes the wall that it strikes. -/
theorem filter_strike (h : sound.direction = direction) (walls : List Wall) :
    (sound.strike walls).filter (Wall.liesIn direction)
      = sound.strike (walls.filter (Wall.liesIn direction)) := by
  rw [strike, strike, turns_filter h]
  split
  · exact Wall.filter_strikeFirst (fun wall hmeets => by
      simp [Wall.liesIn, direction_of_meets hmeets, h]) walls
  · rfl

/-- In the other directions a sound strikes nothing. -/
theorem filter_strike_of_ne (h : sound.direction ≠ direction) (walls : List Wall) :
    (sound.strike walls).filter (Wall.liesIn direction)
      = walls.filter (Wall.liesIn direction) := by
  rw [strike]
  split
  · exact Wall.filter_strikeFirst_of_not (fun wall hmeets => by
      simp [Wall.liesIn, direction_of_meets hmeets, h]) walls
  · rfl

end Sound

namespace Chamber

/-- **The walls of one direction are marked by its own sounds.** -/
theorem filter_advanceAll (direction : Nat) (sounds : List Sound) (walls : List Wall) :
    (advanceAll sounds walls).2.filter (Wall.liesIn direction)
      = (advanceAll (sounds.filter (Sound.liesIn direction))
          (walls.filter (Wall.liesIn direction))).2 := by
  induction sounds generalizing walls with
  | nil => rfl
  | cons sound rest ih =>
    refine (ih (sound.strike walls)).trans ?_
    by_cases h : sound.direction = direction
    · rw [List.filter_cons_of_pos (by simp [Sound.liesIn, h]), Sound.filter_strike h]
      rfl
    · rw [List.filter_cons_of_neg (by simp [Sound.liesIn, h]), Sound.filter_strike_of_ne h]

/-- A wall that the steps of sounds leave was there before, but for its mark. -/
theorem exists_of_mem_advanceAll {sounds : List Sound} {walls : List Wall} {wall : Wall}
    (h : wall ∈ (advanceAll sounds walls).2) :
    ∃ old ∈ walls, old.id = wall.id ∧ old.direction = wall.direction := by
  have hmap := List.mem_map_of_mem (f := Wall.unmarked) h
  rw [map_unmarked_advanceAll] at hmap
  obtain ⟨old, hold, heq⟩ := List.mem_map.1 hmap
  simp only [Wall.unmarked, Wall.mk.injEq] at heq
  exact ⟨old, hold, heq.1, heq.2.1⟩

/-! ## The part of a chamber in one direction -/

/-- **The chamber with one direction left:** its sounds and walls, in their order. -/
def inDirection (chamber : Chamber) (direction : Nat) : Chamber :=
  { chamber with
    sounds := chamber.sounds.filter (Sound.liesIn direction)
    walls := chamber.walls.filter (Wall.liesIn direction) }

/-- The directions in which there are sounds or walls. -/
def occurring (chamber : Chamber) : Finset Nat :=
  (chamber.sounds.map Sound.direction ++ chamber.walls.map Wall.direction).toFinset

/-- A chamber holds the sounds and walls that another one has in a direction. -/
structure IsPart (direction : Nat) (part whole : Chamber) : Prop where
  sounds_eq : part.sounds = whole.sounds.filter (Sound.liesIn direction)
  walls_eq : part.walls = whole.walls.filter (Wall.liesIn direction)

theorem isPart_inDirection (chamber : Chamber) (direction : Nat) :
    IsPart direction (chamber.inDirection direction) chamber :=
  ⟨rfl, rfl⟩

namespace IsPart

variable {direction : Nat} {part whole : Chamber}

/-- The sounds of a part move as they do in the whole. -/
theorem map_next (h : IsPart direction part whole) :
    (part.sounds.map fun sound => sound.next part.walls)
      = (whole.sounds.map fun sound => sound.next whole.walls).filter
          (Sound.liesIn direction) := by
  rw [h.sounds_eq, h.walls_eq, List.filter_map]
  have hlies : Sound.liesIn direction ∘ (fun sound => sound.next whole.walls)
      = Sound.liesIn direction := by
    funext sound
    rw [Function.comp_apply, Sound.liesIn, Sound.direction_next, Sound.liesIn]
  rw [hlies]
  refine List.map_congr_left fun sound hsound => Sound.next_filter ?_ whole.walls
  exact beq_iff_eq.1 (List.mem_filter.1 hsound).2

/-- What comes home in a part is what comes home in its direction. -/
theorem homecoming_eq (h : IsPart direction part whole) :
    part.homecoming = whole.homecoming.filter (Sound.liesIn direction) := by
  rw [homecoming, homecoming, h.map_next, List.filter_comm]

/-- **No sound of another direction orphans a wall,** for a personal wall stands in the direction of
its sound. -/
theorem isOrphanOf_eq (h : IsPart direction part whole) (ho : whole.Orderly) {wall : Wall}
    (hw : wall ∈ (advanceAll whole.sounds whole.walls).2) (hin : wall.liesIn direction = true) :
    isOrphanOf part.homecoming wall = isOrphanOf whole.homecoming wall := by
  obtain ⟨old, hold, holdId, holdDirection⟩ := exists_of_mem_advanceAll hw
  rw [Bool.eq_iff_iff, isOrphanOf_homecoming, isOrphanOf_homecoming, h.sounds_eq, h.walls_eq]
  refine and_congr_right fun _ => exists_congr fun sound => ?_
  rw [List.mem_filter]
  constructor
  · rintro ⟨⟨hs, hlies⟩, hhome, hid⟩
    rw [Sound.next_filter (beq_iff_eq.1 hlies)] at hhome
    exact ⟨hs, hhome, hid⟩
  · rintro ⟨hs, hhome, hid⟩
    have hdirection : sound.direction = direction :=
      calc sound.direction
          = old.direction := (ho.direction_eq hs hold (holdId.trans hid.symm)).symm
        _ = wall.direction := holdDirection
        _ = direction := beq_iff_eq.1 hin
    rw [Sound.next_filter hdirection]
    exact ⟨⟨hs, beq_iff_eq.2 hdirection⟩, hhome, hid⟩

/-- **A part of an orderly chamber stays its part for a tick.** -/
theorem tick (h : IsPart direction part whole) (ho : whole.Orderly) :
    IsPart direction part.tick whole.tick where
  sounds_eq := by
    rw [sounds_tick, sounds_tick, h.map_next, List.filter_comm]
  walls_eq := by
    rw [walls_tick, walls_tick, List.filter_comm, h.sounds_eq, h.walls_eq, ← filter_advanceAll]
    refine List.filter_congr fun wall hwall => ?_
    obtain ⟨hmem, hlies⟩ := List.mem_filter.1 hwall
    rw [h.isOrphanOf_eq ho hmem hlies]

/-- **A part of an orderly chamber stays its part.** -/
theorem ticks (h : IsPart direction part whole) (ho : whole.Orderly) (m : Nat) :
    IsPart direction (part.ticks m) (whole.ticks m) := by
  induction m generalizing part whole with
  | zero => exact h
  | succ m ih => exact ih (h.tick ho) ho.tick

end IsPart

/-! ## The sum over the directions -/

/-- One sound more adds its intensity in its own direction. -/
theorem loudness_filter_cons (direction : Nat) (sound : Sound) (rest : List Sound) :
    loudness ((sound :: rest).filter (Sound.liesIn direction))
      = (if sound.direction = direction then sound.intensity.toNat else 0)
        + loudness (rest.filter (Sound.liesIn direction)) := by
  by_cases h : sound.direction = direction
  · rw [List.filter_cons_of_pos (by simp [Sound.liesIn, h]), if_pos h]
    rfl
  · rw [List.filter_cons_of_neg (by simp [Sound.liesIn, h]), if_neg h, Nat.zero_add]

/-- **The loudness of some sounds is that of the sounds of each direction,** taken together. -/
theorem loudness_eq_sum {sounds : List Sound} {directions : Finset Nat}
    (h : ∀ sound ∈ sounds, sound.direction ∈ directions) : loudness sounds
      = ∑ direction ∈ directions, loudness (sounds.filter (Sound.liesIn direction)) := by
  induction sounds with
  | nil => simp [loudness]
  | cons sound rest ih =>
    obtain ⟨hsound, hrest⟩ := List.forall_mem_cons.1 h
    simp only [loudness_filter_cons]
    rw [Finset.sum_add_distrib, Finset.sum_ite_eq, if_pos hsound, ← ih hrest]
    rfl

/-- No tick brings a new direction. -/
theorem exists_of_mem_sounds_ticks {chamber : Chamber} {m : Nat} {sound : Sound}
    (h : sound ∈ (chamber.ticks m).sounds) :
    ∃ before ∈ chamber.sounds, before.direction = sound.direction := by
  induction m generalizing chamber with
  | zero => exact ⟨sound, h, rfl⟩
  | succ m ih =>
    obtain ⟨between, hbetween, heq⟩ := ih h
    obtain ⟨⟨before, hbefore, rfl⟩, -⟩ := mem_sounds_tick.1 hbetween
    exact ⟨before, hbefore, (before.direction_next chamber.walls).symm.trans heq⟩

/-- After some ticks comes one more. -/
theorem ticks_succ (chamber : Chamber) (m : Nat) :
    chamber.ticks (m + 1) = (chamber.ticks m).tick := by
  induction m generalizing chamber with
  | zero => rfl
  | succ m ih => exact ih chamber.tick

/-- **What a tick brings home is what it brings home in the directions,** each taken alone. -/
theorem toNat_sum_tick {whole : Chamber} {parts : Nat → Chamber} {directions : Finset Nat}
    (hparts : ∀ direction, IsPart direction (parts direction) whole)
    (hdirections : ∀ sound ∈ whole.sounds, sound.direction ∈ directions) :
    whole.tick.sum.toNat
      = (∑ direction ∈ directions, (parts direction).tick.sum.toNat) % 256 := by
  have hhome : ∀ sound ∈ whole.homecoming, sound.direction ∈ directions := fun sound hsound => by
    obtain ⟨before, hbefore, rfl⟩ := List.mem_map.1 (List.mem_filter.1 hsound).1
    rw [Sound.direction_next]
    exact hdirections before hbefore
  have hpart : ∀ direction, (parts direction).tick.sum.toNat
      = loudness (whole.homecoming.filter (Sound.liesIn direction)) % 256 := fun direction => by
    rw [sum_tick, (hparts direction).homecoming_eq, UInt8.toNat_ofNat']
  calc whole.tick.sum.toNat
      = loudness whole.homecoming % 256 := by rw [sum_tick, UInt8.toNat_ofNat']
    _ = (∑ direction ∈ directions,
          loudness (whole.homecoming.filter (Sound.liesIn direction))) % 256 := by
        rw [← loudness_eq_sum hhome]
    _ = (∑ direction ∈ directions, (parts direction).tick.sum.toNat) % 256 := by
        rw [Finset.sum_nat_mod]
        exact congrArg (· % 256) (Finset.sum_congr rfl fun direction _ => (hpart direction).symm)

/-- **The directions do not interfere.**  After any number of ticks the sounds and walls of a
direction are those of the chamber that had only this direction, in the same order, and the sound
sum is the sum over the directions, modulo 256. -/
theorem directions_apart {actions : List Action} (hsends : sendCount actions < 2 ^ 63) {m : Nat}
    (hm : 1 ≤ m) :
    (∀ direction,
      (((after actions).ticks m).inDirection direction).sounds
          = (((after actions).inDirection direction).ticks m).sounds ∧
        (((after actions).ticks m).inDirection direction).walls
          = (((after actions).inDirection direction).ticks m).walls) ∧
      ((after actions).ticks m).sum.toNat
        = (∑ direction ∈ (after actions).occurring,
            (((after actions).inDirection direction).ticks m).sum.toNat) % 256 := by
  have ho := orderly_after hsends
  have hpart (n direction : Nat) : IsPart direction
      (((after actions).inDirection direction).ticks n) ((after actions).ticks n) :=
    ((after actions).isPart_inDirection direction).ticks ho n
  refine ⟨fun direction => ⟨(hpart m direction).sounds_eq.symm, (hpart m direction).walls_eq.symm⟩,
    ?_⟩
  -- the sum is that of the last tick, and the parts are still parts before it
  obtain ⟨n, rfl⟩ := Nat.exists_eq_add_of_le' hm
  simp only [ticks_succ]
  refine toNat_sum_tick (hpart n) fun sound hsound => ?_
  obtain ⟨before, hbefore, heq⟩ := exists_of_mem_sounds_ticks hsound
  rw [occurring, List.mem_toFinset, List.mem_append, ← heq]
  exact Or.inl (List.mem_map_of_mem hbefore)

/-- In each of two directions a sound comes home, one of them from a structural wall; the sound that
stays keeps its wall. -/
theorem directions_apart_two_home :
    let actions : List Action := [.place 0 1, .send 0 200 5, .send 1 100 1, .send 1 7 4]
    sendCount actions < 2 ^ 63 ∧ (after actions).occurring = {0, 1} ∧
      ((after actions).ticks 2).walls.map Wall.id = [3] ∧
      (((after actions).ticks 2).inDirection 1).walls
        = (((after actions).inDirection 1).ticks 2).walls ∧
      44 = (∑ direction ∈ (after actions).occurring,
        (((after actions).inDirection direction).ticks 2).sum.toNat) % 256 := by
  intro actions
  have hsends : sendCount actions < 2 ^ 63 := by decide
  have hsum : ((after actions).ticks 2).sum.toNat = 44 := by decide
  obtain ⟨hparts, hapart⟩ := directions_apart hsends (by decide : 1 ≤ 2)
  exact ⟨hsends, by decide, by decide, (hparts 1).2, hsum.symm.trans hapart⟩

end Chamber

end Reverb
