import Mathlib.Data.List.Induction
import Reverb.Proofs.Orderly

/-!
# Proofs/SingleUse — a wall is used in one tick at most

A tick uses a wall if a sound that moves outward stands at it and it is the first of the list that
turns that sound there.  A structural wall stays as it was placed until a tick uses it; several
sounds may turn at it in that tick, then it is gone, and its id does not come back
(`HasSingleUse`).  A personal wall turns its own sound alone, and a sound that has turned never
turns again (`serves_once`).

What carries this through a run are two facts about ids that no action undoes: `Retired` says that
no wall has an id and none will get it, `HasTurned` that no sound with an id is on its way out.
-/

namespace Reverb

open Reverb.Action

namespace Chamber

variable {chamber : Chamber} {sound : Sound} {wall : Wall}

/-! ## The wall that turns a sound -/

/-- **The next tick turns the sound at the wall:** it moves outward and stands at the wall, and no
wall before this one in the list turns it there. -/
structure Strikes (chamber : Chamber) (sound : Sound) (wall : Wall) : Prop where
  mem : sound ∈ chamber.sounds
  outward : sound.velocity = 1
  not_fresh : sound.fresh = false
  direction_eq : sound.direction = wall.direction
  distance_eq : sound.distance = wall.distance
  first : (chamber.walls.find? fun other => other.direction == sound.direction &&
    other.distance == sound.distance && other.reflects sound.id) = some wall

/-- The next tick uses the wall. -/
def IsUsed (chamber : Chamber) (wall : Wall) : Prop := ∃ sound, chamber.Strikes sound wall

/-- Some tick of the actions uses the wall. -/
def IsUsedIn (chamber : Chamber) (wall : Wall) (actions : List Action) : Prop :=
  ∃ part, part ++ [.tick] <+: actions ∧ (chamber.run part).IsUsed wall

namespace Strikes

theorem wall_mem (h : chamber.Strikes sound wall) : wall ∈ chamber.walls :=
  List.mem_of_find?_eq_some h.first

theorem meets (h : chamber.Strikes sound wall) : sound.meets wall = true :=
  List.find?_some (p := sound.meets) h.first

/-- A sound that strikes a wall turns. -/
theorem turns (h : chamber.Strikes sound wall) : sound.turns chamber.walls = true := by
  simp only [Sound.turns, h.outward, h.not_fresh, Bool.not_false, Int.zero_lt_one, decide_true,
    Bool.true_and, List.any_eq_true]
  exact ⟨wall, h.wall_mem, h.meets⟩

/-- The sound starts on its way back. -/
theorem velocity_next (h : chamber.Strikes sound wall) :
    (sound.next chamber.walls).velocity = -1 := by
  rw [Sound.velocity_next, if_pos h.turns]

end Strikes

namespace Orderly

/-- **A sound that turns strikes a wall.** -/
theorem exists_strikes (h : chamber.Orderly) (hs : sound ∈ chamber.sounds)
    (hturns : sound.turns chamber.walls = true) : ∃ wall, chamber.Strikes sound wall := by
  simp only [Sound.turns, Bool.and_eq_true, Bool.not_eq_true', decide_eq_true_eq] at hturns
  obtain ⟨⟨hfresh, hpos⟩, hany⟩ := hturns
  have hfind : (chamber.walls.find? sound.meets).isSome = true := by rwa [List.isSome_find?]
  obtain ⟨wall, hwall⟩ := Option.isSome_iff_exists.1 hfind
  have hmeets := (h.meets_iff hs wall).1 (List.find?_some hwall)
  refine ⟨wall, hs, ?_, hfresh, hmeets.1.symm, hmeets.2.1.symm, hwall⟩
  rcases h.velocity sound hs with hout | hback
  · exact hout
  · omega

/-- A sound strikes the wall at a place of the list if it turns there. -/
theorem strikesAt_iff (h : chamber.Orderly) (hs : sound ∈ chamber.sounds) {i : Nat}
    (hi : chamber.walls[i]? = some wall) :
    sound.strikesAt chamber.walls i = true ↔ chamber.Strikes sound wall := by
  have hfind : chamber.walls.find? sound.meets =
      chamber.walls[chamber.walls.findIdx sound.meets]? := List.find?_eq_getElem?_findIdx
  rw [Sound.strikesAt, Bool.and_eq_true, beq_iff_eq]
  constructor
  · rintro ⟨hturns, rfl⟩
    obtain ⟨other, hother⟩ := h.exists_strikes hs hturns
    obtain rfl : other = wall := Option.some.inj (hother.first.symm.trans (hfind.trans hi))
    exact hother
  · intro hstrikes
    refine ⟨hstrikes.turns, ?_⟩
    have hidx := hfind.symm.trans hstrikes.first
    have hlt := (List.getElem?_eq_some_iff.1 hidx).1
    exact (List.getElem?_inj hlt (h.wall_ids_nodup.of_map _)).1 (hidx.trans hi.symm)

/-- **A structural wall outlives a tick that does not use it,** and no other tick. -/
theorem mem_walls_tick_iff_not_isUsed (h : chamber.Orderly) (hid : wall.id < 0) :
    wall ∈ chamber.tick.walls ↔ wall ∈ chamber.walls ∧ ¬chamber.IsUsed wall := by
  rw [mem_walls_tick_iff]
  constructor
  · rintro ⟨⟨i, hi, hnone⟩, -, -⟩
    refine ⟨List.mem_of_getElem? hi, fun ⟨sound, hstrikes⟩ => ?_⟩
    have hat := (h.strikesAt_iff hstrikes.mem hi).2 hstrikes
    rw [hnone sound hstrikes.mem] at hat
    exact Bool.false_ne_true hat
  · rintro ⟨hmem, hunused⟩
    obtain ⟨i, hi⟩ := List.mem_iff_getElem?.1 hmem
    refine ⟨⟨i, hi, fun sound hs => ?_⟩, h.unstruck wall hmem, ?_⟩
    · exact Bool.eq_false_iff.2 fun hat => hunused ⟨sound, (h.strikesAt_iff hs hi).1 hat⟩
    · simp [isOrphanOf, Wall.isStructural, hid]

/-- A personal wall turns its own sound alone. -/
theorem id_eq_of_strikes (h : chamber.Orderly) (hstrikes : chamber.Strikes sound wall)
    (hid : 0 ≤ wall.id) : wall.id = sound.id := by
  rcases ((h.meets_iff hstrikes.mem wall).1 hstrikes.meets).2.2 with hneg | hown
  · omega
  · exact hown

end Orderly

/-! ## What no action undoes -/

/-- No wall has the id of a structural wall, and none will get it. -/
structure Retired (id : Int) (chamber : Chamber) : Prop where
  neg : id < 0
  next_lt : chamber.nextWallId < id
  absent : ∀ wall ∈ chamber.walls, wall.id ≠ id

/-- Of the sounds with an id, which is no new one, none is on its way out. -/
structure HasTurned (id : Nat) (chamber : Chamber) : Prop where
  id_lt : id < chamber.nextSoundId
  velocity : ∀ sound ∈ chamber.sounds, sound.id = id → sound.velocity = -1

/-- **An id that is retired stays so.** -/
theorem Retired.act {id : Int} (h : chamber.Retired id) (action : Action)
    (hroom : chamber.nextSoundId + sendCount [action] ≤ 2 ^ 63) :
    (chamber.act action).Retired id := by
  have hneg := h.neg
  have hnext := h.next_lt
  cases action with
  | send direction intensity distance =>
    by_cases hrange : 0 < intensity ∧ intensity < 256
    case neg => rwa [Chamber.act, send_of_out_of_range chamber direction distance hrange]
    rw [Chamber.act, send_of_in_range chamber direction distance hrange,
      Wall.personalId_of_lt hroom]
    refine ⟨hneg, hnext, List.forall_mem_append.2 ⟨h.absent, List.forall_mem_singleton.2 ?_⟩⟩
    dsimp only
    omega
  | place direction distance =>
    refine ⟨hneg, ?_, List.forall_mem_append.2 ⟨h.absent, List.forall_mem_singleton.2 ?_⟩⟩
    · dsimp only [Chamber.act, Chamber.placeWall]
      omega
    · exact Int.ne_of_lt hnext
  | tick => exact ⟨hneg, hnext, fun wall hw => h.absent wall (of_mem_walls_tick hw).1⟩

/-- **A sound that has turned does not move outward again.** -/
theorem HasTurned.act {id : Nat} (h : chamber.HasTurned id) (action : Action) :
    (chamber.act action).HasTurned id := by
  have hlt := h.id_lt
  cases action with
  | send direction intensity distance =>
    by_cases hrange : 0 < intensity ∧ intensity < 256
    case neg => rwa [Chamber.act, send_of_out_of_range chamber direction distance hrange]
    rw [Chamber.act, send_of_in_range chamber direction distance hrange]
    refine ⟨Nat.lt_succ_of_lt hlt, List.forall_mem_append.2
      ⟨h.velocity, List.forall_mem_singleton.2 fun hid => ?_⟩⟩
    dsimp only at hid
    omega
  | place direction distance => exact ⟨hlt, h.velocity⟩
  | tick =>
    refine ⟨hlt, fun sound hs hid => ?_⟩
    obtain ⟨⟨before, hbefore, rfl⟩, -⟩ := mem_sounds_tick.1 hs
    rw [Sound.velocity_next]
    split
    · rfl
    · exact h.velocity before hbefore (by rwa [Sound.id_next] at hid)

theorem HasTurned.run {id : Nat} (h : chamber.HasTurned id) (actions : List Action) :
    (chamber.run actions).HasTurned id := by
  induction actions generalizing chamber with
  | nil => exact h
  | cons action rest ih => exact ih (h.act action)

theorem Retired.run {id : Int} (h : chamber.Retired id) (actions : List Action)
    (hroom : chamber.nextSoundId + sendCount actions ≤ 2 ^ 63) :
    (chamber.run actions).Retired id := by
  induction actions generalizing chamber with
  | nil => exact h
  | cons action rest ih =>
    have hact := chamber.nextSoundId_act_le action
    rw [sendCount_cons] at hroom
    refine ih (h.act action ?_) ?_
    · simp only [sendCount_cons, sendCount_nil]
      omega
    · omega

namespace Orderly

/-- The tick that uses a structural wall retires its id. -/
theorem retired_of_isUsed (h : chamber.Orderly) (hid : wall.id < 0) (hused : chamber.IsUsed wall) :
    chamber.tick.Retired wall.id := by
  obtain ⟨sound, hstrikes⟩ := hused
  refine ⟨hid, h.next_lt_wall_id wall hstrikes.wall_mem, fun other hother heq => ?_⟩
  obtain rfl := h.wall_eq (of_mem_walls_tick hother).1 hstrikes.wall_mem heq
  exact ((h.mem_walls_tick_iff_not_isUsed hid).1 hother).2 ⟨sound, hstrikes⟩

/-- The tick in which a sound turns is the last that finds it on its way out. -/
theorem hasTurned_of_turns (h : chamber.Orderly) (hs : sound ∈ chamber.sounds)
    (hturns : sound.turns chamber.walls = true) : chamber.tick.HasTurned sound.id := by
  refine ⟨(h.id_range sound hs).2, fun after hafter hid => ?_⟩
  obtain ⟨⟨before, hbefore, rfl⟩, -⟩ := mem_sounds_tick.1 hafter
  rw [Sound.id_next] at hid
  obtain rfl := h.sound_eq hbefore hs hid
  rw [Sound.velocity_next, if_pos hturns]

end Orderly

theorem HasTurned.turns_eq_false {id : Nat} (h : chamber.HasTurned id)
    (hs : sound ∈ chamber.sounds) (hid : sound.id = id) : sound.turns chamber.walls = false := by
  simp [Sound.turns, h.velocity sound hs hid]

/-! ## Runs -/

/-- Of two parts of a run that end before a tick, one goes on through the tick of the other. -/
theorem part_eq_or_tick_prefix {rest first second : List Action}
    (hfirst : first ++ [.tick] <+: rest) (hsecond : second ++ [.tick] <+: rest) :
    first = second ∨ first ++ [.tick] <+: second ∨ second ++ [.tick] <+: first := by
  rcases Nat.lt_trichotomy first.length second.length with hlt | heq | hlt
  · refine Or.inr (Or.inl (List.prefix_of_prefix_length_le hfirst
      ((List.prefix_append _ _).trans hsecond) ?_))
    rw [List.length_append]
    exact hlt
  · exact Or.inl ((List.prefix_of_prefix_length_le ((List.prefix_append _ _).trans hfirst)
      ((List.prefix_append _ _).trans hsecond) (Nat.le_of_eq heq)).eq_of_length heq)
  · refine Or.inr (Or.inr (List.prefix_of_prefix_length_le hsecond
      ((List.prefix_append _ _).trans hfirst) ?_))
    rw [List.length_append]
    exact hlt

/-- **A wall of single use,** through the actions that follow its placing. -/
structure HasSingleUse (chamber : Chamber) (wall : Wall) (rest : List Action) : Prop where
  /-- Until a tick has used it the wall stands as it was placed. -/
  stays : ∀ part, part <+: rest → ¬chamber.IsUsedIn wall part → wall ∈ (chamber.run part).walls
  /-- Every sound that strikes it turns in that tick. -/
  turns : ∀ part sound, part ++ [.tick] <+: rest → (chamber.run part).Strikes sound wall →
    sound.turns (chamber.run part).walls = true ∧
      (sound.next (chamber.run part).walls).velocity = -1
  /-- After a tick has used it no wall has its id. -/
  gone : ∀ part, part <+: rest → chamber.IsUsedIn wall part →
    ∀ other ∈ (chamber.run part).walls, other.id ≠ wall.id
  /-- No two ticks use it. -/
  once : ∀ first second, first ++ [.tick] <+: rest → second ++ [.tick] <+: rest →
    (chamber.run first).IsUsed wall → (chamber.run second).IsUsed wall → first = second

namespace Orderly

variable {rest part : List Action}

/-- A structural wall stands until a tick has used it. -/
theorem mem_walls_run (h : chamber.Orderly) (hmem : wall ∈ chamber.walls) (hid : wall.id < 0)
    (hroom : chamber.nextSoundId + sendCount part ≤ 2 ^ 63)
    (hunused : ¬chamber.IsUsedIn wall part) : wall ∈ (chamber.run part).walls := by
  induction part using List.reverseRecOn with
  | nil => exact hmem
  | append_singleton part action ih =>
    rw [sendCount_append] at hroom
    have hbefore : wall ∈ (chamber.run part).walls :=
      ih (by omega) fun ⟨earlier, hearlier, hused⟩ => hunused ⟨earlier, hearlier.trans (List.prefix_append _ _), hused⟩
    rw [run_append]
    cases action with
    | send direction intensity distance =>
      rw [run_cons, run_nil, Chamber.act, Chamber.send]
      split
      · exact List.mem_append_left _ hbefore
      · exact hbefore
    | place direction distance => exact List.mem_append_left _ hbefore
    | tick =>
      refine ((h.run part (by omega)).mem_walls_tick_iff_not_isUsed hid).2 ⟨hbefore, ?_⟩
      exact fun hused => hunused ⟨part, List.prefix_refl _, hused⟩

/-- After a tick has used it the id of a structural wall is retired. -/
theorem retired_run (h : chamber.Orderly) (hid : wall.id < 0)
    (hroom : chamber.nextSoundId + sendCount part ≤ 2 ^ 63) (hused : chamber.IsUsedIn wall part) :
    (chamber.run part).Retired wall.id := by
  obtain ⟨earlier, ⟨later, rfl⟩, hused⟩ := hused
  have hnext := chamber.nextSoundId_run_le earlier
  simp only [sendCount_append, sendCount_cons, sendCount_nil, isSend] at hroom
  rw [run_append, run_append]
  refine ((h.run earlier (by omega)).retired_of_isUsed hid hused).run later ?_
  rw [nextSoundId_tick]
  omega

/-- **A structural wall is of single use.** -/
theorem hasSingleUse (h : chamber.Orderly) (hmem : wall ∈ chamber.walls) (hid : wall.id < 0)
    (hroom : chamber.nextSoundId + sendCount rest ≤ 2 ^ 63) : chamber.HasSingleUse wall rest := by
  have hsends {part : List Action} (hpart : part <+: rest) :
      chamber.nextSoundId + sendCount part ≤ 2 ^ 63 :=
    Nat.le_trans (Nat.add_le_add_left (sendCount_part_le hpart) _) hroom
  have hgone : ∀ part, part <+: rest → chamber.IsUsedIn wall part →
      ∀ other ∈ (chamber.run part).walls, other.id ≠ wall.id := fun part hpart hused =>
    (h.retired_run hid (hsends hpart) hused).absent
  have hlater : ∀ first second, first ++ [.tick] <+: second → second ++ [.tick] <+: rest →
      (chamber.run first).IsUsed wall → ¬(chamber.run second).IsUsed wall := by
    rintro first second hbefore hsecond hused ⟨sound, hstrikes⟩
    exact hgone second ((List.prefix_append _ _).trans hsecond) ⟨first, hbefore, hused⟩ wall
      hstrikes.wall_mem rfl
  refine ⟨fun part hpart hunused => h.mem_walls_run hmem hid (hsends hpart) hunused,
    fun part sound _ hstrikes => ⟨hstrikes.turns, hstrikes.velocity_next⟩, hgone,
    fun first second hfirst hsecond husedFirst husedSecond => ?_⟩
  rcases part_eq_or_tick_prefix hfirst hsecond with heq | hbefore | hbefore
  · exact heq
  · exact absurd husedSecond (hlater first second hbefore hsecond husedFirst)
  · exact absurd husedFirst (hlater second first hbefore hfirst husedSecond)

/-- A sound that turned before the end of a run does not turn at its end. -/
theorem turns_eq_false_of_turned (h : chamber.Orderly) {first second : List Action} {again : Sound}
    (hroom : chamber.nextSoundId + sendCount first ≤ 2 ^ 63)
    (hbefore : first ++ [.tick] <+: second) (hs : sound ∈ (chamber.run first).sounds)
    (hturns : sound.turns (chamber.run first).walls = true)
    (hagain : again ∈ (chamber.run second).sounds) (hid : again.id = sound.id) :
    again.turns (chamber.run second).walls = false := by
  obtain ⟨later, rfl⟩ := hbefore
  rw [run_append, run_append] at hagain ⊢
  exact (((h.run first hroom).hasTurned_of_turns hs hturns).run later).turns_eq_false hagain hid

end Orderly

/-- **Everything serves once** in a run from the empty chamber. -/
structure ServesOnce (actions : List Action) : Prop where
  /-- Every structural wall is of single use from its placing on. -/
  structural : ∀ before direction distance rest,
    actions = before ++ .place direction distance :: rest →
    (after (before ++ [.place direction distance])).HasSingleUse
      { id := ((after before).placeWall direction distance).1, direction, distance } rest
  /-- No sound turns in two ticks. -/
  turn : ∀ first second, first ++ [.tick] <+: actions → second ++ [.tick] <+: actions →
    ∀ sound ∈ (after first).sounds, ∀ again ∈ (after second).sounds, again.id = sound.id →
      sound.turns (after first).walls = true → again.turns (after second).walls = true →
        first = second
  /-- A personal wall turns its own sound alone. -/
  personal : ∀ part, part ++ [.tick] <+: actions → ∀ sound wall,
    (after part).Strikes sound wall → 0 ≤ wall.id → wall.id = sound.id

/-- **In every run everything serves once.** -/
theorem serves_once {actions : List Action} (hsends : sendCount actions < 2 ^ 63) :
    ServesOnce actions where
  structural before direction distance rest hactions := by
    subst hactions
    have hfew : sendCount (before ++ [.place direction distance]) + sendCount rest < 2 ^ 63 := by
      simpa [isSend] using hsends
    have horderly : (after (before ++ [.place direction distance])).Orderly :=
      orderly_after (by omega)
    have hnext := nextSoundId_after_le (before ++ [.place direction distance])
    have hbefore : (after before).Orderly := orderly_after (by
      rw [sendCount_append] at hfew
      omega)
    refine horderly.hasSingleUse ?_ hbefore.nextWallId_neg (by omega)
    rw [after, run_append]
    exact List.mem_append_right _ (List.mem_singleton_self _)
  turn first second hfirst hsecond sound hs again hagain hid hturns hturnsAgain := by
    have hroom {part : List Action} (hpart : part ++ [.tick] <+: actions) :
        ({} : Chamber).nextSoundId + sendCount part ≤ 2 ^ 63 := by
      have hle := sendCount_part_le ((List.prefix_append part [.tick]).trans hpart)
      dsimp only
      omega
    rcases part_eq_or_tick_prefix hfirst hsecond with heq | hbefore | hbefore
    · exact heq
    · have hnot := orderly_empty.turns_eq_false_of_turned (hroom hfirst) hbefore hs hturns hagain
        hid
      exact absurd hturnsAgain (Bool.eq_false_iff.1 hnot)
    · have hnot := orderly_empty.turns_eq_false_of_turned (hroom hsecond) hbefore hagain hturnsAgain
        hs hid.symm
      exact absurd hturns (Bool.eq_false_iff.1 hnot)
  personal part hpart sound wall hstrikes hid := by
    have hle := sendCount_part_le ((List.prefix_append part [.tick]).trans hpart)
    exact (orderly_after (Nat.lt_of_le_of_lt hle hsends)).id_eq_of_strikes hstrikes hid

/-- Two walls stand in one cell: two sounds turn at the first of them, and the second stays. -/
theorem serves_once_shared_cell :
    let actions := [.place 0 1, .place 0 1, .send 0 100 4, .send 0 200 4, .tick, .tick, .tick]
    sendCount actions < 2 ^ 63 ∧ (after (actions.take 5)).walls.map Wall.id = [-1, -2, 1, 2] ∧
      (after (actions.take 6)).walls.map Wall.id = [-2] ∧ (after (actions.take 6)).sounds = [] ∧
      ServesOnce actions :=
  ⟨by decide, by decide, by decide, by decide, serves_once (by decide)⟩

end Chamber

end Reverb
