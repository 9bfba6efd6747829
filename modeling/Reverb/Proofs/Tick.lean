import Reverb.Chamber

/-!
# Proofs/Tick — a tick is one simultaneous update

`Chamber.advanceAll` lets one sound after the other take its step, each among the walls as the one
before left them.  But all that a step changes about a wall is its mark, and no sound looks at
marks.  So every sound moves as it would among the walls at the start of the tick
(`fst_advanceAll`), and a wall gets its mark exactly if it is the first that some turning sound
meets (`getElem?_advanceAll`).  The rest of the library reads a tick through `sounds_tick`,
`sum_tick` and `mem_walls_tick_iff`.
-/

namespace Reverb

/-! ## Marks -/

namespace Wall

/-- The wall without its mark. -/
def unmarked (wall : Wall) : Wall := { wall with struck := false }

/-- The wall, marked if it was hit. -/
def mark (hit : Bool) (wall : Wall) : Wall := { wall with struck := wall.struck || hit }

@[simp] theorem unmarked_mark (hit : Bool) (wall : Wall) :
    (wall.mark hit).unmarked = wall.unmarked :=
  rfl

@[simp] theorem mark_false : mark false = fun wall => wall := by
  funext wall
  simp [mark]

theorem mark_mark (hit again : Bool) (wall : Wall) :
    (wall.mark hit).mark again = wall.mark (hit || again) := by
  simp [mark, Bool.or_assoc]

/-- **The first wall that `hit` picks is marked,** and no other. -/
theorem getElem?_strikeFirst (hit : Wall → Bool) (walls : List Wall) (i : Nat) :
    (strikeFirst hit walls)[i]? = walls[i]?.map (mark (walls.findIdx hit == i)) := by
  induction walls generalizing i with
  | nil => simp [strikeFirst]
  | cons wall rest ih =>
    rw [strikeFirst, List.findIdx_cons]
    by_cases hw : hit wall = true
    · cases i with
      | zero => simp [hw, mark]
      | succ i => simp [hw]
    · cases i with
      | zero => simp [hw]
      | succ i => simp [hw, ih]

end Wall

/-! ## A sound does not look at marks -/

namespace Sound

theorem any_meets_congr (sound : Sound) {walls others : List Wall}
    (h : walls.map Wall.unmarked = others.map Wall.unmarked) :
    walls.any sound.meets = others.any sound.meets := by
  have key : ∀ l : List Wall, l.any sound.meets = (l.map Wall.unmarked).any sound.meets :=
    fun l => by rw [List.any_map]; rfl
  rw [key, key others, h]

theorem findIdx_meets_congr (sound : Sound) {walls others : List Wall}
    (h : walls.map Wall.unmarked = others.map Wall.unmarked) :
    walls.findIdx sound.meets = others.findIdx sound.meets := by
  have key : ∀ l : List Wall, l.findIdx sound.meets = (l.map Wall.unmarked).findIdx sound.meets :=
    fun l => by rw [List.findIdx_map]; rfl
  rw [key, key others, h]

theorem turns_congr (sound : Sound) {walls others : List Wall}
    (h : walls.map Wall.unmarked = others.map Wall.unmarked) :
    sound.turns walls = sound.turns others := by
  rw [turns, turns, sound.any_meets_congr h]

theorem next_congr (sound : Sound) {walls others : List Wall}
    (h : walls.map Wall.unmarked = others.map Wall.unmarked) :
    sound.next walls = sound.next others := by
  rw [next, next, sound.turns_congr h]

/-- The sound turns, and at place `i` of the list stands the first wall that it meets. -/
def strikesAt (sound : Sound) (walls : List Wall) (i : Nat) : Bool :=
  sound.turns walls && walls.findIdx sound.meets == i

theorem strikesAt_congr (sound : Sound) {walls others : List Wall}
    (h : walls.map Wall.unmarked = others.map Wall.unmarked) (i : Nat) :
    sound.strikesAt walls i = sound.strikesAt others i := by
  rw [strikesAt, strikesAt, sound.turns_congr h, sound.findIdx_meets_congr h]

/-- **A step marks the wall that the sound strikes.** -/
theorem getElem?_strike (sound : Sound) (walls : List Wall) (i : Nat) :
    (sound.strike walls)[i]? = walls[i]?.map (Wall.mark (sound.strikesAt walls i)) := by
  rw [strike, strikesAt]
  by_cases h : sound.turns walls = true
  · rw [if_pos h, Wall.getElem?_strikeFirst, h, Bool.true_and]
  · rw [if_neg h]
    simp [h]

/-- Apart from marks a step leaves the walls as they are. -/
theorem map_unmarked_strike (sound : Sound) (walls : List Wall) :
    (sound.strike walls).map Wall.unmarked = walls.map Wall.unmarked := by
  refine List.ext_getElem? fun i => ?_
  rw [List.getElem?_map, List.getElem?_map, getElem?_strike, Option.map_map]
  rfl

/-- A sound that turns at the wall of a list strikes a wall that it meets. -/
theorem meets_of_strikesAt {sound : Sound} {walls : List Wall} {i : Nat} {wall : Wall}
    (h : sound.strikesAt walls i = true) (hi : walls[i]? = some wall) :
    sound.meets wall = true := by
  simp only [strikesAt, Bool.and_eq_true, beq_iff_eq] at h
  obtain ⟨hlt, rfl⟩ := List.getElem?_eq_some_iff.1 hi
  obtain rfl := h.2
  exact List.findIdx_getElem

end Sound

/-! ## All sounds take their step -/

namespace Chamber

/-- **Every sound moves among the walls at the start of the tick.** -/
theorem fst_advanceAll (sounds : List Sound) (walls : List Wall) :
    (advanceAll sounds walls).1 = sounds.map fun sound => sound.next walls := by
  induction sounds generalizing walls with
  | nil => rfl
  | cons sound rest ih =>
    rw [List.map_cons]
    refine congrArg (sound.next walls :: ·) ((ih (sound.strike walls)).trans ?_)
    exact List.map_congr_left fun other _ => other.next_congr (sound.map_unmarked_strike walls)

/-- **A wall is marked if some sound strikes it,** seen from the start of the tick. -/
theorem getElem?_advanceAll (sounds : List Sound) (walls : List Wall) (i : Nat) :
    (advanceAll sounds walls).2[i]?
      = walls[i]?.map (Wall.mark (sounds.any fun sound => sound.strikesAt walls i)) := by
  induction sounds generalizing walls with
  | nil => simp [advanceAll]
  | cons sound rest ih =>
    have hrest : (rest.any fun other => other.strikesAt (sound.strike walls) i)
        = rest.any fun other => other.strikesAt walls i :=
      congrArg rest.any (funext fun other =>
        other.strikesAt_congr (sound.map_unmarked_strike walls) i)
    calc (advanceAll (sound :: rest) walls).2[i]?
        = (advanceAll rest (sound.strike walls)).2[i]? := rfl
      _ = (walls[i]?.map (Wall.mark (sound.strikesAt walls i))).map
            (Wall.mark (rest.any fun other => other.strikesAt walls i)) := by
          rw [ih, hrest, sound.getElem?_strike]
      _ = walls[i]?.map
            (Wall.mark ((sound :: rest).any fun other => other.strikesAt walls i)) := by
          rw [Option.map_map, List.any_cons]
          exact congrArg (Option.map · walls[i]?) (funext fun wall => wall.mark_mark _ _)

/-- Apart from marks the steps leave the walls as they are. -/
theorem map_unmarked_advanceAll (sounds : List Sound) (walls : List Wall) :
    (advanceAll sounds walls).2.map Wall.unmarked = walls.map Wall.unmarked := by
  refine List.ext_getElem? fun i => ?_
  rw [List.getElem?_map, List.getElem?_map, getElem?_advanceAll, Option.map_map]
  rfl

/-! ## What a tick leaves -/

variable {chamber : Chamber}

/-- The sounds that come home in the next tick. -/
def homecoming (chamber : Chamber) : List Sound :=
  (chamber.sounds.map fun sound => sound.next chamber.walls).filter Sound.isHome

theorem sounds_tick (chamber : Chamber) : chamber.tick.sounds
    = (chamber.sounds.map fun sound => sound.next chamber.walls).filter fun s => !s.isHome := by
  rw [← fst_advanceAll]
  rfl

theorem sum_tick (chamber : Chamber) :
    chamber.tick.sum = UInt8.ofNat (loudness chamber.homecoming) := by
  rw [homecoming, ← fst_advanceAll]
  rfl

theorem walls_tick (chamber : Chamber) : chamber.tick.walls
    = (advanceAll chamber.sounds chamber.walls).2.filter
        fun wall => !(wall.struck || isOrphanOf chamber.homecoming wall) := by
  rw [homecoming, ← fst_advanceAll]
  rfl

/-- After a tick a sound is where its step took it. -/
theorem mem_sounds_tick {sound : Sound} : sound ∈ chamber.tick.sounds ↔
    (∃ before ∈ chamber.sounds, before.next chamber.walls = sound) ∧ sound.distance ≠ 0 := by
  simp [sounds_tick, Sound.isHome]

/-- **The orphans of some sounds** are their personal walls. -/
theorem isOrphanOf_iff {absorbed : List Sound} {wall : Wall} : isOrphanOf absorbed wall = true ↔
    0 ≤ wall.id ∧ ∃ sound ∈ absorbed, (sound.id : Int) = wall.id := by
  simp only [isOrphanOf, Wall.isStructural, Bool.and_eq_true, Bool.not_eq_true',
    decide_eq_false_iff_not, Int.not_lt, List.any_eq_true, beq_iff_eq]
  refine and_congr_right fun hid => exists_congr fun sound => and_congr_right fun _ => ?_
  omega

/-- The personal wall of a sound that comes home is an orphan, and no other wall is. -/
theorem isOrphanOf_homecoming {wall : Wall} : isOrphanOf chamber.homecoming wall = true ↔
    0 ≤ wall.id ∧ ∃ sound ∈ chamber.sounds,
      (sound.next chamber.walls).distance = 0 ∧ (sound.id : Int) = wall.id := by
  rw [isOrphanOf_iff]
  simp only [homecoming, Sound.isHome, List.mem_filter, List.mem_map, beq_iff_eq]
  refine and_congr_right fun _ => ⟨?_, ?_⟩
  · rintro ⟨_, ⟨⟨sound, hmem, rfl⟩, hhome⟩, heq⟩
    exact ⟨sound, hmem, hhome, by rwa [Sound.id_next] at heq⟩
  · rintro ⟨sound, hmem, hhome, heq⟩
    exact ⟨_, ⟨⟨sound, hmem, rfl⟩, hhome⟩, by rwa [Sound.id_next]⟩

/-- **A wall outlives a tick** if it is not marked, no sound strikes it, and it is no orphan. -/
theorem mem_walls_tick_iff {wall : Wall} : wall ∈ chamber.tick.walls ↔
    (∃ i, chamber.walls[i]? = some wall ∧
      ∀ sound ∈ chamber.sounds, sound.strikesAt chamber.walls i = false) ∧
    wall.struck = false ∧ isOrphanOf chamber.homecoming wall = false := by
  rw [walls_tick, List.mem_filter, Bool.not_eq_true', Bool.or_eq_false_iff, List.mem_iff_getElem?]
  refine and_congr_left fun ⟨hstruck, _⟩ => exists_congr fun i => ?_
  rw [getElem?_advanceAll, Option.map_eq_some_iff]
  constructor
  · rintro ⟨old, hold, rfl⟩
    have hany := (Bool.or_eq_false_iff.1 hstruck).2
    rw [hany, Wall.mark_false]
    exact ⟨hold, fun sound hs => by simpa using List.any_eq_false.1 hany sound hs⟩
  · rintro ⟨hi, hnone⟩
    have hany : (chamber.sounds.any fun sound => sound.strikesAt chamber.walls i) = false :=
      List.any_eq_false.2 fun sound hs => by simp [hnone sound hs]
    exact ⟨wall, hi, by rw [hany, Wall.mark_false]⟩

/-- **A wall that outlives a tick is unchanged,** unmarked, and no orphan. -/
theorem of_mem_walls_tick {wall : Wall} (h : wall ∈ chamber.tick.walls) :
    wall ∈ chamber.walls ∧ wall.struck = false ∧ isOrphanOf chamber.homecoming wall = false := by
  obtain ⟨⟨i, hi, -⟩, hstruck, horphan⟩ := mem_walls_tick_iff.1 h
  exact ⟨List.mem_of_getElem? hi, hstruck, horphan⟩

/-- A wall at which no sound turns, and whose own sound does not come home, outlives a tick. -/
theorem mem_walls_tick {wall : Wall} (h : wall ∈ chamber.walls) (hstruck : wall.struck = false)
    (hturn : ∀ sound ∈ chamber.sounds, sound.turns chamber.walls = true → sound.meets wall = false)
    (horphan : isOrphanOf chamber.homecoming wall = false) : wall ∈ chamber.tick.walls := by
  obtain ⟨i, hi⟩ := List.mem_iff_getElem?.1 h
  refine mem_walls_tick_iff.2 ⟨⟨i, hi, fun sound hs => ?_⟩, hstruck, horphan⟩
  refine Bool.eq_false_iff.2 fun hstrikes => ?_
  have hmeets := Sound.meets_of_strikesAt hstrikes hi
  simp only [Sound.strikesAt, Bool.and_eq_true] at hstrikes
  rw [hturn sound hs hstrikes.1] at hmeets
  exact Bool.false_ne_true hmeets

/-- The ids of the walls that outlive a tick stand in their old order. -/
theorem map_id_walls_tick_sublist (chamber : Chamber) :
    (chamber.tick.walls.map Wall.id).Sublist (chamber.walls.map Wall.id) := by
  have hids : ∀ walls : List Wall, walls.map Wall.id = (walls.map Wall.unmarked).map Wall.id :=
    fun walls => by rw [List.map_map]; rfl
  rw [walls_tick, hids chamber.walls, ← map_unmarked_advanceAll chamber.sounds chamber.walls,
    ← hids]
  exact List.filter_sublist.map Wall.id

end Chamber

end Reverb
