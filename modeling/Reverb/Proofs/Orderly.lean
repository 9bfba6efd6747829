import Mathlib.Algebra.GroupWithZero.Nat
import Mathlib.Data.List.Nodup
import Reverb.Proofs.Action
import Reverb.Proofs.Tick

/-!
# Proofs/Orderly — what holds of a chamber after every action

Sounds and walls are kept in two lists that only ids tie together.  `Chamber.Orderly` says what
those ids are worth: sounds and walls can be told apart by them, a wall with the id of a sound
stands in the direction of that sound, and a sound on its way out has such a wall in front of it.
Every action keeps a chamber orderly as long as there are sound ids left (`Orderly.act`), so every
run from the empty chamber does (`orderly_after`).
-/

namespace Reverb

/-- In a list without repetitions a test that only one member passes picks that member. -/
theorem filter_eq_singleton {α : Type*} {l : List α} (hnodup : l.Nodup) {a : α} (ha : a ∈ l)
    {p : α → Bool} (hp : ∀ b ∈ l, p b = true ↔ b = a) : l.filter p = [a] := by
  classical
  have hp' : ∀ b ∈ l, p b = (b == a) := fun b hb => by
    rw [Bool.eq_iff_iff, hp b hb, beq_iff_eq]
  rw [List.filter_congr hp', List.filter_beq, List.count_eq_one_of_mem hnodup ha]
  rfl

/-- As long as fewer than `2 ^ 63` sounds were sent, a personal wall carries the id of its sound. -/
theorem Wall.personalId_of_lt {soundId : Nat} (h : soundId < 2 ^ 63) :
    personalId soundId = soundId :=
  Int.bmod_eq_of_le_mul_two (by rw [UInt64.size]; omega) (by rw [UInt64.size]; omega)

/-! ## One step of a sound -/

namespace Sound

variable {sound : Sound} {walls : List Wall}

/-- A sound that turns moves one cell back. -/
theorem next_of_turns (h : sound.turns walls = true) : sound.next walls
    = { sound with velocity := -1, distance := moved sound.distance (-1) } := by
  have hfresh : ¬sound.fresh = true := fun hf => by
    rw [turns_of_fresh hf] at h
    exact Bool.false_ne_true h
  rw [next, if_neg hfresh, if_pos h]

/-- A sound that does not turn moves on. -/
theorem next_of_not_turns (hfresh : sound.fresh = false) (h : sound.turns walls = false) :
    sound.next walls = { sound with distance := moved sound.distance sound.velocity } := by
  simp [next, hfresh, h]

/-- A step keeps the velocity, or turns it around. -/
theorem velocity_next (sound : Sound) (walls : List Wall) :
    (sound.next walls).velocity = if sound.turns walls then -1 else sound.velocity := by
  by_cases hfresh : sound.fresh = true
  · rw [next_of_fresh hfresh, turns_of_fresh hfresh]
    rfl
  · rw [next, if_neg hfresh]

/-- A sound moves by at most one cell further out. -/
theorem distance_next_le (sound : Sound) (walls : List Wall) (h : sound.velocity ≤ 1) :
    (sound.next walls).distance ≤ sound.distance + 1 := by
  by_cases hfresh : sound.fresh = true
  · rw [next_of_fresh hfresh]
    exact Nat.le_succ _
  · rw [next, if_neg hfresh]
    have hle : moved sound.distance (if sound.turns walls then -1 else sound.velocity)
        ≤ sound.distance + 1 := by
      rw [moved]
      split <;> omega
    exact hle

end Sound

namespace Chamber

open Reverb.Action

/-- A sound that is sent gets the next sound id, and so does its personal wall. -/
theorem send_of_in_range (chamber : Chamber) (direction distance : Nat) {intensity : Nat}
    (h : 0 < intensity ∧ intensity < 256) :
    chamber.send direction intensity distance = (some chamber.nextSoundId,
      { chamber with
        sounds := chamber.sounds ++
          [⟨chamber.nextSoundId, direction, UInt8.ofNat intensity, 1, 1, true⟩]
        walls := chamber.walls ++
          [⟨Wall.personalId chamber.nextSoundId, direction, distance, false⟩]
        nextSoundId := chamber.nextSoundId + 1 }) := by
  rw [send, if_pos h]
  rfl

/-! ## Orderly chambers -/

/-- **An orderly chamber.** -/
structure Orderly (chamber : Chamber) : Prop where
  /-- Later sounds have larger ids. -/
  ids_increase : chamber.sounds.Pairwise fun earlier later => earlier.id < later.id
  /-- The ids of sounds count from 1 up to the next one. -/
  id_range : ∀ sound ∈ chamber.sounds, 0 < sound.id ∧ sound.id < chamber.nextSoundId
  /-- There is a next sound id, and all ids so far are signed words. -/
  next_range : 0 < chamber.nextSoundId ∧ chamber.nextSoundId ≤ 2 ^ 63
  /-- No two walls share an id. -/
  wall_ids_nodup : (chamber.walls.map Wall.id).Nodup
  /-- The ids of walls stay above the next structural one. -/
  next_lt_wall_id : ∀ wall ∈ chamber.walls, chamber.nextWallId < wall.id
  /-- Structural walls get negative ids. -/
  nextWallId_neg : chamber.nextWallId < 0
  /-- No sound is home. -/
  distance_pos : ∀ sound ∈ chamber.sounds, 0 < sound.distance
  /-- Sounds move one cell a tick. -/
  velocity : ∀ sound ∈ chamber.sounds, sound.velocity = 1 ∨ sound.velocity = -1
  /-- A personal wall belongs to a sound in its direction. -/
  owned : ∀ wall ∈ chamber.walls, 0 ≤ wall.id →
    ∃ sound ∈ chamber.sounds, (sound.id : Int) = wall.id ∧ sound.direction = wall.direction
  /-- A sound on its way out has its wall, and has not passed it unless it stands at the origin. -/
  kept : ∀ sound ∈ chamber.sounds, sound.velocity = 1 →
    ∃ wall ∈ chamber.walls, wall.id = sound.id ∧
      (wall.distance = 0 ∨ sound.distance ≤ wall.distance)
  /-- Between ticks no wall is marked. -/
  unstruck : ∀ wall ∈ chamber.walls, wall.struck = false

namespace Orderly

variable {chamber : Chamber}

/-- **A sound is known by its id.** -/
theorem sound_eq (h : chamber.Orderly) {a b : Sound} (ha : a ∈ chamber.sounds)
    (hb : b ∈ chamber.sounds) (hid : a.id = b.id) : a = b := by
  have hnodup : (chamber.sounds.map Sound.id).Nodup :=
    List.pairwise_map.2 (h.ids_increase.imp fun hlt => Nat.ne_of_lt hlt)
  exact List.inj_on_of_nodup_map hnodup ha hb hid

/-- A wall is known by its id. -/
theorem wall_eq (h : chamber.Orderly) {a b : Wall} (ha : a ∈ chamber.walls)
    (hb : b ∈ chamber.walls) (hid : a.id = b.id) : a = b :=
  List.inj_on_of_nodup_map h.wall_ids_nodup ha hb hid

/-- The wall of a sound stands in the direction of the sound. -/
theorem direction_eq (h : chamber.Orderly) {sound : Sound} {wall : Wall}
    (hs : sound ∈ chamber.sounds) (hw : wall ∈ chamber.walls) (hid : wall.id = sound.id) :
    wall.direction = sound.direction := by
  obtain ⟨owner, howner, hownerId, hdirection⟩ := h.owned wall hw (by omega)
  rw [← hdirection, h.sound_eq howner hs (by omega)]

/-- **A sound is turned by structural walls and by its own,** in the cell where it stands. -/
theorem meets_iff (h : chamber.Orderly) {sound : Sound} (hs : sound ∈ chamber.sounds)
    (wall : Wall) : sound.meets wall = true ↔ wall.direction = sound.direction ∧
      wall.distance = sound.distance ∧ (wall.id < 0 ∨ wall.id = sound.id) := by
  have hid : Wall.personalId sound.id = sound.id :=
    Wall.personalId_of_lt (Nat.lt_of_lt_of_le (h.id_range sound hs).2 h.next_range.2)
  simp [Sound.meets, Wall.reflects, Wall.isStructural, hid, and_assoc]

/-- **The wall of a sound outlives a tick** in which the sound neither turns nor comes home: no
other sound turns at it. -/
theorem own_wall_mem_tick (h : chamber.Orderly) {sound : Sound} {wall : Wall}
    (hs : sound ∈ chamber.sounds) (hw : wall ∈ chamber.walls) (hid : wall.id = sound.id)
    (hturn : sound.turns chamber.walls = false)
    (hhome : (sound.next chamber.walls).distance ≠ 0) : wall ∈ chamber.tick.walls := by
  refine mem_walls_tick hw (h.unstruck wall hw) (fun other hother hturns => ?_) ?_
  · by_contra hmeets
    rw [Bool.not_eq_false, h.meets_iff hother] at hmeets
    obtain rfl : other = sound := h.sound_eq hother hs (by omega)
    rw [hturn] at hturns
    exact Bool.false_ne_true hturns
  · rw [← Bool.not_eq_true, isOrphanOf_homecoming]
    rintro ⟨-, other, hother, hhome', hid'⟩
    obtain rfl : other = sound := h.sound_eq hother hs (by omega)
    exact hhome hhome'

/-- **A sound cannot pass its own wall:** it turns there. -/
theorem distance_next_le_wall (h : chamber.Orderly) {sound : Sound} {wall : Wall}
    (hs : sound ∈ chamber.sounds) (hw : wall ∈ chamber.walls) (hid : wall.id = sound.id)
    (hv : sound.velocity = 1) (hturn : sound.turns chamber.walls = false)
    (hle : sound.distance ≤ wall.distance) :
    (sound.next chamber.walls).distance ≤ wall.distance := by
  by_cases hfresh : sound.fresh = true
  · rwa [Sound.next_of_fresh hfresh]
  have hmeets : sound.meets wall = false := by
    simp only [Sound.turns, hv, hfresh, Int.zero_lt_one, decide_true, Bool.not_false,
      Bool.true_and, List.any_eq_false] at hturn
    simpa using hturn wall hw
  have hne : wall.distance ≠ sound.distance := fun heq => by
    rw [← Bool.not_eq_true, h.meets_iff hs] at hmeets
    exact hmeets ⟨h.direction_eq hs hw hid, heq, Or.inr hid⟩
  have := sound.distance_next_le chamber.walls (Int.le_of_eq hv)
  omega

end Orderly

/-! ## Every action keeps a chamber orderly -/

theorem orderly_empty : ({} : Chamber).Orderly := by
  constructor <;> simp

namespace Orderly

variable {chamber : Chamber}

theorem placeWall (h : chamber.Orderly) (direction distance : Nat) :
    (chamber.placeWall direction distance).2.Orderly where
  ids_increase := h.ids_increase
  id_range := h.id_range
  next_range := h.next_range
  wall_ids_nodup := by
    simp only [Chamber.placeWall, List.map_append, List.map_cons, List.map_nil]
    refine List.nodup_append.2 ⟨h.wall_ids_nodup, List.nodup_singleton _, fun id hid new hnew => ?_⟩
    obtain ⟨wall, hwall, rfl⟩ := List.mem_map.1 hid
    obtain rfl := List.mem_singleton.1 hnew
    exact (Int.ne_of_lt (h.next_lt_wall_id wall hwall)).symm
  next_lt_wall_id wall hwall := by
    simp only [Chamber.placeWall, List.mem_append, List.mem_singleton] at hwall ⊢
    rcases hwall with hold | rfl
    · have := h.next_lt_wall_id wall hold
      omega
    · dsimp only
      omega
  nextWallId_neg := by
    have := h.nextWallId_neg
    simp only [Chamber.placeWall]
    omega
  distance_pos := h.distance_pos
  velocity := h.velocity
  owned wall hwall hid := by
    simp only [Chamber.placeWall, List.mem_append, List.mem_singleton] at hwall
    rcases hwall with hold | rfl
    · exact h.owned wall hold hid
    · have := h.nextWallId_neg
      dsimp only at hid
      omega
  kept sound hs hv := by
    obtain ⟨wall, hwall, hw⟩ := h.kept sound hs hv
    exact ⟨wall, List.mem_append_left _ hwall, hw⟩
  unstruck wall hwall := by
    simp only [Chamber.placeWall, List.mem_append, List.mem_singleton] at hwall
    rcases hwall with hold | rfl
    · exact h.unstruck wall hold
    · rfl

/-- Sending takes a sound id, so there has to be one left. -/
theorem send (h : chamber.Orderly) (direction intensity distance : Nat)
    (hroom : chamber.nextSoundId < 2 ^ 63) :
    (chamber.send direction intensity distance).2.Orderly := by
  by_cases hrange : 0 < intensity ∧ intensity < 256
  case neg => rwa [send_of_out_of_range chamber direction distance hrange]
  rw [send_of_in_range chamber direction distance hrange, Wall.personalId_of_lt hroom]
  exact {
    ids_increase := List.pairwise_append.2 ⟨h.ids_increase, List.pairwise_singleton _ _,
      fun sound hsound new hnew => by
        obtain rfl := List.mem_singleton.1 hnew
        exact (h.id_range sound hsound).2⟩
    id_range := fun sound hsound => by
      rcases List.mem_append.1 hsound with hold | hnew
      · have := h.id_range sound hold
        exact ⟨this.1, Nat.lt_succ_of_lt this.2⟩
      · obtain rfl := List.mem_singleton.1 hnew
        exact ⟨h.next_range.1, Nat.lt_succ_self _⟩
    next_range := ⟨Nat.succ_pos _, hroom⟩
    wall_ids_nodup := by
      rw [List.map_append]
      refine List.nodup_append.2
        ⟨h.wall_ids_nodup, List.nodup_singleton _, fun id hid new hnew => ?_⟩
      obtain ⟨wall, hwall, rfl⟩ := List.mem_map.1 hid
      obtain rfl := List.mem_singleton.1 hnew
      -- a wall with the new id would belong to a sound with the new id
      rintro (hid : wall.id = chamber.nextSoundId)
      obtain ⟨sound, hsound, hsoundId, -⟩ := h.owned wall hwall (by omega)
      have := (h.id_range sound hsound).2
      omega
    next_lt_wall_id := fun wall hwall => by
      rcases List.mem_append.1 hwall with hold | hnew
      · exact h.next_lt_wall_id wall hold
      · obtain rfl := List.mem_singleton.1 hnew
        exact Int.lt_of_lt_of_le h.nextWallId_neg (Int.natCast_nonneg _)
    nextWallId_neg := h.nextWallId_neg
    distance_pos := fun sound hsound => by
      rcases List.mem_append.1 hsound with hold | hnew
      · exact h.distance_pos sound hold
      · obtain rfl := List.mem_singleton.1 hnew
        exact Nat.one_pos
    velocity := fun sound hsound => by
      rcases List.mem_append.1 hsound with hold | hnew
      · exact h.velocity sound hold
      · obtain rfl := List.mem_singleton.1 hnew
        exact Or.inl rfl
    owned := fun wall hwall hid => by
      rcases List.mem_append.1 hwall with hold | hnew
      · obtain ⟨sound, hsound, hs⟩ := h.owned wall hold hid
        exact ⟨sound, List.mem_append_left _ hsound, hs⟩
      · obtain rfl := List.mem_singleton.1 hnew
        exact ⟨_, List.mem_append_right _ (List.mem_singleton_self _), rfl, rfl⟩
    kept := fun sound hsound hv => by
      rcases List.mem_append.1 hsound with hold | hnew
      · obtain ⟨wall, hwall, hw⟩ := h.kept sound hold hv
        exact ⟨wall, List.mem_append_left _ hwall, hw⟩
      · obtain rfl := List.mem_singleton.1 hnew
        exact ⟨_, List.mem_append_right _ (List.mem_singleton_self _), rfl, Nat.eq_zero_or_pos _⟩
    unstruck := fun wall hwall => by
      rcases List.mem_append.1 hwall with hold | hnew
      · exact h.unstruck wall hold
      · obtain rfl := List.mem_singleton.1 hnew
        rfl }

/-- **A tick keeps a chamber orderly.** -/
theorem tick (h : chamber.Orderly) : chamber.tick.Orderly where
  ids_increase := by
    rw [sounds_tick]
    refine (List.pairwise_map.2 (h.ids_increase.imp fun hlt => ?_)).filter _
    rwa [Sound.id_next, Sound.id_next]
  id_range sound hsound := by
    obtain ⟨⟨before, hbefore, rfl⟩, -⟩ := mem_sounds_tick.1 hsound
    rw [Sound.id_next]
    exact h.id_range before hbefore
  next_range := h.next_range
  wall_ids_nodup := h.wall_ids_nodup.sublist (map_id_walls_tick_sublist chamber)
  next_lt_wall_id wall hwall := h.next_lt_wall_id wall (of_mem_walls_tick hwall).1
  nextWallId_neg := h.nextWallId_neg
  distance_pos sound hsound := Nat.pos_of_ne_zero (mem_sounds_tick.1 hsound).2
  velocity sound hsound := by
    obtain ⟨⟨before, hbefore, rfl⟩, -⟩ := mem_sounds_tick.1 hsound
    rw [Sound.velocity_next]
    split
    · exact Or.inr rfl
    · exact h.velocity before hbefore
  owned wall hwall hid := by
    obtain ⟨hold, -, horphan⟩ := of_mem_walls_tick hwall
    obtain ⟨sound, hsound, hsoundId, hdirection⟩ := h.owned wall hold hid
    rw [← Bool.not_eq_true, isOrphanOf_homecoming] at horphan
    have hhome : (sound.next chamber.walls).distance ≠ 0 := fun hzero =>
      horphan ⟨hid, sound, hsound, hzero, hsoundId⟩
    refine ⟨_, mem_sounds_tick.2 ⟨⟨sound, hsound, rfl⟩, hhome⟩, ?_, ?_⟩
    · rwa [Sound.id_next]
    · rwa [Sound.direction_next]
  kept sound hsound hv := by
    obtain ⟨⟨before, hbefore, rfl⟩, hhome⟩ := mem_sounds_tick.1 hsound
    rw [Sound.velocity_next] at hv
    have hturn : before.turns chamber.walls = false := by
      by_contra hturns
      rw [Bool.not_eq_false] at hturns
      rw [if_pos hturns] at hv
      omega
    rw [if_neg (by simp [hturn])] at hv
    obtain ⟨wall, hwall, hid, hdistance⟩ := h.kept before hbefore hv
    refine ⟨wall, h.own_wall_mem_tick hbefore hwall hid hturn hhome, by rwa [Sound.id_next], ?_⟩
    exact hdistance.imp id (h.distance_next_le_wall hbefore hwall hid hv hturn)
  unstruck wall hwall := (of_mem_walls_tick hwall).2.1

theorem act (h : chamber.Orderly) (action : Action)
    (hroom : chamber.nextSoundId + sendCount [action] ≤ 2 ^ 63) : (chamber.act action).Orderly := by
  cases action with
  | send direction intensity distance => exact h.send direction intensity distance hroom
  | place direction distance => exact h.placeWall direction distance
  | tick => exact h.tick

/-- **A run keeps a chamber orderly** as long as there are sound ids left. -/
theorem run (h : chamber.Orderly) (actions : List Action)
    (hroom : chamber.nextSoundId + sendCount actions ≤ 2 ^ 63) : (chamber.run actions).Orderly := by
  induction actions generalizing chamber with
  | nil => exact h
  | cons action rest ih =>
    have hact := chamber.nextSoundId_act_le action
    rw [sendCount_cons] at hroom
    refine ih (h.act action ?_) ?_
    · simp only [sendCount_cons, sendCount_nil]
      omega
    · omega

end Orderly

/-- Every run from the empty chamber stays orderly. -/
theorem orderly_after {actions : List Action} (hsends : sendCount actions < 2 ^ 63) :
    (after actions).Orderly :=
  orderly_empty.run actions (by dsimp only; omega)

/-! ## Sounds and walls, counted -/

/-- The sounds that a wall is the personal wall of. -/
def ownersOf (chamber : Chamber) (wall : Wall) : List Sound :=
  chamber.sounds.filter fun sound => (sound.id : Int) = wall.id

/-- The personal walls of a sound. -/
def personalWallsOf (chamber : Chamber) (sound : Sound) : List Wall :=
  chamber.walls.filter fun wall => wall.id = sound.id

/-- **A coherent chamber:** what its ids tie together fits. -/
structure Coherent (chamber : Chamber) : Prop where
  /-- The ids of sounds increase strictly in stored order. -/
  ids_increase : chamber.sounds.Pairwise fun earlier later => earlier.id < later.id
  /-- The ids of sounds are below the next one. -/
  id_lt_next : ∀ sound ∈ chamber.sounds, sound.id < chamber.nextSoundId
  /-- The ids of walls are distinct. -/
  wall_ids_nodup : (chamber.walls.map Wall.id).Nodup
  /-- No sound is home. -/
  distance_pos : ∀ sound ∈ chamber.sounds, 1 ≤ sound.distance
  /-- A sound moves one cell out or one cell back. -/
  velocity : ∀ sound ∈ chamber.sounds, sound.velocity = 1 ∨ sound.velocity = -1
  /-- A personal wall belongs to exactly one sound, in the same direction. -/
  owned : ∀ wall ∈ chamber.walls, 0 ≤ wall.id →
    ∃ sound, chamber.ownersOf wall = [sound] ∧ sound.direction = wall.direction
  /-- A sound has at most one personal wall. -/
  at_most_one : ∀ sound ∈ chamber.sounds, (chamber.personalWallsOf sound).length ≤ 1
  /-- A sound on its way out has exactly one, which stands at the origin or not behind it. -/
  kept : ∀ sound ∈ chamber.sounds, sound.velocity = 1 →
    ∃ wall, chamber.personalWallsOf sound = [wall] ∧
      (wall.distance = 0 ∨ sound.distance ≤ wall.distance)
  /-- No wall is marked. -/
  unstruck : ∀ wall ∈ chamber.walls, wall.struck = false

namespace Orderly

variable {chamber : Chamber}

theorem ownersOf_eq (h : chamber.Orderly) {sound : Sound} {wall : Wall}
    (hs : sound ∈ chamber.sounds) (hid : (sound.id : Int) = wall.id) :
    chamber.ownersOf wall = [sound] := by
  have hnodup : chamber.sounds.Nodup := h.ids_increase.imp fun hlt heq => by
    rw [heq] at hlt
    exact Nat.lt_irrefl _ hlt
  refine filter_eq_singleton hnodup hs fun other hother => ?_
  rw [decide_eq_true_iff]
  exact ⟨fun hother' => h.sound_eq hother hs (by omega), fun heq => heq ▸ hid⟩

theorem personalWallsOf_eq (h : chamber.Orderly) {sound : Sound} {wall : Wall}
    (hw : wall ∈ chamber.walls) (hid : wall.id = sound.id) :
    chamber.personalWallsOf sound = [wall] := by
  refine filter_eq_singleton (h.wall_ids_nodup.of_map _) hw fun other hother => ?_
  rw [decide_eq_true_iff]
  exact ⟨fun hother' => h.wall_eq hother hw (by omega), fun heq => heq ▸ hid⟩

/-- **An orderly chamber is coherent.** -/
theorem coherent (h : chamber.Orderly) : chamber.Coherent where
  ids_increase := h.ids_increase
  id_lt_next sound hs := (h.id_range sound hs).2
  wall_ids_nodup := h.wall_ids_nodup
  distance_pos := h.distance_pos
  velocity := h.velocity
  owned wall hw hid := by
    obtain ⟨sound, hs, hsoundId, hdirection⟩ := h.owned wall hw hid
    exact ⟨sound, h.ownersOf_eq hs hsoundId, hdirection⟩
  at_most_one sound _ := by
    cases hwalls : chamber.personalWallsOf sound with
    | nil => exact Nat.zero_le 1
    | cons wall rest =>
      have hmem : wall ∈ chamber.personalWallsOf sound := hwalls ▸ List.mem_cons_self
      obtain ⟨hw, hid⟩ := List.mem_filter.1 hmem
      rw [← hwalls, h.personalWallsOf_eq hw (of_decide_eq_true hid)]
      exact Nat.le_refl 1
  kept sound hs hv := by
    obtain ⟨wall, hw, hid, hdistance⟩ := h.kept sound hs hv
    exact ⟨wall, h.personalWallsOf_eq hw hid, hdistance⟩
  unstruck := h.unstruck

end Orderly

/-- **Every run leaves a coherent chamber.** -/
theorem coherent_after {actions : List Action} (hsends : sendCount actions < 2 ^ 63) :
    (after actions).Coherent :=
  (orderly_after hsends).coherent

/-- Two sounds meet one structural wall, a third is on its way out behind it. -/
theorem coherent_after_shared_wall :
    let actions := [.place 0 2, .send 0 100 2, .send 0 200 5, .tick, .send 0 7 4, .tick, .tick,
      .place 0 1]
    sendCount actions < 2 ^ 63 ∧ (after actions).sounds.map Sound.velocity = [-1, -1, 1] ∧
      (after actions).walls.map Wall.id = [1, 2, 3, -2] ∧ (after actions).Coherent :=
  ⟨by decide, by decide, by decide, coherent_after (by decide)⟩

end Chamber

end Reverb
