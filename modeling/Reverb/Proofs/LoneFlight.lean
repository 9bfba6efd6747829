import Mathlib.Logic.Function.Iterate
import Mathlib.Order.Bounds.Basic
import Reverb.Proofs.Orderly

/-!
# Proofs/LoneFlight — a sound among walls that stay

In a chamber ticks take walls away, and a sound can find a wall gone that stood in its way.  Left to
itself among walls that stay, it flies out to the nearest barrier, the first cell with a wall that
reflects it, and from there home, and all that it leaves is a mark on one wall.  Where there is no
barrier it flies out to the end of the range and stays there.  Either way its place is a closed form
of the number of steps (`Sound.flies_alone`).

Up to the turn nothing is marked, so the steps before it are told by the walls at the start
(`Sound.course_of_free`), and from the turn on the sound does not look at walls
(`Sound.course_of_turned`).  Marks of earlier flights never come into it.
-/

namespace Reverb

/-! ## The first wall that is picked -/

/-- **Where a wall is picked,** the first one is struck and all others stay as they are. -/
theorem Wall.exists_strikeFirst_eq {hit : Wall → Bool} {walls : List Wall}
    (h : walls.any hit = true) : ∃ front wall rest, walls = front ++ wall :: rest ∧
      hit wall = true ∧ (∀ other ∈ front, hit other = false) ∧
        strikeFirst hit walls = front ++ { wall with struck := true } :: rest := by
  induction walls with
  | nil => cases h
  | cons wall rest ih =>
    rw [strikeFirst]
    by_cases hwall : hit wall = true
    · rw [if_pos hwall]
      exact ⟨[], wall, rest, rfl, hwall, List.forall_mem_nil _, rfl⟩
    · have hrest : rest.any hit = true := by simpa [hwall] using h
      obtain ⟨front, picked, behind, rfl, hpicked, hfront, hstrike⟩ := ih hrest
      rw [if_neg hwall, hstrike]
      exact ⟨wall :: front, picked, behind, rfl, hpicked,
        List.forall_mem_cons.2 ⟨by simpa using hwall, hfront⟩, rfl⟩

namespace Sound

/-! ## The course of a sound -/

/-- **The sound and the walls after `n` steps;** no wall is taken away. -/
def course (sound : Sound) (walls : List Wall) (n : Nat) : Sound × List Wall :=
  (Function.uncurry advance)^[n] (sound, walls)

/-- The wall reflects a sound at distance `b`. -/
def IsBarrier (sound : Sound) (b : Nat) (wall : Wall) : Prop :=
  wall.direction = sound.direction ∧ wall.distance = b ∧ wall.reflects sound.id = true

instance (sound : Sound) (b : Nat) (wall : Wall) : Decidable (sound.IsBarrier b wall) :=
  inferInstanceAs (Decidable (_ ∧ _ ∧ _))

/-- The distances off the origin at which walls reflect a sound. -/
def barriers (sound : Sound) (walls : List Wall) : Set Nat :=
  {b | 1 ≤ b ∧ ∃ wall ∈ walls, sound.IsBarrier b wall}

variable {sound : Sound} {walls : List Wall} {b n : Nat}

theorem course_succ (sound : Sound) (walls : List Wall) (n : Nat) :
    sound.course walls (n + 1)
      = (sound.course walls n).1.advance (sound.course walls n).2 :=
  Function.iterate_succ_apply' _ n _

/-- The sound after `n` steps outward. -/
def outbound (sound : Sound) (n : Nat) : Sound :=
  { sound with distance := min (max n 1) maxDistance, velocity := 1, fresh := n == 0 }

/-- The sound on its way home, at a distance. -/
def inbound (sound : Sound) (distance : Nat) : Sound :=
  { sound with distance, velocity := -1, fresh := false }

theorem meets_outbound {wall : Wall} :
    (sound.outbound n).meets wall = true ↔ sound.IsBarrier (min (max n 1) maxDistance) wall := by
  simp [meets, IsBarrier, outbound, and_assoc]

/-- A sound on its way out turns at a barrier, once it is not fresh any more. -/
theorem turns_outbound (hn : 0 < n) : (sound.outbound n).turns walls = true ↔
    ∃ wall ∈ walls, sound.IsBarrier (min (max n 1) maxDistance) wall := by
  have hfresh : (n == 0) = false := beq_eq_false_iff_ne.2 (Nat.ne_of_gt hn)
  have houtward : ((sound.outbound n).turns walls) = walls.any (sound.outbound n).meets := by
    simp [turns, outbound, hfresh]
  simp only [houtward, List.any_eq_true, meets_outbound]

/-- At a barrier the first wall that reflects the sound is marked. -/
theorem exists_strikeFirst_outbound (hbarrier : ∃ wall ∈ walls, sound.IsBarrier b wall)
    (hpos : 1 ≤ b) (hmax : b ≤ maxDistance) : ∃ front wall rest, walls = front ++ wall :: rest ∧
      sound.IsBarrier b wall ∧ (∀ other ∈ front, ¬sound.IsBarrier b other) ∧
        Wall.strikeFirst (sound.outbound b).meets walls
          = front ++ { wall with struck := true } :: rest := by
  have hmeets : ∀ wall, (sound.outbound b).meets wall = true ↔ sound.IsBarrier b wall :=
    fun wall => by rw [meets_outbound, show min (max b 1) maxDistance = b by omega]
  have hany : walls.any (sound.outbound b).meets = true := by
    simpa only [List.any_eq_true, hmeets] using hbarrier
  obtain ⟨front, wall, rest, hwalls, hwall, hfront, hstrike⟩ := Wall.exists_strikeFirst_eq hany
  refine ⟨front, wall, rest, hwalls, (hmeets wall).1 hwall, fun other hother hopen => ?_, hstrike⟩
  exact Bool.false_ne_true ((hfront other hother).symm.trans ((hmeets other).2 hopen))

/-- A step outward. -/
theorem advance_outbound (h : (sound.outbound n).turns walls = false) :
    (sound.outbound n).advance walls = (sound.outbound (n + 1), walls) := by
  rw [advance, strike, if_neg (by simp [h])]
  refine congrArg (·, walls) ?_
  cases n with
  | zero => exact next_of_fresh rfl walls
  | succ n =>
    have hmoved : moved (min (max (n + 1) 1) maxDistance) 1
        = min (max (n + 1 + 1) 1) maxDistance := by
      rw [moved]
      omega
    rw [next_of_not_turns rfl h]
    simp only [outbound, hmoved]
    rfl

/-- **As long as no barrier is passed** the sound moves outward, and no wall changes. -/
theorem course_of_free (hn : ∀ b ∈ sound.barriers walls, n ≤ b) :
    (sound.outbound 0).course walls n = (sound.outbound n, walls) := by
  induction n with
  | zero => rfl
  | succ n ih =>
    rw [course_succ, ih fun b hb => Nat.le_of_succ_le (hn b hb)]
    refine advance_outbound (Bool.eq_false_iff.2 fun hturns => ?_)
    -- a fresh sound does not turn, and any other one would turn at a barrier that it has passed
    rcases Nat.eq_zero_or_pos n with rfl | hpos
    · cases hturns
    · obtain ⟨wall, hwall, hbarrier⟩ := (turns_outbound hpos).1 hturns
      have hle := hn _ ⟨by rw [maxDistance, UInt32.size]; omega, wall, hwall, hbarrier⟩
      omega

/-- A step on the way home. -/
theorem advance_inbound {distance : Nat} (hmax : distance ≤ maxDistance) (walls : List Wall) :
    (sound.inbound distance).advance walls = (sound.inbound (distance - 1), walls) := by
  have hturns : (sound.inbound distance).turns walls = false := by simp [turns, inbound]
  rw [advance, strike, if_neg (by simp [hturns]), next_of_not_turns rfl hturns]
  simp [inbound, moved_neg_one hmax]

/-- **From the nearest barrier on** the sound moves homeward, and the first wall there is marked. -/
theorem course_of_turned (hb : IsLeast (sound.barriers walls) b) (hmax : b ≤ maxDistance)
    (n : Nat) : (sound.outbound 0).course walls (b + 1 + n)
      = (sound.inbound (b - 1 - n), Wall.strikeFirst (sound.outbound b).meets walls) := by
  obtain ⟨⟨hpos, hbarrier⟩, hleast⟩ := hb
  have hplace : min (max b 1) maxDistance = b := by omega
  induction n with
  | zero =>
    have hturns : (sound.outbound b).turns walls = true :=
      (turns_outbound hpos).2 (hplace.symm ▸ hbarrier)
    rw [Nat.add_zero, course_succ, course_of_free fun _ hother => hleast hother, advance, strike,
      if_pos hturns, next_of_turns hturns]
    have hfresh : (b == 0) = false := beq_eq_false_iff_ne.2 (Nat.ne_of_gt hpos)
    simp [outbound, inbound, hplace, hfresh, moved_neg_one hmax]
  | succ n ih =>
    rw [← Nat.add_assoc, course_succ, ih, advance_inbound (by omega)]
    rfl

/-! ## Flights with and without a turn -/

/-- **There and back:** what has become of a sound and its walls after `n` steps, if it turns at
distance `b`. -/
structure IsReturn (sound : Sound) (walls : List Wall) (b n : Nat) (after : Sound)
    (left : List Wall) : Prop where
  distance_out : n ≤ b → after.distance = max n 1
  distance_back : b ≤ n → n ≤ 2 * b → after.distance = 2 * b - n
  distance_home : 2 * b ≤ n → after.distance = 0
  velocity_out : n ≤ b → after.velocity = 1
  velocity_back : b < n → after.velocity = -1
  /-- Up to the turn no wall changes. -/
  walls_out : n ≤ b → left = walls
  /-- From the turn on the first of the walls that reflect the sound there is marked. -/
  walls_back : b < n → ∃ front wall rest, walls = front ++ wall :: rest ∧
    sound.IsBarrier b wall ∧ (∀ other ∈ front, ¬sound.IsBarrier b other) ∧
      left = front ++ { wall with struck := true } :: rest
  /-- The sound stays the same otherwise. -/
  same : after = { sound with
    distance := after.distance, velocity := after.velocity, fresh := n == 0 }

/-- **Out and on:** what has become of a sound and its walls after `n` steps, if nothing turns
it. -/
structure IsDeparture (sound : Sound) (walls : List Wall) (n : Nat) (after : Sound)
    (left : List Wall) : Prop where
  distance : after.distance = min (max n 1) maxDistance
  velocity : after.velocity = 1
  walls : left = walls
  away : after.isHome = false
  same : after = { sound with
    distance := after.distance, velocity := after.velocity, fresh := n == 0 }

theorem isReturn_course (hb : IsLeast (sound.barriers walls) b) (hmax : b ≤ maxDistance) (n : Nat) :
    sound.IsReturn walls b n ((sound.outbound 0).course walls n).1
      ((sound.outbound 0).course walls n).2 := by
  have hpos : 1 ≤ b := hb.1.1
  rcases Nat.lt_or_ge b n with hlt | hle
  · obtain ⟨k, rfl⟩ := Nat.exists_eq_add_of_le hlt
    rw [Nat.succ_eq_add_one, course_of_turned hb hmax]
    exact {
      distance_out := fun h => absurd h (by omega)
      distance_back := fun _ _ => show b - 1 - k = _ by omega
      distance_home := fun _ => show b - 1 - k = 0 by omega
      velocity_out := fun h => absurd h (by omega)
      velocity_back := fun _ => rfl
      walls_out := fun h => absurd h (by omega)
      walls_back := fun _ => exists_strikeFirst_outbound hb.1.2 hpos hmax
      same := by simp [inbound] }
  · have hplace : min (max n 1) maxDistance = max n 1 := by omega
    rw [course_of_free fun other hother => Nat.le_trans hle (hb.2 hother)]
    exact {
      distance_out := fun _ => hplace
      distance_back := fun hge _ => hplace.trans (by omega)
      distance_home := fun h => absurd h (by omega)
      velocity_out := fun _ => rfl
      velocity_back := fun h => absurd h (by omega)
      walls_out := fun _ => rfl
      walls_back := fun h => absurd h (by omega)
      same := rfl }

theorem isDeparture_course (hnone : sound.barriers walls = ∅) (n : Nat) :
    sound.IsDeparture walls n ((sound.outbound 0).course walls n).1
      ((sound.outbound 0).course walls n).2 := by
  have hfree : ∀ b ∈ sound.barriers walls, n ≤ b := by simp [hnone]
  rw [course_of_free hfree]
  refine ⟨rfl, rfl, rfl, ?_, rfl⟩
  simp only [isHome, outbound, beq_eq_false_iff_ne]
  rw [maxDistance, UInt32.size]
  omega

/-- **The flight of a lone sound,** among its own wall and any others within the range of
distances. -/
theorem flies_alone (id direction : Nat) (intensity : UInt8) {distance : Nat} {others : List Wall}
    (hdistance : distance ≤ maxDistance) (hothers : ∀ wall ∈ others, wall.distance ≤ maxDistance)
    (n : Nat) :
    let sound := sent id direction intensity
    let walls := others ++ [sound.personalWall distance]
    let flown := sound.course walls n
    (∀ b, IsLeast (sound.barriers walls) b → sound.IsReturn walls b n flown.1 flown.2) ∧
      (sound.barriers walls = ∅ → sound.IsDeparture walls n flown.1 flown.2) := by
  intro sound walls flown
  have hmax : ∀ wall ∈ walls, wall.distance ≤ maxDistance :=
    List.forall_mem_append.2 ⟨hothers, List.forall_mem_singleton.2 hdistance⟩
  refine ⟨fun b hb => isReturn_course hb ?_ n, fun hnone => isDeparture_course hnone n⟩
  obtain ⟨wall, hwall, -, rfl, -⟩ := hb.1.2
  exact hmax wall hwall

/-- Between a wall of another sound and its own, which is structural because its id is so large, a
sound turns at the first of two walls in one cell. -/
theorem flies_alone_shared_cell :
    let sound := sent (2 ^ 63) 2 40
    let others : List Wall := [⟨7, 2, 1, false⟩, ⟨-1, 2, 3, false⟩, ⟨-2, 2, 3, true⟩, ⟨-3, 1, 2, false⟩]
    let walls := others ++ [sound.personalWall 5]
    let flown := sound.course walls 5
    (∀ wall ∈ others, wall.distance ≤ maxDistance) ∧ IsLeast (sound.barriers walls) 3 ∧
      flown.1.distance = 1 ∧ flown.1.velocity = -1 ∧ sound.IsReturn walls 3 5 flown.1 flown.2 := by
  intro sound others walls flown
  have hothers : ∀ wall ∈ others, wall.distance ≤ maxDistance := by decide
  have hleast : IsLeast (sound.barriers walls) 3 := by
    refine ⟨⟨by decide, ⟨-1, 2, 3, false⟩, by decide, by decide⟩, ?_⟩
    rintro _ ⟨hpos, wall, hwall, hdirection, rfl, hreflects⟩
    have hnear : ∀ wall ∈ walls, sound.IsBarrier wall.distance wall →
        wall.distance = 0 ∨ 3 ≤ wall.distance := by decide
    have := hnear wall hwall ⟨hdirection, rfl, hreflects⟩
    omega
  have hreturn := (flies_alone (2 ^ 63) 2 40 (by decide) hothers 5).1 3 hleast
  exact ⟨hothers, hleast, hreturn.distance_back (by decide) (by decide),
    hreturn.velocity_back (by decide), hreturn⟩

end Sound

end Reverb
