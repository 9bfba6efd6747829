import Mathlib.Algebra.BigOperators.Group.List.Basic
import Mathlib.Algebra.Ring.Nat
import Mathlib.Data.List.Perm.Basic
import Reverb.Proofs.Tick

/-!
# Proofs/Simultaneous — a tick of any chamber, said at once

`Proofs/Tick` reads a tick off the chamber before it, one observation at a time.  Here the whole of
it is one statement about any sounds and walls whatsoever (`Chamber.tick_simultaneous`): the sounds
take their steps among the walls at the start, the walls that go are named by their places in the
list at the start, and the sum is that of what came home.

None of this depends on the order in which the sounds stand.  So a tick of the same sounds in
another order gives the same sounds in another order, the same walls and the same sum.
-/

namespace Reverb

/-! ## The place at which a sound turns -/

namespace Sound

/-- **The sound turns at place `i` of the walls:** it was not sent since the last tick, it moves
outward, and the wall at this place is the first in its cell that reflects it. -/
structure TurnsAt (sound : Sound) (walls : List Wall) (i : Nat) : Prop where
  not_fresh : sound.fresh = false
  outward : 0 < sound.velocity
  reflected : ∃ wall, walls[i]? = some wall ∧ sound.meets wall = true
  first : ∀ j < i, ∀ wall, walls[j]? = some wall → sound.meets wall = false

/-- The place at which a sound turns is the one at which it strikes. -/
theorem strikesAt_iff_turnsAt {sound : Sound} {walls : List Wall} {i : Nat} :
    sound.strikesAt walls i = true ↔ sound.TurnsAt walls i := by
  simp only [strikesAt, turns, Bool.and_eq_true, Bool.not_eq_true', decide_eq_true_eq, beq_iff_eq]
  constructor
  · rintro ⟨⟨⟨hfresh, hout⟩, hany⟩, rfl⟩
    have hlt : walls.findIdx sound.meets < walls.length :=
      List.findIdx_lt_length_of_exists (List.any_eq_true.1 hany)
    refine ⟨hfresh, hout, ⟨_, List.getElem?_eq_getElem hlt, List.findIdx_getElem⟩, ?_⟩
    intro j hj wall hwall
    obtain ⟨hjlt, rfl⟩ := List.getElem?_eq_some_iff.1 hwall
    exact List.not_of_lt_findIdx hj
  · rintro ⟨hfresh, hout, ⟨wall, hwall, hmeets⟩, hfirst⟩
    obtain ⟨hlt, rfl⟩ := List.getElem?_eq_some_iff.1 hwall
    refine ⟨⟨⟨hfresh, hout⟩, List.any_eq_true.2 ⟨_, List.getElem_mem hlt, hmeets⟩⟩, ?_⟩
    refine (List.findIdx_eq hlt).2 ⟨hmeets, fun j hj => ?_⟩
    exact hfirst j hj _ (List.getElem?_eq_getElem (Nat.lt_trans hj hlt))

instance (sound : Sound) (walls : List Wall) (i : Nat) : Decidable (sound.TurnsAt walls i) :=
  decidable_of_iff _ strikesAt_iff_turnsAt

end Sound

namespace Chamber

variable {chamber other : Chamber} {wall : Wall} {i : Nat}

/-! ## The update -/

/-- **A wall stays at its place of the list:** it carries no mark, no sound turns at it, and it is
not the personal wall of a sound that comes home. -/
def Stays (chamber : Chamber) (wall : Wall) (i : Nat) : Prop :=
  wall.struck = false ∧ (∀ sound ∈ chamber.sounds, ¬sound.TurnsAt chamber.walls i) ∧
    ¬(0 ≤ wall.id ∧ ∃ sound ∈ chamber.homecoming, (sound.id : Int) = wall.id)

instance (chamber : Chamber) (wall : Wall) (i : Nat) : Decidable (chamber.Stays wall i) :=
  inferInstanceAs (Decidable (_ ∧ _ ∧ _))

/-- **One chamber is the simultaneous update of another.** -/
structure IsUpdate (before after : Chamber) : Prop where
  /-- The sounds after their steps but for those that are home, in their old order. -/
  sounds : after.sounds = (before.sounds.map fun sound => (sound.advance before.walls).1).filter
    fun sound => sound.distance ≠ 0
  /-- The walls that stay, in their old order and as they were. -/
  walls : after.walls
    = (before.walls.zipIdx.filter fun placed => before.Stays placed.1 placed.2).map Prod.fst
  /-- What comes home, modulo 256. -/
  sum : after.sum.toNat = (before.homecoming.map fun sound => sound.intensity.toNat).sum % 256
  /-- No id is given out. -/
  ids : after.nextSoundId = before.nextSoundId ∧ after.nextWallId = before.nextWallId

/-! ## A tick is an update -/

theorem loudness_eq_sum_map (sounds : List Sound) :
    loudness sounds = (sounds.map fun sound => sound.intensity.toNat).sum := by
  induction sounds with
  | nil => rfl
  | cons sound rest ih =>
    rw [List.map_cons, List.sum_cons, ← ih]
    rfl

/-- **The walls after the steps:** each with a mark if a sound turns at its place. -/
theorem snd_advanceAll (sounds : List Sound) (walls : List Wall) :
    (advanceAll sounds walls).2 = walls.zipIdx.map fun placed =>
      placed.1.mark (sounds.any fun sound => sound.strikesAt walls placed.2) := by
  refine List.ext_getElem? fun i => ?_
  rw [getElem?_advanceAll, List.getElem?_map, List.getElem?_zipIdx, Option.map_map, Nat.zero_add]
  rfl

/-- A wall stays if the steps leave it without a mark and without being an orphan. -/
theorem stays_iff : chamber.Stays wall i ↔
    (wall.mark (chamber.sounds.any fun sound => sound.strikesAt chamber.walls i)).struck = false ∧
      isOrphanOf chamber.homecoming wall = false := by
  rw [Stays, Wall.mark, Bool.or_eq_false_iff, List.any_eq_false, and_assoc,
    ← isOrphanOf_iff, Bool.not_eq_true]
  simp only [Sound.strikesAt_iff_turnsAt]

/-- **The walls that stay** are those that a tick leaves. -/
theorem walls_tick_eq_filter (chamber : Chamber) : chamber.tick.walls
    = (chamber.walls.zipIdx.filter fun placed => chamber.Stays placed.1 placed.2).map Prod.fst := by
  rw [walls_tick, snd_advanceAll, List.filter_map]
  refine Eq.trans (congrArg _ (List.filter_congr fun placed _ => ?_))
    (List.map_congr_left fun placed hplaced => ?_)
  · rw [Bool.eq_iff_iff, decide_eq_true_iff, stays_iff]
    simp only [Function.comp_apply, Bool.not_eq_true', Bool.or_eq_false_iff]
    rfl
  · have hstays := stays_iff.1 (of_decide_eq_true (List.mem_filter.1 hplaced).2)
    have hunmarked := (Bool.or_eq_false_iff.1 hstays.1).2
    rw [hunmarked, Wall.mark_false]

theorem isUpdate_tick (chamber : Chamber) : chamber.IsUpdate chamber.tick where
  sounds := by
    rw [sounds_tick]
    refine List.filter_congr fun sound _ => ?_
    rw [Sound.isHome, decide_not, beq_eq_decide]
  walls := walls_tick_eq_filter chamber
  sum := by rw [sum_tick, UInt8.toNat_ofNat', loudness_eq_sum_map]
  ids := ⟨rfl, rfl⟩

/-! ## The order of the sounds does not matter -/

theorem homecoming_perm (hsounds : other.sounds.Perm chamber.sounds)
    (hwalls : other.walls = chamber.walls) : other.homecoming.Perm chamber.homecoming := by
  rw [homecoming, homecoming, hwalls]
  exact (hsounds.map _).filter _

/-- A wall stays among the same sounds in another order. -/
theorem stays_congr (hsounds : other.sounds.Perm chamber.sounds)
    (hwalls : other.walls = chamber.walls) : other.Stays wall i ↔ chamber.Stays wall i := by
  simp only [Stays, hwalls, hsounds.mem_iff, (homecoming_perm hsounds hwalls).mem_iff]

/-- **A tick is a simultaneous update,** and in which order the sounds stand decides only in which
order they stand after it. -/
theorem tick_simultaneous (chamber : Chamber) :
    (advanceAll chamber.sounds chamber.walls).1
        = (chamber.sounds.map fun sound => (sound.advance chamber.walls).1) ∧
      chamber.IsUpdate chamber.tick ∧
      ∀ other : Chamber, other.sounds.Perm chamber.sounds → other.walls = chamber.walls →
        other.tick.sounds.Perm chamber.tick.sounds ∧ other.tick.walls = chamber.tick.walls ∧
          other.tick.sum = chamber.tick.sum := by
  refine ⟨fst_advanceAll _ _, chamber.isUpdate_tick, fun other hsounds hwalls => ⟨?_, ?_, ?_⟩⟩
  · rw [sounds_tick, sounds_tick, hwalls]
    exact (hsounds.map _).filter _
  · rw [walls_tick_eq_filter, walls_tick_eq_filter, hwalls]
    simp only [stays_congr hsounds hwalls]
  · have hsum := ((homecoming_perm hsounds hwalls).map fun sound => sound.intensity.toNat).sum_eq
    rw [sum_tick, sum_tick, loudness_eq_sum_map, loudness_eq_sum_map, hsum]

/-- Two sounds of one id turn at a wall that is marked already, one comes home fast, one is home
before it moves, and one stays at the end of the range. -/
theorem tick_simultaneous_reversed :
    let chamber : Chamber :=
      { sounds := [⟨3, 0, 200, 2, 5, false⟩, ⟨3, 0, 100, 2, 1, false⟩,
          ⟨2 ^ 64 - 1, 1, 7, maxDistance, 9, false⟩, ⟨4, 2, 190, 1, -3, false⟩,
          ⟨8, 2, 70, 0, 0, true⟩]
        walls := [⟨7, 0, 2, false⟩, ⟨3, 0, 2, true⟩, ⟨-1, 0, 2, false⟩, ⟨4, 0, 9, false⟩,
          ⟨6, 3, 1, true⟩] }
    let other := { chamber with sounds := chamber.sounds.reverse, sum := 250 }
    (other.sounds.Perm chamber.sounds ∧ other.walls = chamber.walls) ∧
      chamber.tick.sounds = [⟨3, 0, 200, 1, -1, false⟩, ⟨3, 0, 100, 1, -1, false⟩,
        ⟨2 ^ 64 - 1, 1, 7, maxDistance, 9, false⟩] ∧
      chamber.tick.walls = [⟨7, 0, 2, false⟩, ⟨-1, 0, 2, false⟩] ∧ chamber.tick.sum = 4 ∧
      other.tick.sounds.Perm chamber.tick.sounds ∧ other.tick.walls = chamber.tick.walls ∧
        other.tick.sum = chamber.tick.sum := by
  intro chamber other
  have hsounds : other.sounds.Perm chamber.sounds := List.reverse_perm chamber.sounds
  exact ⟨⟨hsounds, rfl⟩, by decide, by decide, by decide,
    (tick_simultaneous chamber).2.2 other hsounds rfl⟩

end Chamber

end Reverb
