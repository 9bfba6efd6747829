import Reverb.Wall

/-!
# Sound — a particle on its way out and back

A sound starts one cell from the origin and moves outward, one cell a tick.  Where it meets a wall
that turns it, it starts on its way back, and at distance 0 it is home: it is absorbed.  In the tick
after it was sent it stays where it is.  Distances never leave the range from 0 to `maxDistance`; a
sound that would go further stays at the end of the range.
-/

namespace Reverb

/-- The largest distance. -/
def maxDistance : Nat := UInt32.size - 1

/-- A sound; `fresh` says that it was sent since the last tick. -/
structure Sound where
  id : Nat
  direction : Nat
  intensity : UInt8
  distance : Nat
  velocity : Int
  fresh : Bool := false
  deriving DecidableEq

namespace Sound

/-- A sound as it is sent. -/
def sent (id direction : Nat) (intensity : UInt8) : Sound :=
  ⟨id, direction, intensity, 1, 1, true⟩

/-- The personal wall of a sound, at a distance. -/
def personalWall (sound : Sound) (distance : Nat) : Wall :=
  { id := Wall.personalId sound.id, direction := sound.direction, distance }

/-- The sound stands at the wall, and the wall turns it. -/
def meets (sound : Sound) (wall : Wall) : Bool :=
  wall.direction == sound.direction && wall.distance == sound.distance && wall.reflects sound.id

/-- The sound turns in this tick: it moves outward and stands at a wall that turns it. -/
def turns (sound : Sound) (walls : List Wall) : Bool :=
  !sound.fresh && decide (0 < sound.velocity) && walls.any sound.meets

/-- The distance after one move. -/
def moved (distance : Nat) (velocity : Int) : Nat := min maxDistance (distance + velocity).toNat

/-- The sound after a tick among these walls. -/
def next (sound : Sound) (walls : List Wall) : Sound :=
  if sound.fresh then { sound with fresh := false }
  else
    let velocity := if sound.turns walls then -1 else sound.velocity
    { sound with velocity, distance := moved sound.distance velocity }

/-- The walls after a tick of the sound: the first one it meets is struck if it turns. -/
def strike (sound : Sound) (walls : List Wall) : List Wall :=
  if sound.turns walls then Wall.strikeFirst sound.meets walls else walls

/-- **One tick of a sound among walls.** -/
def advance (sound : Sound) (walls : List Wall) : Sound × List Wall :=
  (sound.next walls, sound.strike walls)

/-- The sound is back at the origin. -/
def isHome (sound : Sound) : Bool := sound.distance == 0

theorem next_of_fresh {sound : Sound} (h : sound.fresh = true) (walls : List Wall) :
    sound.next walls = { sound with fresh := false } := by
  rw [next, if_pos h]

theorem turns_of_fresh {sound : Sound} (h : sound.fresh = true) (walls : List Wall) :
    sound.turns walls = false := by
  simp [turns, h]

theorem moved_le (distance : Nat) (velocity : Int) : moved distance velocity ≤ maxDistance :=
  Nat.min_le_left _ _

/-- Within the range a sound moves by its velocity. -/
theorem moved_one {distance : Nat} (h : distance < maxDistance) : moved distance 1 = distance + 1 := by
  rw [moved]
  omega

theorem moved_neg_one {distance : Nat} (h : distance ≤ maxDistance) :
    moved distance (-1) = distance - 1 := by
  rw [moved]
  omega

@[simp] theorem id_next (sound : Sound) (walls : List Wall) : (sound.next walls).id = sound.id := by
  rw [next]
  split <;> rfl

@[simp] theorem direction_next (sound : Sound) (walls : List Wall) :
    (sound.next walls).direction = sound.direction := by
  rw [next]
  split <;> rfl

@[simp] theorem intensity_next (sound : Sound) (walls : List Wall) :
    (sound.next walls).intensity = sound.intensity := by
  rw [next]
  split <;> rfl

@[simp] theorem fresh_next (sound : Sound) (walls : List Wall) :
    (sound.next walls).fresh = false := by
  rw [next]
  split
  · rfl
  · next h => simpa using h

end Sound

end Reverb
