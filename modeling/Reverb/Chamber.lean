import Reverb.Sound

/-!
# Chamber — all sounds and walls, and the sound sum

The chamber keeps its sounds and its walls in the order in which they came; the order decides at
which of several walls in one cell a sound turns.  A tick lets every sound take its step among the
walls, absorbs the sounds that are home, and takes away the walls that were struck and the personal
walls of absorbed sounds.  The sound sum is what was absorbed in the last tick, modulo 256.
-/

namespace Reverb

/-- The sounds and walls of a simulation, and the ids that come next. -/
structure Chamber where
  sounds : List Sound := []
  walls : List Wall := []
  sum : UInt8 := 0
  nextSoundId : Nat := 1
  nextWallId : Int := -1
  deriving DecidableEq

namespace Chamber

/-! ## Sounds and walls come in -/

/-- Send a sound, with its personal wall at a distance.  An intensity of 0 or above 255 sends
nothing.  Gives the sound's id. -/
def send (chamber : Chamber) (direction intensity distance : Nat) : Option Nat × Chamber :=
  if 0 < intensity ∧ intensity < 256 then
    let sound := Sound.sent chamber.nextSoundId direction (UInt8.ofNat intensity)
    (some sound.id,
      { chamber with
        sounds := chamber.sounds ++ [sound]
        walls := chamber.walls ++ [sound.personalWall distance]
        nextSoundId := chamber.nextSoundId + 1 })
  else (none, chamber)

/-- Place a structural wall.  Gives its id. -/
def placeWall (chamber : Chamber) (direction distance : Nat) : Int × Chamber :=
  (chamber.nextWallId,
    { chamber with
      walls := chamber.walls ++ [{ id := chamber.nextWallId, direction, distance }]
      nextWallId := chamber.nextWallId - 1 })

/-- Send a sound in each of some directions. -/
def sendAll (chamber : Chamber) (directions : List Nat) (intensity distance : Nat) : Chamber :=
  directions.foldl (fun chamber direction => (chamber.send direction intensity distance).2) chamber

/-- Place a wall in each of some directions. -/
def placeWalls (chamber : Chamber) (directions : List Nat) (distance : Nat) : Chamber :=
  directions.foldl (fun chamber direction => (chamber.placeWall direction distance).2) chamber

/-! ## Ticks -/

/-- Every sound takes its step, one after the other; each finds the walls as the one before left
them. -/
def advanceAll : List Sound → List Wall → List Sound × List Wall
  | [], walls => ([], walls)
  | sound :: rest, walls =>
    let (sound, walls) := sound.advance walls
    let (rest, walls) := advanceAll rest walls
    (sound :: rest, walls)

/-- The summed intensities of some sounds. -/
def loudness (sounds : List Sound) : Nat :=
  sounds.foldr (fun sound total => sound.intensity.toNat + total) 0

/-- The wall is the personal wall of one of the sounds. -/
def isOrphanOf (absorbed : List Sound) (wall : Wall) : Bool :=
  !wall.isStructural && absorbed.any fun sound => sound.id == wall.id.toNat

/-- **One tick.** -/
def tick (chamber : Chamber) : Chamber :=
  let (sounds, walls) := advanceAll chamber.sounds chamber.walls
  let absorbed := sounds.filter Sound.isHome
  { chamber with
    sounds := sounds.filter fun sound => !sound.isHome
    walls := walls.filter fun wall => !(wall.struck || isOrphanOf absorbed wall)
    sum := UInt8.ofNat (loudness absorbed) }

/-- A number of ticks. -/
def ticks (chamber : Chamber) : Nat → Chamber
  | 0 => chamber
  | n + 1 => chamber.tick.ticks n

theorem send_of_out_of_range (chamber : Chamber) (direction distance : Nat) {intensity : Nat}
    (h : ¬(0 < intensity ∧ intensity < 256)) :
    chamber.send direction intensity distance = (none, chamber) := by
  rw [send, if_neg h]

@[simp] theorem nextSoundId_tick (chamber : Chamber) :
    chamber.tick.nextSoundId = chamber.nextSoundId := rfl

@[simp] theorem nextWallId_tick (chamber : Chamber) :
    chamber.tick.nextWallId = chamber.nextWallId := rfl

end Chamber

end Reverb
