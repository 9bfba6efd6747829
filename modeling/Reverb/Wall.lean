/-!
# Wall — where sounds turn back

A wall stands in one direction at one distance.  Structural walls have negative ids and turn every
sound; the personal wall of a sound carries the id of that sound and turns no other.  Ids of sounds
are 64-bit words and ids of walls signed ones, so the personal wall of a sound with a very large id
carries a negative id and is structural.
-/

namespace Reverb

/-- A wall; `struck` says that a sound turned at it during the tick. -/
structure Wall where
  id : Int
  direction : Nat
  distance : Nat
  struck : Bool := false
  deriving DecidableEq

namespace Wall

/-- The id of the personal wall of a sound: the sound's id as a signed 64-bit word. -/
def personalId (soundId : Nat) : Int := Int.bmod soundId UInt64.size

/-- The wall was placed for its own sake and turns every sound. -/
def isStructural (wall : Wall) : Bool := wall.id < 0

/-- The wall turns the sound with this id. -/
def reflects (wall : Wall) (soundId : Nat) : Bool :=
  wall.isStructural || wall.id == personalId soundId

/-- Strike the first wall that `hit` picks. -/
def strikeFirst (hit : Wall → Bool) : List Wall → List Wall
  | [] => []
  | wall :: rest => if hit wall then { wall with struck := true } :: rest
    else wall :: strikeFirst hit rest

/-- A sound is turned by its own wall. -/
theorem reflects_personal {wall : Wall} {soundId : Nat} (h : wall.id = personalId soundId) :
    wall.reflects soundId = true := by
  simp [reflects, h]

@[simp] theorem length_strikeFirst (hit : Wall → Bool) :
    ∀ walls : List Wall, (strikeFirst hit walls).length = walls.length
  | [] => rfl
  | wall :: rest => by
    rw [strikeFirst]
    split
    · rfl
    · rw [List.length_cons, List.length_cons, length_strikeFirst hit rest]

/-- Without a wall to pick nothing is struck. -/
theorem strikeFirst_of_none {hit : Wall → Bool} :
    ∀ {walls : List Wall}, walls.any hit = false → strikeFirst hit walls = walls
  | [], _ => rfl
  | wall :: rest, h => by
    rw [List.any_cons, Bool.or_eq_false_iff] at h
    rw [strikeFirst, if_neg (by simp [h.1]), strikeFirst_of_none h.2]

end Wall

end Reverb
