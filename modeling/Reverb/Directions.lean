/-!
# Directions — the ways a sound can leave the origin

Sounds travel along four directions, numbered from 0 to 3.  A nonempty set of them is written as a
mask of which only the low four bits count: bit `d` stands for direction `d`.
-/

namespace Reverb

/-- A nonempty set of the four directions, one bit for each. -/
@[ext]
structure Directions where
  bits : Nat
  bits_pos : 0 < bits
  bits_lt : bits < 16

namespace Directions

instance : DecidableEq Directions := fun _ _ => decidable_of_iff _ Directions.ext_iff.symm

/-- The low four bits of a mask. -/
theorem low_lt (mask : Nat) : mask % 16 < 16 := Nat.mod_lt mask (by decide)

/-- The set a mask stands for; a mask whose low four bits are clear stands for none. -/
def ofMask? (mask : Nat) : Option Directions :=
  if h : 0 < mask % 16 then some ⟨mask % 16, h, low_lt mask⟩ else none

/-- The directions of the set, in ascending order. -/
def toList (directions : Directions) : List Nat :=
  (List.range 4).filter directions.bits.testBit

theorem mem_toList {directions : Directions} {d : Nat} :
    d ∈ directions.toList ↔ d < 4 ∧ directions.bits.testBit d = true := by
  simp [toList]

theorem ofMask?_eq_none_iff {mask : Nat} : ofMask? mask = none ↔ mask % 16 = 0 := by
  rw [ofMask?]
  split <;> simp <;> omega

/-- **A mask is read by its low four bits.** -/
theorem bits_of_ofMask? {mask : Nat} {directions : Directions} (h : ofMask? mask = some directions) :
    directions.bits = mask % 16 := by
  rw [ofMask?] at h
  split at h
  · rw [← Option.some.inj h]
  · exact absurd h (by simp)

/-- The mask of a set stands for the set. -/
theorem ofMask?_bits (directions : Directions) : ofMask? directions.bits = some directions := by
  have hmod : directions.bits % 16 = directions.bits := Nat.mod_eq_of_lt directions.bits_lt
  simp [ofMask?, hmod, directions.bits_pos]

end Directions

end Reverb
