/-!
# Comparison — the test of a conditional jump

A comparison sets the sound sum against a value.  It is written as a mask of which the low four bits
count: bit 0 asks whether the sum is equal, bit 1 whether it is greater, bit 2 whether it is
smaller, and bit 3 turns the answer around.  At least one of the three questions must be asked.
-/

namespace Reverb

/-- What a conditional jump asks of the sound sum. -/
@[ext]
structure Comparison where
  bits : Nat
  bits_lt : bits < 16
  asks : 0 < bits % 8
  deriving DecidableEq

namespace Comparison

/-- The comparison a mask stands for; a mask that asks nothing stands for none. -/
def ofMask? (mask : Nat) : Option Comparison :=
  if h : 0 < mask % 8 then
    some ⟨mask % 16, Nat.mod_lt mask (by decide), by
      rw [Nat.mod_mod_of_dvd mask (by decide)]; exact h⟩
  else none

/-- One of the questions asked is answered with yes. -/
def agrees (comparison : Comparison) (sum value : UInt8) : Bool :=
  comparison.bits.testBit 0 && sum == value || comparison.bits.testBit 1 && value < sum
    || comparison.bits.testBit 2 && sum < value

/-- **The jump is taken:** bit 3 turns the answer around. -/
def holds (comparison : Comparison) (sum value : UInt8) : Bool :=
  comparison.agrees sum value != comparison.bits.testBit 3

theorem ofMask?_eq_none_iff {mask : Nat} : ofMask? mask = none ↔ mask % 8 = 0 := by
  rw [ofMask?]
  split <;> simp <;> omega

/-- **A mask is read by its low four bits.** -/
theorem bits_of_ofMask? {mask : Nat} {comparison : Comparison} (h : ofMask? mask = some comparison) :
    comparison.bits = mask % 16 := by
  rw [ofMask?] at h
  split at h
  · rw [← Option.some.inj h]
  · exact absurd h (by simp)

/-- The mask of a comparison stands for the comparison. -/
theorem ofMask?_bits (comparison : Comparison) : ofMask? comparison.bits = some comparison := by
  have hmod : comparison.bits % 16 = comparison.bits := Nat.mod_eq_of_lt comparison.bits_lt
  simp [ofMask?, hmod, comparison.asks]

end Comparison

end Reverb
