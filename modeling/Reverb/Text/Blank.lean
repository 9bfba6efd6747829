import Reverb.Text.Ranges

/-!
# Text/Blank — the characters that separate words

The twenty-five characters with the property `White_Space`.  The zero-width space and the byte
order mark are not among them, and neither are the four information separators.
-/

namespace Reverb.Text

/-- The code points with the property `White_Space`. -/
def blanks : Ranges :=
  ⟨[(0x9, 0xD), (0x20, 0x20), (0x85, 0x85), (0xA0, 0xA0), (0x1680, 0x1680), (0x2000, 0x200A),
    (0x2028, 0x2029), (0x202F, 0x202F), (0x205F, 0x205F), (0x3000, 0x3000)]⟩

/-- The character separates words. -/
def isBlank (c : Char) : Bool := blanks.has c

/-- Every blank of the ASCII range that the core library knows is a blank here. -/
theorem isBlank_of_isWhitespace {c : Char} (h : c.isWhitespace = true) : isBlank c = true := by
  simp only [Char.isWhitespace, Bool.or_eq_true, decide_eq_true_eq] at h
  rcases h with ((rfl | rfl) | rfl) | rfl <;> decide

end Reverb.Text
