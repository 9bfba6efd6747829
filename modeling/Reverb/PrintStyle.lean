/-!
# PrintStyle — how the sound sum is printed

A program prints the sound sum either as the character with that code point or as a decimal number
on a line of its own.
-/

namespace Reverb

/-- How the sound sum is printed. -/
inductive PrintStyle where
  | ascii
  | numbers
  deriving DecidableEq

/-- **The printed form of a sound sum.** -/
def PrintStyle.text : PrintStyle → UInt8 → String
  | ascii, sum => String.ofList [Char.ofNat sum.toNat]
  | numbers, sum => sum.toNat.repr ++ "\n"

end Reverb
