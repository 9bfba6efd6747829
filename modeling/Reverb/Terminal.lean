/-!
# Terminal — what a machine sees of the outside world

A running program can read a line and print a text, and both can fail.  A terminal says how the
outside world, in some state of its own, answers; it keeps its state after a failure too.
-/

namespace Reverb

/-- The outside world of a machine: its states are of type `σ` and its failures of type `ε`. -/
structure Terminal (σ ε : Type) where
  /-- Read a line, without its ending. -/
  readLine : σ → Except ε String × σ
  /-- Print a text. -/
  write : String → σ → Except ε Unit × σ

end Reverb
