import Reverb.Sink

/-!
# Film — the frames of a run, in order

A film is written to an output as its frames with a line feed between two of them.
-/

namespace Reverb

/-- Drawn frames, in order. -/
structure Film where
  frames : Array String := #[]
  deriving DecidableEq

namespace Film

/-- Add a frame at the end. -/
def push (film : Film) (frame : String) : Film := ⟨film.frames.push frame⟩

/-- The number of frames. -/
def length (film : Film) : Nat := film.frames.size

def isEmpty (film : Film) : Bool := film.frames.isEmpty

/-- The frames as one text. -/
def text (film : Film) : String := "\n".intercalate film.frames.toList

/-- Write frames, each behind a line feed, until a write fails. -/
def writeRest (sink : Sink) : List String → Except StreamError Unit × Sink
  | [] => (.ok (), sink)
  | frame :: rest =>
    match sink.writeText "\n" with
    | (.error e, sink) => (.error e, sink)
    | (.ok (), sink) =>
      match sink.writeText frame with
      | (.error e, sink) => (.error e, sink)
      | (.ok (), sink) => writeRest sink rest

/-- **Write the film to an output,** frame by frame. -/
def writeTo (film : Film) (sink : Sink) : Except StreamError Unit × Sink :=
  match film.frames.toList with
  | [] => (.ok (), sink)
  | frame :: rest =>
    match sink.writeText frame with
    | (.error e, sink) => (.error e, sink)
    | (.ok (), sink) => writeRest sink rest

/-- A frame and more of them, each behind a line feed, are their joined text. -/
theorem writeRest_eq (sink : Sink) (frame : String) (rest : List String) :
    (match sink.writeText frame with
      | (.error e, sink) => (.error e, sink)
      | (.ok (), sink) => writeRest sink rest)
      = sink.writeText ("\n".intercalate (frame :: rest)) := by
  induction rest generalizing sink frame with
  | nil =>
    rw [String.intercalate_singleton]
    rcases sink.writeText frame with ⟨_ | ⟨⟩, after⟩ <;> rfl
  | cons next rest ih =>
    rw [String.intercalate_cons_cons, String.append_assoc, Sink.writeText_append]
    rcases sink.writeText frame with ⟨_ | ⟨⟩, after⟩
    · rfl
    · dsimp only
      rw [writeRest, Sink.writeText_append]
      rcases after.writeText "\n" with ⟨_ | ⟨⟩, after⟩
      · rfl
      · exact ih after next

/-- **To write a film frame by frame is to write its text.** -/
theorem writeTo_eq (film : Film) (sink : Sink) : film.writeTo sink = sink.writeText film.text := by
  rw [writeTo, text]
  cases film.frames.toList with
  | nil => exact (Sink.write_nil sink).symm
  | cons frame rest => exact writeRest_eq sink frame rest

@[simp] theorem toList_push (film : Film) (frame : String) :
    (film.push frame).frames.toList = film.frames.toList ++ [frame] := by
  simp [push]

@[simp] theorem length_push (film : Film) (frame : String) :
    (film.push frame).length = film.length + 1 := by
  simp [push, length]

end Film

end Reverb
