/-!
# Sink — an output that may fill up

A sink takes bytes until it is full.  A write that does not fit leaves behind the bytes that did and
fails; a write of nothing never fails.
-/

namespace Reverb

/-- What can go wrong with a stream. -/
inductive StreamError where
  /-- The bytes that were read are not UTF-8. -/
  | invalidText
  /-- Not everything fitted. -/
  | outputFull
  deriving DecidableEq

/-- The error in words. -/
def StreamError.message : StreamError → String
  | invalidText => "i/o error: stream did not contain valid UTF-8"
  | outputFull => "i/o error: output full"

/-- An output, with the number of bytes it can take if there is such a limit. -/
structure Sink where
  limit : Option Nat := none
  bytes : Array UInt8 := #[]
  deriving DecidableEq

namespace Sink

/-- The number of bytes of a write of `length` bytes that still fit. -/
def room (sink : Sink) (length : Nat) : Nat :=
  match sink.limit with
  | none => length
  | some limit => min length (limit - sink.bytes.size)

/-- **Write bytes:** what fits is stored, and the write fails if that is not all. -/
def write (sink : Sink) (data : List UInt8) : Except StreamError Unit × Sink :=
  let room := sink.room data.length
  (if room < data.length then .error .outputFull else .ok (),
    { sink with bytes := sink.bytes ++ data.take room })

/-- Write a text in UTF-8. -/
def writeText (sink : Sink) (text : String) : Except StreamError Unit × Sink :=
  sink.write text.toUTF8.data.toList

theorem room_le (sink : Sink) (length : Nat) : sink.room length ≤ length := by
  rw [room]
  split
  · exact Nat.le_refl length
  · exact Nat.min_le_left _ _

/-- Writing nothing never fails. -/
theorem write_nil (sink : Sink) : sink.write [] = (.ok (), sink) := by
  simp [write]

/-- Without a limit every write fits. -/
theorem write_of_unlimited {sink : Sink} (h : sink.limit = none) (data : List UInt8) :
    sink.write data = (.ok (), { sink with bytes := sink.bytes ++ data }) := by
  simp [write, room, h]

/-- A write that fits is stored. -/
theorem write_of_fits {sink : Sink} {data : List UInt8} (h : sink.room data.length = data.length) :
    sink.write data = (.ok (), { sink with bytes := sink.bytes ++ data }) := by
  rw [write, h, List.take_length, if_neg (Nat.lt_irrefl _)]

/-- Of a write that does not fit only a part is stored. -/
theorem write_of_room_lt {sink : Sink} {data : List UInt8}
    (h : sink.room data.length < data.length) : sink.write data = (.error .outputFull,
      { sink with bytes := sink.bytes ++ data.take (sink.room data.length) }) := by
  rw [write, if_pos h]

/-- A longer write finds no more room. -/
theorem room_add_of_lt {sink : Sink} {n : Nat} (h : sink.room n < n) (more : Nat) :
    sink.room (n + more) = sink.room n := by
  rw [room] at h ⊢
  rw [room]
  cases hlimit : sink.limit with
  | none =>
    rw [hlimit] at h
    exact absurd h (Nat.lt_irrefl n)
  | some limit =>
    rw [hlimit] at h
    dsimp only at h ⊢
    omega

/-- A longer write finds the room of its first part and what is left behind it. -/
theorem room_add_of_fits {sink : Sink} {data : List UInt8} (h : sink.room data.length = data.length)
    (more : Nat) : sink.room (data.length + more)
      = data.length + ({ sink with bytes := sink.bytes ++ data } : Sink).room more := by
  have hsize : (sink.bytes ++ data).size = sink.bytes.size + data.length := by
    rw [← Array.length_toList, Array.toList_appendList, List.length_append, Array.length_toList]
  rw [room] at h ⊢
  rw [room, hsize]
  cases hlimit : sink.limit with
  | none => rfl
  | some limit =>
    rw [hlimit] at h
    dsimp only at h ⊢
    omega

/-- **To write two stretches in one is to write them one after the other,** the second only if the
first fits. -/
theorem write_append (sink : Sink) (data more : List UInt8) :
    sink.write (data ++ more) =
      match sink.write data with
      | (.error e, sink) => (.error e, sink)
      | (.ok (), sink) => sink.write more := by
  rcases Nat.lt_or_eq_of_le (sink.room_le data.length) with hcut | hfits
  · have hroom := room_add_of_lt hcut more.length
    rw [write_of_room_lt hcut, write_of_room_lt (by rw [List.length_append]; omega),
      List.length_append, hroom, List.take_append_of_le_length (Nat.le_of_lt hcut)]
  · have hroom := room_add_of_fits hfits more.length
    have hbytes (l : List UInt8) : sink.bytes ++ (data ++ l) = sink.bytes ++ data ++ l :=
      Array.ext' (by simp only [Array.toList_appendList, List.append_assoc])
    rw [write_of_fits hfits]
    simp only [write, List.length_append, hroom, List.take_length_add_append, hbytes,
      Nat.add_lt_add_iff_left]

theorem writeText_append (sink : Sink) (text more : String) :
    sink.writeText (text ++ more) =
      match sink.writeText text with
      | (.error e, sink) => (.error e, sink)
      | (.ok (), sink) => sink.writeText more := by
  have hbytes : (text ++ more).toUTF8.data.toList
      = text.toUTF8.data.toList ++ more.toUTF8.data.toList := by simp
  rw [writeText, hbytes, write_append]
  rfl

end Sink

end Reverb
