import Reverb.CommandLine.Session

/-!
# Main — the command line

The standard streams and the files are real ones here; everything else is decided by
`CommandLine.load` and `CommandLine.play`.  The input is read only if the program has an instruction
that reads.
-/

namespace Reverb.CommandLine

/-- The content of a file, if it can be read. -/
def contentOf (path : String) : IO (Option (List UInt8)) := do
  try
    return some (← IO.FS.readBinFile path).data.toList
  catch _ =>
    return none

/-- The standard input, if the program reads from it. -/
def inputFor (program : Array Instruction) : IO (List UInt8) := do
  if program.any fun instruction => instruction matches .input .. then
    return (← (← IO.getStdin).readBinToEnd).data.toList
  else return []

/-- What keeps a file from being written, in the words of the system. -/
def fileError (error : IO.Error) : FileError :=
  match error with
  | .noFileOrDirectory _ code details => .numbered details code.toNat
  | .inappropriateType _ code details => .numbered details code.toNat
  | .invalidArgument _ code details => .numbered details code.toNat
  | .permissionDenied _ code details => .numbered details code.toNat
  | .noSuchThing _ code details => .numbered details code.toNat
  | .resourceBusy code details => .numbered details code.toNat
  | .resourceExhausted _ code details => .numbered details code.toNat
  | error => ⟨toString error⟩

/-- Write the frames of a run to their file. -/
def writeFrames (path : String) (film : Film) : IO (Except Failure Unit) := do
  try
    IO.FS.writeFile path film.text
    return .ok ()
  catch error =>
    return .error (.unwritable (fileError error))

/-- Say what ended a session early; gives the exit code. -/
def fail (failure : Failure) : IO UInt32 := do
  IO.eprintln failure.message
  return 1

/-- A session with options on the real streams and files; gives the exit code. -/
def performLive (options : Options) : IO UInt32 := do
  match load options (← contentOf options.file) with
  | .error failure => fail failure
  | .ok program =>
    let (result, printed) := play options program (← inputFor program)
    let stdout ← IO.getStdout
    stdout.write ⟨printed.toArray⟩
    stdout.flush
    match result with
    | .error failure => fail failure
    | .ok film =>
      if !options.settings.recordFrames then return 0
      match ← writeFrames options.framesPath film with
      | .ok () => return 0
      | .error failure => fail failure

end Reverb.CommandLine

def main (arguments : List String) : IO UInt32 := do
  match Reverb.CommandLine.Options.parse arguments with
  | .error e =>
    IO.eprintln (e.message ++ "\n" ++ Reverb.CommandLine.usage)
    return 2
  | .ok options => Reverb.CommandLine.performLive options
