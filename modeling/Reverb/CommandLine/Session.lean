import Reverb.CommandLine.Host
import Reverb.CommandLine.Options
import Reverb.Console
import Reverb.Film
import Reverb.Machine.Run
import Reverb.Program.Compile
import Reverb.Text.Lowercase

/-!
# CommandLine/Session — one run of the program, from its arguments to its exit code

A session reads the source file, lower-cases it, compiles it, runs it on a console over the standard
streams, and writes the frames to a file; paths and streams are those of a host.  The first thing
that goes wrong ends it with exit code 1 and a message on the standard error; what was printed until
then stays printed.  Refused arguments end it with exit code 2 before anything is read.
-/

namespace Reverb.CommandLine

/-- What can end a session early. -/
inductive Failure where
  | unreadable (file : String)
  | compile (error : CompileError)
  | stream (error : StreamError)
  | undrawable
  | unwritable (error : FileError)
  deriving DecidableEq

/-- The failure in words. -/
def Failure.message : Failure → String
  | unreadable file => "Cannot open file '" ++ file ++ "'."
  | compile error => error.message
  | stream error => error.message
  | undrawable => "a sound or a wall is in a direction that has no row"
  | unwritable error => error.message

/-- The failure behind a fault of a machine on a console. -/
def Failure.ofFault : Fault StreamError → Failure
  | .terminal error => .stream error
  | .undrawable => .undrawable

/-- The lower-case lines of a source file, if it is text. -/
def sourceLines? (content : List UInt8) : Option (List String) :=
  (String.fromUTF8? ⟨content.toArray⟩).map fun text =>
    (Text.lines (Text.lowercase text.toList)).map String.ofList

/-- The program in a source file; without a file there is none. -/
def load (options : Options) (source : Option (List UInt8)) :
    Except Failure (Array Instruction) :=
  match source.bind sourceLines? with
  | none => .error (.unreadable options.file)
  | some lines =>
    match Reverb.compile options.limits lines with
    | .error e => .error (.compile e)
    | .ok program => .ok program

/-- **Run a program on an input:** the film of the run, and what was printed. -/
def play (options : Options) (program : Array Instruction) (input : List UInt8) :
    Except Failure Film × List UInt8 :=
  let machine : Machine := { program, settings := options.settings }
  let (result, console) := machine.run Console.terminal { input }
  (result.mapError .ofFault, console.output.bytes.toList)

/-- What a session leaves behind. -/
structure Outcome (σ : Type) where
  /-- The exit code. -/
  code : Nat
  /-- What it says on the standard error. -/
  stderr : String := ""
  /-- The state of its host. -/
  state : σ
  deriving DecidableEq

variable {σ δ : Type}

/-- The outcome of a session that fails. -/
def Outcome.ofFailure (failure : Failure) (state : σ) : Outcome σ :=
  { code := 1, stderr := failure.message ++ "\n", state }

/-- **Write a film to a path.**  It is gathered in memory, which has no limit, and written from
there. -/
def Host.save (host : Host σ δ) (path : String) (film : Film) (state : σ) :
    Except FileError Unit × σ :=
  match host.create path state with
  | (.error e, state) => (.error e, state)
  | (.ok file, state) => host.write file (film.writeTo {}).2.bytes.toList state

/-- **A session with options.** -/
def perform (host : Host σ δ) (options : Options) (state : σ) : Outcome σ :=
  let (source, state) := host.read options.file state
  match load options source with
  | .error failure => .ofFailure failure state
  | .ok program =>
    let (result, printed) := play options program (host.input state)
    let state := host.print printed state
    match result with
    | .error failure => .ofFailure failure state
    | .ok film =>
      if options.settings.recordFrames then
        match host.save options.framesPath film state with
        | (.error e, state) => .ofFailure (.unwritable e) state
        | (.ok (), state) => { code := 0, state }
      else { code := 0, state }

/-- The hint for refused arguments. -/
def usage : String :=
  "usage: reverb <FILE> [-p|--print-style ascii|numbers] [--frames PATH] [--no-frames] "
    ++ "[--min-width N] [--max-depth N] [--max-len N]"

/-- **A session:** from the arguments to the exit code. -/
def session (host : Host σ δ) (arguments : List String) (state : σ) : Outcome σ :=
  match Options.parse arguments with
  | .error e => { code := 2, stderr := e.message ++ "\n" ++ usage ++ "\n", state }
  | .ok options => perform host options state

end Reverb.CommandLine
