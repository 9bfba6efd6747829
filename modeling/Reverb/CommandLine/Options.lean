import Reverb.Machine.Basic
import Reverb.Numeral
import Reverb.Program.Unrolling

/-!
# CommandLine/Options — what the arguments of the program ask for

The arguments name one file and set options.  An option that takes a value finds it behind an equals
sign or in the next argument, which then must not look like an option; `-p` also finds it directly
behind itself.  The argument `--` ends the options.  Each option is set at most once.
-/

namespace Reverb.CommandLine

/-- The options. -/
inductive Flag where
  | printStyle
  | frames
  | noFrames
  | minWidth
  | maxDepth
  | maxLength
  deriving DecidableEq

/-- Why the arguments are refused. -/
inductive UsageError where
  | missingFile
  | unexpectedArgument (text : String)
  | unknownOption (text : String)
  | repeatedOption (flag : Flag)
  | missingValue (flag : Flag)
  | unexpectedValue (flag : Flag)
  | invalidValue (text : String)
  deriving DecidableEq

/-- What the arguments ask for. -/
structure Options where
  file : String
  framesPath : String := "renders.txt"
  settings : Settings := {}
  limits : Limits := {}
  deriving DecidableEq

namespace Flag

/-- The long name of an option. -/
def name : Flag → String
  | printStyle => "print-style"
  | frames => "frames"
  | noFrames => "no-frames"
  | minWidth => "min-width"
  | maxDepth => "max-depth"
  | maxLength => "max-len"

/-- All options. -/
def all : List Flag := [printStyle, frames, noFrames, minWidth, maxDepth, maxLength]

/-- The option with a long name. -/
def ofName? (text : String) : Option Flag := all.find? fun flag => flag.name == text

/-- The option takes a value. -/
def takesValue (flag : Flag) : Bool := flag != noFrames

end Flag

/-- The error in words. -/
def UsageError.message : UsageError → String
  | missingFile => "error: no file is given"
  | unexpectedArgument text => "error: unexpected argument '" ++ text ++ "'"
  | unknownOption text => "error: unknown option '" ++ text ++ "'"
  | repeatedOption flag => "error: --" ++ flag.name ++ " is given twice"
  | missingValue flag => "error: --" ++ flag.name ++ " needs a value"
  | unexpectedValue flag => "error: --" ++ flag.name ++ " takes no value"
  | invalidValue text => "error: invalid value '" ++ text ++ "'"

/-! ## Arguments -/

/-- What a single argument looks like. -/
inductive Shape where
  /-- The mark that ends the options. -/
  | endOfOptions
  /-- An option, with what is attached to it. -/
  | option (flag : Flag) (attached : Option String)
  /-- An option that there is not. -/
  | unknown
  /-- Anything else. -/
  | plain
  deriving DecidableEq

/-- The value behind the first equals sign of an option. -/
def attachedValue? (body : List Char) : Option String :=
  match body.dropWhile (· != '=') with
  | [] => none
  | _ :: value => some (String.ofList value)

/-- The value directly behind `-p`, with or without an equals sign. -/
def shortValue? : List Char → Option String
  | [] => none
  | c :: rest => some (String.ofList (if c = '=' then rest else c :: rest))

/-- The shape of an argument. -/
def shape (argument : String) : Shape :=
  match argument.toList with
  | ['-', '-'] => .endOfOptions
  | '-' :: '-' :: body =>
    match Flag.ofName? (String.ofList (body.takeWhile (· != '='))) with
    | some flag => .option flag (attachedValue? body)
    | none => .unknown
  | ['-'] => .plain
  | '-' :: 'p' :: rest => .option .printStyle (shortValue? rest)
  | '-' :: _ => .unknown
  | _ => .plain

/-- The files and the options that the arguments name, in order. -/
structure Named where
  files : List String := []
  options : List (Flag × String) := []
  deriving DecidableEq

/-- Name one more file in front. -/
def Named.addFile (file : String) (named : Named) : Named :=
  { named with files := file :: named.files }

/-- Name one more option in front. -/
def Named.addOption (flag : Flag) (value : String) (named : Named) : Named :=
  { named with options := (flag, value) :: named.options }

/-- Sort the arguments into files and options. -/
def named : List String → Except UsageError Named
  | [] => .ok {}
  | argument :: rest =>
    match shape argument with
    | .endOfOptions => .ok { files := rest }
    | .plain => (named rest).map (·.addFile argument)
    | .unknown => .error (.unknownOption argument)
    | .option flag (some value) =>
      if flag.takesValue then (named rest).map (·.addOption flag value)
      else .error (.unexpectedValue flag)
    | .option flag none =>
      if flag.takesValue then
        match rest with
        | [] => .error (.missingValue flag)
        | value :: rest =>
          if shape value = .plain then (named rest).map (·.addOption flag value)
          else .error (.missingValue flag)
      else (named rest).map (·.addOption flag "")

/-! ## Values -/

/-- A 64-bit number; a plus sign in front is allowed. -/
def count? (text : String) : Option Nat :=
  let digits := match text.toList with
    | '+' :: digits => digits
    | digits => digits
  (Numeral.value? digits).filter (· < UInt64.size)

/-- The print style with a name. -/
def printStyle? (text : String) : Option PrintStyle :=
  if text = "ascii" then some .ascii else if text = "numbers" then some .numbers else none

/-- The options with one more set. -/
def Options.set? (options : Options) : Flag → String → Option Options
  | .printStyle, value => (printStyle? value).map fun style =>
    { options with settings.style := style }
  | .frames, value => if value = "" then none else some { options with framesPath := value }
  | .noFrames, _ => some { options with settings.recordFrames := false }
  | .minWidth, value => (count? value).map fun n => { options with settings.minWidth := n }
  | .maxDepth, value => (count? value).map fun n => { options with limits.depth := n }
  | .maxLength, value => (count? value).map fun n => { options with limits.length := n }

/-- Set options one after the other, none of them twice. -/
def Options.setAll (options : Options) : List (Flag × String) → Except UsageError Options
  | [] => .ok options
  | (flag, value) :: rest =>
    if rest.any fun later => later.1 == flag then .error (.repeatedOption flag)
    else
      match options.set? flag value with
      | some options => options.setAll rest
      | none => .error (.invalidValue value)

/-- **What the arguments ask for,** or why they are refused. -/
def Options.parse (arguments : List String) : Except UsageError Options :=
  match named arguments with
  | .error e => .error e
  | .ok named =>
    match named.files with
    | [] => .error .missingFile
    | [file] => if file = "" then .error (.invalidValue file)
      else Options.setAll { file } named.options
    | _ :: extra :: _ => .error (.unexpectedArgument extra)

end Reverb.CommandLine
