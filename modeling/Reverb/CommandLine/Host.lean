/-!
# CommandLine/Host — what a session asks of the system that it runs on

A session reads a file and its standard input, prints on its standard output, and writes one file.
Which paths there are, what they lead to and who may open them is for the system to say: a `Host` is
the system's five answers, whatever they are.

What can be relied on while nobody else writes (`Host.Lawful`) is told of the places to which paths
lead (`View`).  A place is a plain file, which is emptied when it is opened to be written, or it is
a stream: a pipe, a terminal or a device, which takes what is written to it behind what it has taken
before.
-/

namespace Reverb.CommandLine

/-- Why something cannot be opened or written, in the words of the system. -/
structure FileError where
  details : String
  deriving DecidableEq

/-- The error in words. -/
def FileError.message (error : FileError) : String := "i/o error: " ++ error.details

/-- An error of the system, in its words and with its number. -/
def FileError.numbered (words : String) (code : Nat) : FileError :=
  ⟨words ++ " (os error " ++ code.repr ++ ")"⟩

/-- **A system to run on,** with its states and with what it opens to be written. -/
structure Host (σ δ : Type) where
  /-- All that can be read at a path, unless it cannot be opened or read. -/
  read : String → σ → Option (List UInt8) × σ
  /-- What comes on the standard input. -/
  input : σ → List UInt8
  /-- Write to the standard output. -/
  print : List UInt8 → σ → σ
  /-- Open a path to write from the start: what is not there is created. -/
  create : String → σ → Except FileError δ × σ
  /-- Write to what was opened. -/
  write : δ → List UInt8 → σ → Except FileError Unit × σ

/-- **What can be seen of the states of a host:** what stands at the places that can be written. -/
structure View (σ δ ι : Type) where
  /-- What stands at a place, if there is anything: the content of a plain file, and all that a
  stream has taken. -/
  content : σ → ι → Option (List UInt8)
  /-- The place is that of a plain file. -/
  IsFile : ι → Prop
  /-- The place of what was opened. -/
  place : δ → ι
  /-- The place to which the standard output leads. -/
  output : ι

variable {σ δ ι : Type}

/-- **What a session relies on.** -/
structure Host.Lawful (host : Host σ δ) (view : View σ δ ι) : Prop where
  /-- To read changes nothing that is written. -/
  content_read : ∀ path state, view.content (host.read path state).2 = view.content state
  /-- What is printed comes behind what stands on the output. -/
  content_print : ∀ bytes state, view.content (host.print bytes state) view.output
    = (view.content state view.output).map (· ++ bytes)
  /-- It is printed there alone. -/
  content_print_of_ne : ∀ bytes state place, place ≠ view.output →
    view.content (host.print bytes state) place = view.content state place
  /-- What cannot be opened is neither created nor changed. -/
  content_refused : ∀ path state error after, host.create path state = (.error error, after) →
    view.content after = view.content state
  /-- A plain file that was opened is empty. -/
  content_file : ∀ path state file after, host.create path state = (.ok file, after) →
    view.IsFile (view.place file) → view.content after (view.place file) = some []
  /-- A stream that was opened keeps what it has taken. -/
  content_stream : ∀ path state file after, host.create path state = (.ok file, after) →
    ¬view.IsFile (view.place file) →
      view.content after (view.place file) = view.content state (view.place file)
  /-- To open one place changes no other. -/
  content_create_of_ne : ∀ path state file after place,
    host.create path state = (.ok file, after) → place ≠ view.place file →
      view.content after place = view.content state place
  /-- A first part of what is written to a place just opened arrives there, and all of it unless
  there is an error. -/
  content_write : ∀ path state file after bytes, host.create path state = (.ok file, after) →
    ∃ part, part <+: bytes ∧ ((host.write file bytes after).1 = .ok () → part = bytes) ∧
      view.content (host.write file bytes after).2 (view.place file)
        = (view.content after (view.place file)).map (· ++ part)
  /-- It arrives there alone. -/
  content_write_of_ne : ∀ path state file after bytes place,
    host.create path state = (.ok file, after) → place ≠ view.place file →
      view.content (host.write file bytes after).2 place = view.content after place

end Reverb.CommandLine
