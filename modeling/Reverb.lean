import Reverb.Chamber
import Reverb.CommandLine.Folder
import Reverb.CommandLine.Host
import Reverb.CommandLine.Options
import Reverb.CommandLine.Session
import Reverb.Comparison
import Reverb.Console
import Reverb.Directions
import Reverb.Film
import Reverb.Frame
import Reverb.Instruction
import Reverb.Literal
import Reverb.Machine.Basic
import Reverb.Machine.Effect
import Reverb.Machine.Port
import Reverb.Machine.Run
import Reverb.Machine.RunOn
import Reverb.Main
import Reverb.Numeral
import Reverb.PrintStyle
import Reverb.Program.Command
import Reverb.Program.Compile
import Reverb.Program.Line
import Reverb.Program.Nesting
import Reverb.Program.Unrolling
import Reverb.Proofs.Action
import Reverb.Proofs.Apart
import Reverb.Proofs.Blocks
import Reverb.Proofs.Calls
import Reverb.Proofs.Canvas
import Reverb.Proofs.Composition
import Reverb.Proofs.Decoding
import Reverb.Proofs.DelayNetwork
import Reverb.Proofs.Drawing
import Reverb.Proofs.Endings
import Reverb.Proofs.FilmText
import Reverb.Proofs.Flight
import Reverb.Proofs.Hearing
import Reverb.Proofs.History
import Reverb.Proofs.Layout
import Reverb.Proofs.Lifetime
import Reverb.Proofs.Limits
import Reverb.Proofs.Listing
import Reverb.Proofs.LoneFlight
import Reverb.Proofs.Moments
import Reverb.Proofs.Nesting
import Reverb.Proofs.Orderly
import Reverb.Proofs.Pace
import Reverb.Proofs.Population
import Reverb.Proofs.Printing
import Reverb.Proofs.Reading
import Reverb.Proofs.Recording
import Reverb.Proofs.Requests
import Reverb.Proofs.Retry
import Reverb.Proofs.Runs
import Reverb.Proofs.Safety
import Reverb.Proofs.Simultaneous
import Reverb.Proofs.SingleUse
import Reverb.Proofs.SoundSum
import Reverb.Proofs.Steps
import Reverb.Proofs.Tick
import Reverb.Proofs.Tokens
import Reverb.Proofs.Unrolling
import Reverb.Proofs.Waits
import Reverb.Sink
import Reverb.Sound
import Reverb.Terminal
import Reverb.Text.Alphabetic
import Reverb.Text.Blank
import Reverb.Text.Lines
import Reverb.Text.Lowercase
import Reverb.Text.Pieces
import Reverb.Text.Ranges
import Reverb.Text.Words
import Reverb.Typed
import Reverb.Wall
