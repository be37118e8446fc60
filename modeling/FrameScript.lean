import FrameScript.Main
import FrameScript.Proofs.Text.Trimming
import FrameScript.Proofs.Text.ControlSequences
import FrameScript.Proofs.Text.Division
import FrameScript.Proofs.Script.Storage
import FrameScript.Proofs.Text.LineEnds
import FrameScript.Proofs.Input.Letters
import FrameScript.Proofs.Input.Sets
import FrameScript.Proofs.Number.Numerals
import FrameScript.Proofs.Number.Grammar
import FrameScript.Proofs.Number.Rounding
import FrameScript.Proofs.Number.Nearest
import FrameScript.Proofs.Number.ReadBack
import FrameScript.Proofs.Number.Shortest
import FrameScript.Proofs.Number.Ranges
import FrameScript.Proofs.Number.Limiting
import FrameScript.Proofs.Number.Capitals
import FrameScript.Proofs.ActionLine.Parsed
import FrameScript.Proofs.ActionLine.Delimited
import FrameScript.Proofs.ActionLine.Lenient
import FrameScript.Proofs.ActionLine.Canonical
import FrameScript.Proofs.ActionLine.RoundTrip
import FrameScript.Proofs.ActionLine.Normal
import FrameScript.Proofs.ActionLine.Rereading
import FrameScript.Proofs.ActionLine.Tolerance
import FrameScript.Proofs.ActionLine.Counted
import FrameScript.Proofs.ActionLine.Feather
import FrameScript.Proofs.ActionLine.Runs
import FrameScript.Proofs.ActionLine.Fallback
import FrameScript.Proofs.ActionLine.Plain
import FrameScript.Proofs.ActionLine.Convergence
import FrameScript.Proofs.ActionLine.Joined
import FrameScript.Proofs.ActionLine.WellFormed
import FrameScript.Proofs.ActionLine.Featherless
import FrameScript.Proofs.ActionLine.Loss
import FrameScript.Proofs.ActionLine.Order
import FrameScript.Proofs.ActionLine.Turns
import FrameScript.Proofs.CommandLine.Parts
import FrameScript.Proofs.Line.Kinds
import FrameScript.Proofs.Line.Spacing
import FrameScript.Proofs.Line.Capitals
import FrameScript.Proofs.Script.Passes
import FrameScript.Proofs.Script.Comments
import FrameScript.Proofs.Script.Validation
import FrameScript.Proofs.Script.Faults
import FrameScript.Proofs.Cli.Scripts
import FrameScript.Proofs.Cli.Output
import FrameScript.Proofs.Cli.Requests
import FrameScript.Proofs.Cli.Files
import FrameScript.Proofs.Cli.Inspection
