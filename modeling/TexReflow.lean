import TexReflow.Command.Files
import TexReflow.Command.Options
import TexReflow.Command.Path
import TexReflow.Command.Run
import TexReflow.Comment
import TexReflow.Config.Basic
import TexReflow.Config.Error
import TexReflow.Config.Read
import TexReflow.Document
import TexReflow.Event
import TexReflow.Line
import TexReflow.Macro.Argument
import TexReflow.Macro.Break
import TexReflow.Macro.Rule
import TexReflow.Main
import TexReflow.Paragraph
import TexReflow.Pass
import TexReflow.Pattern.Basic
import TexReflow.Pattern.Error
import TexReflow.Pattern.Match
import TexReflow.Pattern.Parse
import TexReflow.Pattern.Reading
import TexReflow.Pattern.Sign
import TexReflow.Region
import TexReflow.Sentence
import TexReflow.Text.Basic
import TexReflow.Text.Case
import TexReflow.Text.Printable
import TexReflow.Text.Quoted
import TexReflow.Text.Rows
import TexReflow.Text.Utf8
import TexReflow.Text.Word
import TexReflow.Proofs.Spacing
import TexReflow.Proofs.Words
import TexReflow.Proofs.Comments
import TexReflow.Proofs.LiveText
import TexReflow.Proofs.Breaks
import TexReflow.Proofs.Passes
import TexReflow.Proofs.Preservation
import TexReflow.Proofs.Verbatim
import TexReflow.Proofs.Rows
import TexReflow.Proofs.Settings
import TexReflow.Proofs.Rest
import TexReflow.Proofs.Stability
import TexReflow.Proofs.RunLines
import TexReflow.Proofs.Grouping
import TexReflow.Proofs.GuardedBreaks
import TexReflow.Proofs.Division
import TexReflow.Proofs.SoftWraps
import TexReflow.Proofs.Independence
import TexReflow.Proofs.Noninterference
import TexReflow.Proofs.Balance
import TexReflow.Proofs.Faults
import TexReflow.Proofs.Gaps
import TexReflow.Proofs.InlineMath
import TexReflow.Proofs.Canonical
import TexReflow.Proofs.NormalForm
import TexReflow.Proofs.CommentMarks
import TexReflow.Proofs.Composition
import TexReflow.Proofs.Encoding
import TexReflow.Proofs.Writing
import TexReflow.Proofs.Calls
import TexReflow.Proofs.Invocations
import TexReflow.Proofs.BreakOffsets
import TexReflow.Proofs.SentenceEnds
import TexReflow.Proofs.GreedyGroups
import TexReflow.Proofs.RegionCounts
import TexReflow.Proofs.BracketGroups
import TexReflow.Proofs.ArgumentRuns
import TexReflow.Proofs.CommentGrammar
import TexReflow.Proofs.Replacement
import TexReflow.Proofs.SingleSpaces
import TexReflow.Proofs.RowRoundTrip
