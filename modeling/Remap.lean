import Remap.Text.Blank
import Remap.Text.Line
import Remap.Text.Search
import Remap.Unicode.Age
import Remap.Unicode.Binary
import Remap.Unicode.Boundary
import Remap.Unicode.Category
import Remap.Unicode.Fold
import Remap.Unicode.Lowercase
import Remap.Unicode.Property
import Remap.Unicode.Script
import Remap.Unicode.Table
import Remap.CharSet.Basic
import Remap.Regex.Basic
import Remap.Regex.Cursor
import Remap.Regex.Error
import Remap.Regex.Footprint
import Remap.Regex.Matcher
import Remap.Regex.Meaning
import Remap.Regex.Node
import Remap.Regex.Parser
import Remap.Regex.Parser.Bracket
import Remap.Regex.Parser.Escape
import Remap.Regex.Parser.Group
import Remap.Regex.Program
import Remap.Regex.Syntax
import Remap.Pattern.Basic
import Remap.Pattern.Flags
import Remap.Pattern.Template
import Remap.Pattern.Token
import Remap.Mapping.Parser
import Remap.Mapping.Rule
import Remap.Diff.Hunk
import Remap.Diff.Line
import Remap.Diff.Script
import Remap.Diff.Settle
import Remap.Diff.Shortest
import Remap.Report.Diff
import Remap.Report.Frame
import Remap.Report.Theme
import Remap.Path.Basic
import Remap.Files.Access
import Remap.Files.Conversion
import Remap.Files.Error
import Remap.Files.Listing
import Remap.Files.Look
import Remap.Files.Tree
import Remap.Files.Walk
import Remap.Command.Arguments
import Remap.Command.Option
import Remap.Command.Request
import Remap.Command.Run
import Remap.Command.Usage
import Remap.Main
import Remap.Proofs.Files.Steps
import Remap.Proofs.Command.Effect
import Remap.Proofs.Files.Growth
import Remap.Proofs.Files.Saving
import Remap.Proofs.Path.Ancestor
import Remap.Proofs.Text.Split
import Remap.Proofs.Pattern.Flags
import Remap.Proofs.Pattern.Letters
import Remap.Proofs.Pattern.Replacement
import Remap.Proofs.Pattern.Rendering
import Remap.Proofs.Text.Search
import Remap.Proofs.Regex.Iteration
import Remap.Proofs.Regex.Word
import Remap.Proofs.Regex.Escaping
import Remap.Proofs.Regex.GroupName
import Remap.Proofs.Mapping.LiteralPattern
import Remap.Proofs.Pattern.Token
import Remap.Proofs.Text.Blank
import Remap.Proofs.Text.Line
import Remap.Proofs.Mapping.Spaces
import Remap.Proofs.Mapping.Matcher
import Remap.Proofs.Mapping.Usable
import Remap.Proofs.Mapping.Printing
import Remap.Proofs.Text.First
import Remap.Proofs.Text.Replacing
import Remap.Proofs.Text.Overlap
import Remap.Proofs.Mapping.Independence
import Remap.Proofs.Mapping.Repetition
import Remap.Proofs.Mapping.Concatenation
import Remap.Proofs.Mapping.Grammar
import Remap.Proofs.Diff.Recast
import Remap.Proofs.Diff.Patch
import Remap.Proofs.Report.Diff
import Remap.Proofs.Files.Rewriting
import Remap.Proofs.Command.Modes
import Remap.Proofs.Command.Echo
import Remap.Proofs.Mapping.Identity
import Remap.Proofs.Mapping.Lines
import Remap.Proofs.Mapping.Pieces
import Remap.Proofs.Regex.Spans
import Remap.Proofs.Regex.Enclosed.Cursor
import Remap.Proofs.Regex.Enclosed.Escape
import Remap.Proofs.Regex.Enclosed.Bracket
import Remap.Proofs.Regex.Enclosed.Group
import Remap.Proofs.Regex.Enclosed.Reader
import Remap.Proofs.Regex.Fuel
import Remap.Proofs.Regex.Anchor
import Remap.Proofs.Pattern.Sticky
import Remap.Proofs.Mapping.Layout
import Remap.Proofs.Mapping.Margins
import Remap.Proofs.Mapping.Writable
import Remap.Proofs.Pattern.Missing
import Remap.Proofs.Files.Frame
import Remap.Proofs.Files.Strides
import Remap.Proofs.Files.Climbing
import Remap.Proofs.Path.Prefix
import Remap.Proofs.Files.Listing
import Remap.Proofs.CharSet.Members
import Remap.Proofs.Unicode.Lowercase
import Remap.Proofs.Path.Steps
import Remap.Proofs.Files.Verbatim
import Remap.Proofs.Files.Suggestions
import Remap.Proofs.Path.Place
import Remap.Proofs.Files.Clearing
import Remap.Proofs.Report.Colour
import Remap.Proofs.Command.Checks
import Remap.Proofs.Command.Destination
import Remap.Proofs.Mapping.Runs
import Remap.Proofs.Files.Deepest
import Remap.Proofs.Text.Bytes
import Remap.Proofs.Pattern.Offsets
