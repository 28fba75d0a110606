import GoLexicon.CommandLine.Options
import GoLexicon.CommandLine.Request
import GoLexicon.CommandLine.Run
import GoLexicon.CommandLine.StandardOutput
import GoLexicon.Console.Markup
import GoLexicon.Console.Printed
import GoLexicon.Diagnostic
import GoLexicon.Fault
import GoLexicon.FileSystem.Basic
import GoLexicon.FileSystem.Building
import GoLexicon.FileSystem.Reading
import GoLexicon.FileSystem.Replacement
import GoLexicon.Go.Declaration
import GoLexicon.Go.Expression
import GoLexicon.Go.Lexer
import GoLexicon.Go.Literal
import GoLexicon.Go.Parser
import GoLexicon.Go.Pattern
import GoLexicon.Go.Reading
import GoLexicon.Go.Source
import GoLexicon.Go.Statement
import GoLexicon.Go.Token
import GoLexicon.Go.Types
import GoLexicon.Json.Basic
import GoLexicon.Json.Printer
import GoLexicon.Json.Reader
import GoLexicon.Json.Shown
import GoLexicon.Main
import GoLexicon.Notice
import GoLexicon.Number.Binary64
import GoLexicon.Number.Positional
import GoLexicon.Number.Shortest
import GoLexicon.Package.Basic
import GoLexicon.Package.Static
import GoLexicon.Package.Toolchain
import GoLexicon.Package.Transcript
import GoLexicon.Path
import GoLexicon.Progress.Board
import GoLexicon.Progress.Display
import GoLexicon.Proofs.CommandLine.AllOrNothing
import GoLexicon.Proofs.CommandLine.Diagnostics
import GoLexicon.Proofs.CommandLine.OctetOrder
import GoLexicon.Proofs.CommandLine.StrictList
import GoLexicon.Proofs.CommandLine.VerbatimList
import GoLexicon.Proofs.Console.Escaping
import GoLexicon.Proofs.Except
import GoLexicon.Proofs.FileSystem.Atomicity
import GoLexicon.Proofs.FileSystem.Destination
import GoLexicon.Proofs.FileSystem.Entries
import GoLexicon.Proofs.FileSystem.Leftover
import GoLexicon.Proofs.FileSystem.Locations
import GoLexicon.Proofs.FileSystem.Replacement
import GoLexicon.Proofs.FileSystem.Tables
import GoLexicon.Proofs.FileSystem.Temporary
import GoLexicon.Proofs.FileSystem.Trees
import GoLexicon.Proofs.Json.Documents
import GoLexicon.Proofs.Json.Grammar
import GoLexicon.Proofs.Json.Limits
import GoLexicon.Proofs.Json.Members
import GoLexicon.Proofs.Json.Strings
import GoLexicon.Proofs.Lookup
import GoLexicon.Proofs.Package.Answers
import GoLexicon.Proofs.Package.Descriptions
import GoLexicon.Proofs.Package.Listing
import GoLexicon.Proofs.Package.Metadata
import GoLexicon.Proofs.Package.Spacing
import GoLexicon.Proofs.Progress.Display
import GoLexicon.Proofs.Progress.Labels
import GoLexicon.Proofs.Progress.Misuse
import GoLexicon.Proofs.Scan.Account
import GoLexicon.Proofs.Scan.Additions
import GoLexicon.Proofs.Scan.Blame
import GoLexicon.Proofs.Scan.Course
import GoLexicon.Proofs.Scan.FirstFailure
import GoLexicon.Proofs.Scan.Held
import GoLexicon.Proofs.Scan.Internal
import GoLexicon.Proofs.Scan.Library
import GoLexicon.Proofs.Scan.Modes
import GoLexicon.Proofs.Scan.Protocol
import GoLexicon.Proofs.Scan.Providers
import GoLexicon.Proofs.Scan.Readers
import GoLexicon.Proofs.Scan.Reordering
import GoLexicon.Proofs.Scan.Reseeding
import GoLexicon.Proofs.Scan.SideBySide
import GoLexicon.Proofs.Scan.Stepping
import GoLexicon.Proofs.Settings
import GoLexicon.Proofs.Settings.RoundTrip
import GoLexicon.Proofs.Settings.Validation
import GoLexicon.Proofs.Syntax.Flaws
import GoLexicon.Proofs.Syntax.Harvest
import GoLexicon.Proofs.Text.Lines
import GoLexicon.Proofs.Text.OctetOrder
import GoLexicon.Proofs.Text.Splitting
import GoLexicon.Proofs.Text.Utf8
import GoLexicon.Proofs.Word.Batches
import GoLexicon.Proofs.Word.Membership
import GoLexicon.Proofs.Word.Values
import GoLexicon.Scan.Enumeration
import GoLexicon.Scan.Event
import GoLexicon.Scan.Extraction
import GoLexicon.Scan.Run
import GoLexicon.Scan.Trace
import GoLexicon.Settings
import GoLexicon.Syntax.Harvest
import GoLexicon.Syntax.Node
import GoLexicon.Text.Basic
import GoLexicon.Text.CellWidth
import GoLexicon.Text.Identifier
import GoLexicon.Text.Lines
import GoLexicon.Text.Printable
import GoLexicon.Text.Quoted
import GoLexicon.Text.Ranges
import GoLexicon.Text.Uppercase
import GoLexicon.Text.Utf8
import GoLexicon.Vocabulary
import GoLexicon.Word.Mode
import GoLexicon.Word.Report
import GoLexicon.Word.Set
