import SyscallNames.Utf8
import SyscallNames.Decimal
import SyscallNames.Template.Printer
import SyscallNames.Report.Json
import SyscallNames.Session
import SyscallNames.FileTree
import SyscallNames.Log.Filter
import SyscallNames.CommandLine.Parser
import SyscallNames.Program
import SyscallNames.Invocation
import SyscallNames.Main
import SyscallNames.Proofs.Utf8
import SyscallNames.Proofs.Reading
import SyscallNames.Proofs.Template.SpecForm
import SyscallNames.Proofs.Template.SpecReading
import SyscallNames.Proofs.Template.FieldForm
import SyscallNames.Proofs.Template.Pieces
import SyscallNames.Proofs.Template.FormReading
import SyscallNames.Proofs.Template.Language
import SyscallNames.Proofs.Template.Literals
import SyscallNames.Proofs.Template.Segments
import SyscallNames.Proofs.Template.Printing
import SyscallNames.Proofs.Template.Rendering
import SyscallNames.Proofs.Template.Concatenation
import SyscallNames.Proofs.Template.Fault
import SyscallNames.Proofs.Declaration.Exactness
import SyscallNames.Proofs.Declaration.Name
import SyscallNames.Proofs.Declaration.Splitting
import SyscallNames.Proofs.Declaration.Truncation
import SyscallNames.Proofs.Declaration.Line
import SyscallNames.Proofs.Stream.Sink
import SyscallNames.Proofs.Stream.Buffer
import SyscallNames.Proofs.Listing.Run
import SyscallNames.Proofs.Listing.Recovery
import SyscallNames.Proofs.Listing.Identification
import SyscallNames.Proofs.Session.History
import SyscallNames.Proofs.Json.Quoted
import SyscallNames.Proofs.Json.Spelling
import SyscallNames.Proofs.Json.Numeral
import SyscallNames.Proofs.Json.Skipping
import SyscallNames.Proofs.Json.Unambiguity
import SyscallNames.Proofs.Json.Members
import SyscallNames.Proofs.Json.Typed
import SyscallNames.Proofs.Json.Reading
import SyscallNames.Proofs.Report.Presentation
import SyscallNames.Proofs.Json.Written
import SyscallNames.Proofs.Report.RoundTrip
import SyscallNames.Proofs.Program.Outcome
import SyscallNames.Proofs.Program.Result
import SyscallNames.Proofs.Program.BrokenOutput
import SyscallNames.Proofs.Log.Record
import SyscallNames.Proofs.Program.Logging
import SyscallNames.Proofs.Template.FieldName
import SyscallNames.CommandLine.Form
import SyscallNames.Proofs.CommandLine.Token
import SyscallNames.Proofs.Template.Size
import SyscallNames.Proofs.CommandLine.Spelling
import SyscallNames.Proofs.Json.Layout
import SyscallNames.Proofs.Report.Layout
import SyscallNames.Proofs.Template.SizeLimit
import SyscallNames.Proofs.CharSet
import SyscallNames.Proofs.Program.Surroundings
import SyscallNames.Proofs.Pattern.Matching
import SyscallNames.Proofs.Pattern.Occurrence
import SyscallNames.Proofs.Pattern.Quotation
import SyscallNames.Proofs.Log.Filter
