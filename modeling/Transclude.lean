import Transclude.Attribute.Reference
import Transclude.Attribute.Set
import Transclude.Cli.Argument
import Transclude.Cli.Arguments
import Transclude.Cli.Assignment
import Transclude.Cli.Flag
import Transclude.Cli.Help
import Transclude.Cli.Program
import Transclude.Cli.Report
import Transclude.Cli.Session
import Transclude.Condition.Expression
import Transclude.Condition.Frame
import Transclude.Condition.Operand
import Transclude.Configuration.Layer
import Transclude.Configuration.Load
import Transclude.Configuration.Schema
import Transclude.Configuration.Variable
import Transclude.Diagnostic.Basic
import Transclude.Diagnostic.Fault
import Transclude.Diagnostic.Journal
import Transclude.Diagnostic.Severity
import Transclude.Directive.Basic
import Transclude.Directive.Parser
import Transclude.Directive.Scan
import Transclude.Document.Buffer
import Transclude.Document.Line
import Transclude.Extension.Loader
import Transclude.Extension.Registry
import Transclude.Files
import Transclude.Include.AttrList
import Transclude.Include.LineRange
import Transclude.Include.Resolution
import Transclude.Include.TagFilter
import Transclude.Log.LineFormat
import Transclude.Log.Sink
import Transclude.Log.Slot
import Transclude.Main
import Transclude.Number.Binary64
import Transclude.Number.Reading
import Transclude.Number.Shortest
import Transclude.Output.Structured
import Transclude.Output.Target
import Transclude.Path.Jail
import Transclude.Path.Name
import Transclude.Proofs.Commutation
import Transclude.Proofs.Containment
import Transclude.Proofs.Delivery
import Transclude.Proofs.Directories
import Transclude.Proofs.Emission
import Transclude.Proofs.Endings
import Transclude.Proofs.FileTrees
import Transclude.Proofs.FixedPoint
import Transclude.Proofs.Inline
import Transclude.Proofs.LevelOffsets
import Transclude.Proofs.Limits
import Transclude.Proofs.LineSets
import Transclude.Proofs.Locks
import Transclude.Proofs.Lockstep
import Transclude.Proofs.Malformed
import Transclude.Proofs.Negation
import Transclude.Proofs.Nesting
import Transclude.Proofs.Numerals
import Transclude.Proofs.Omission
import Transclude.Proofs.Outline
import Transclude.Proofs.Overwriting
import Transclude.Proofs.Pairing
import Transclude.Proofs.Parents
import Transclude.Proofs.Pasting
import Transclude.Proofs.Paths
import Transclude.Proofs.Placeholders
import Transclude.Proofs.PlainText
import Transclude.Proofs.Preservation
import Transclude.Proofs.Provenance
import Transclude.Proofs.ReadingOrder
import Transclude.Proofs.RegionNesting
import Transclude.Proofs.RegionWarnings
import Transclude.Proofs.Regions
import Transclude.Proofs.Renumbering
import Transclude.Proofs.Robustness
import Transclude.Proofs.Severities
import Transclude.Proofs.Splicing
import Transclude.Proofs.Termination
import Transclude.Proofs.Twins
import Transclude.Proofs.Unfolding
import Transclude.Reduction.Context
import Transclude.Reduction.Document
import Transclude.Reduction.Loop
import Transclude.Reduction.Measure
import Transclude.Reduction.Options
import Transclude.Reduction.Result
import Transclude.Reduction.Run
import Transclude.Reduction.Simulation
import Transclude.Reduction.Step
import Transclude.Table
import Transclude.Text.Base64
import Transclude.Text.Blank
import Transclude.Text.Digit
import Transclude.Text.Encoding.Basic
import Transclude.Text.Encoding.CodePage.Basic
import Transclude.Text.Encoding.CodePage.Ibm
import Transclude.Text.Encoding.CodePage.Iso8859
import Transclude.Text.Encoding.CodePage.Regional
import Transclude.Text.Encoding.CodePage.Windows
import Transclude.Text.Encoding.Codec
import Transclude.Text.Encoding.CodedSet.Basic
import Transclude.Text.Encoding.CodedSet.Big5
import Transclude.Text.Encoding.CodedSet.Gb18030
import Transclude.Text.Encoding.CodedSet.Gb2312
import Transclude.Text.Encoding.CodedSet.Gbk
import Transclude.Text.Encoding.CodedSet.HongKong
import Transclude.Text.Encoding.CodedSet.Jis0208
import Transclude.Text.Encoding.CodedSet.Jis0212
import Transclude.Text.Encoding.CodedSet.Jis0213
import Transclude.Text.Encoding.CodedSet.Ksx1001
import Transclude.Text.Encoding.CodedSet.UnifiedHangul
import Transclude.Text.Encoding.CodedSet.WindowsJapanese
import Transclude.Text.Encoding.Escaped
import Transclude.Text.Encoding.Failure
import Transclude.Text.Encoding.Idna
import Transclude.Text.Encoding.MultiByte.Basic
import Transclude.Text.Encoding.MultiByte.Chinese
import Transclude.Text.Encoding.MultiByte.Designated
import Transclude.Text.Encoding.MultiByte.EastAsian
import Transclude.Text.Encoding.MultiByte.Japanese
import Transclude.Text.Encoding.MultiByte.Jis0213
import Transclude.Text.Encoding.MultiByte.Korean
import Transclude.Text.Encoding.MultiByte.Traditional
import Transclude.Text.Encoding.Punycode
import Transclude.Text.Encoding.SingleByte
import Transclude.Text.Encoding.Surrogate
import Transclude.Text.Encoding.Utf16
import Transclude.Text.Encoding.Utf32
import Transclude.Text.Encoding.Utf7
import Transclude.Text.Encoding.Utf8
import Transclude.Text.Hangul
import Transclude.Text.Lines
import Transclude.Text.LowerCase
import Transclude.Text.Printable
import Transclude.Text.Shown
import Transclude.Text.Split
import Transclude.Text.Word
import Transclude.Value.Basic
import Transclude.Value.Calendar
import Transclude.Value.Display
import Transclude.Value.Json.Printer
import Transclude.Value.Json.Reader
import Transclude.Value.Yaml.Cursor
import Transclude.Value.Yaml.Kind
import Transclude.Value.Yaml.Node
import Transclude.Value.Yaml.Printer
import Transclude.Value.Yaml.Reader
import Transclude.Value.Yaml.Scalar
import Transclude.Value.Yaml.Token
import Transclude.Proofs.Grammar
import Transclude.Proofs.Scanning
import Transclude.Proofs.References
import Transclude.Proofs.Comparisons
import Transclude.Proofs.QuotedOperands
import Transclude.Proofs.QuotedValues
import Transclude.Proofs.IncludeOptions
import Transclude.Proofs.Assignments
import Transclude.Proofs.EntryCommas
import Transclude.Proofs.BlockForms
import Transclude.Proofs.Layers
import Transclude.Value.Lookup
import Transclude.Proofs.Overrides
