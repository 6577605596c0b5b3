import ContentBlocker.Blocker.Emit
import ContentBlocker.Blocker.Json
import ContentBlocker.Blocker.Rule
import ContentBlocker.Blocker.UrlFilter
import ContentBlocker.Conversion.Badfilter
import ContentBlocker.Conversion.Bucket
import ContentBlocker.Conversion.Compaction
import ContentBlocker.Conversion.Diagnostics
import ContentBlocker.Conversion.Exceptions
import ContentBlocker.Conversion.Job
import ContentBlocker.Conversion.Options
import ContentBlocker.Conversion.Result
import ContentBlocker.Domain.Ascii
import ContentBlocker.Domain.Host
import ContentBlocker.Domain.TopLevel
import ContentBlocker.Externals
import ContentBlocker.Filter.ContentType
import ContentBlocker.Filter.Cosmetic
import ContentBlocker.Filter.Dialect
import ContentBlocker.Filter.Error
import ContentBlocker.Filter.Line
import ContentBlocker.Filter.Marker
import ContentBlocker.Filter.Network
import ContentBlocker.Filter.Rule
import ContentBlocker.Filter.Scope
import ContentBlocker.Filter.Scriptlet
import ContentBlocker.Idna.Label
import ContentBlocker.Idna.Mapping
import ContentBlocker.Idna.MappingData
import ContentBlocker.Idna.Punycode
import ContentBlocker.Idna.ToAscii
import ContentBlocker.Json.Basic
import ContentBlocker.Json.Printer
import ContentBlocker.Json.Reader
import ContentBlocker.Pattern.Compile
import ContentBlocker.Proofs.Blocker.Checked
import ContentBlocker.Proofs.Blocker.Domains
import ContentBlocker.Proofs.Blocker.Emission
import ContentBlocker.Proofs.Blocker.Payloads
import ContentBlocker.Proofs.Blocker.ResourceTypes
import ContentBlocker.Proofs.Blocker.RoundTrip
import ContentBlocker.Proofs.Blocker.Safety
import ContentBlocker.Proofs.Blocker.Scoped
import ContentBlocker.Proofs.Conversion.Accounting
import ContentBlocker.Proofs.Conversion.Assembly
import ContentBlocker.Proofs.Conversion.Badfilters
import ContentBlocker.Proofs.Conversion.Bounded
import ContentBlocker.Proofs.Conversion.Cancelling
import ContentBlocker.Proofs.Conversion.Categories
import ContentBlocker.Proofs.Conversion.Compaction
import ContentBlocker.Proofs.Conversion.EarlyReading
import ContentBlocker.Proofs.Conversion.Excepting
import ContentBlocker.Proofs.Conversion.Isolation
import ContentBlocker.Proofs.Conversion.Joining
import ContentBlocker.Proofs.Conversion.Ordering
import ContentBlocker.Proofs.Conversion.Outcome
import ContentBlocker.Proofs.Conversion.Pages
import ContentBlocker.Proofs.Conversion.Params
import ContentBlocker.Proofs.Conversion.Progress
import ContentBlocker.Proofs.Conversion.Provenance
import ContentBlocker.Proofs.Conversion.Runs
import ContentBlocker.Proofs.Conversion.Scoping
import ContentBlocker.Proofs.Conversion.Settings
import ContentBlocker.Proofs.Conversion.Slices
import ContentBlocker.Proofs.Conversion.Slicing
import ContentBlocker.Proofs.Conversion.Targets
import ContentBlocker.Proofs.Domain.AsciiHosts
import ContentBlocker.Proofs.Domain.HostNames
import ContentBlocker.Proofs.Domain.Labels
import ContentBlocker.Proofs.Filter.ByteCuts
import ContentBlocker.Proofs.Filter.CallSyntax
import ContentBlocker.Proofs.Filter.Calls
import ContentBlocker.Proofs.Filter.Common
import ContentBlocker.Proofs.Filter.Marks
import ContentBlocker.Proofs.Filter.OptionSplitting
import ContentBlocker.Proofs.Filter.Options
import ContentBlocker.Proofs.Filter.PageExceptions
import ContentBlocker.Proofs.Filter.Scopes
import ContentBlocker.Proofs.Filter.Scripts
import ContentBlocker.Proofs.Filter.Selectors
import ContentBlocker.Proofs.Filter.Settling
import ContentBlocker.Proofs.Filter.Snippets
import ContentBlocker.Proofs.Json.RoundTrip
import ContentBlocker.Proofs.Pattern.Atoms
import ContentBlocker.Proofs.Pattern.Parsing
import ContentBlocker.Proofs.Regex.Pieces
import ContentBlocker.Proofs.Text.ByteSlices
import ContentBlocker.Proofs.Text.Ends
import ContentBlocker.Proofs.Text.Escapes
import ContentBlocker.Proofs.Text.Places
import ContentBlocker.Proofs.Text.Quotes
import ContentBlocker.Proofs.Text.Replacing
import ContentBlocker.Proofs.Text.SearchRounds
import ContentBlocker.Proofs.Text.Searching
import ContentBlocker.Proofs.Text.Splitting
import ContentBlocker.Proofs.Text.Words
import ContentBlocker.Regex.Check
import ContentBlocker.Regex.Parser
import ContentBlocker.Regex.Property
import ContentBlocker.Regex.PropertyData
import ContentBlocker.Regex.Scanner
import ContentBlocker.Regex.SetParser
import ContentBlocker.Regex.Syntax
import ContentBlocker.Text.Basic
import ContentBlocker.Text.Blank
import ContentBlocker.Text.Escaped
import ContentBlocker.Text.Quoted
import ContentBlocker.Unicode.Case
import ContentBlocker.Unicode.CaseData
import ContentBlocker.Unicode.Direction
import ContentBlocker.Unicode.DirectionData
import ContentBlocker.Unicode.Letter
import ContentBlocker.Unicode.LetterData
import ContentBlocker.Unicode.Normal
import ContentBlocker.Unicode.NormalData
import ContentBlocker.Unicode.Table
