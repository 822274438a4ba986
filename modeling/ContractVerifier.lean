import ContractVerifier.Association
import ContractVerifier.Charset.Basic
import ContractVerifier.Charset.Chinese.Basic
import ContractVerifier.Charset.Chinese.Big5
import ContractVerifier.Charset.Chinese.Extended
import ContractVerifier.Charset.Chinese.Gb2312
import ContractVerifier.Charset.Chinese.HongKong
import ContractVerifier.Charset.Designated
import ContractVerifier.Charset.Escapes
import ContractVerifier.Charset.Japanese.Basic
import ContractVerifier.Charset.Japanese.Jis0208
import ContractVerifier.Charset.Japanese.Jis0212
import ContractVerifier.Charset.Japanese.Jis0213
import ContractVerifier.Charset.Japanese.Vendor
import ContractVerifier.Charset.Korean.Basic
import ContractVerifier.Charset.Korean.Ks1001
import ContractVerifier.Charset.Label
import ContractVerifier.Charset.Page.Basic
import ContractVerifier.Charset.Page.Dos
import ContractVerifier.Charset.Page.Ebcdic
import ContractVerifier.Charset.Page.Iso
import ContractVerifier.Charset.Page.Macintosh
import ContractVerifier.Charset.Page.Regional
import ContractVerifier.Charset.Page.Windows
import ContractVerifier.Charset.Pieces
import ContractVerifier.Charset.Runs
import ContractVerifier.Charset.Unreadable
import ContractVerifier.Charset.Utf7
import ContractVerifier.Compression.Bits
import ContractVerifier.Compression.Checksum
import ContractVerifier.Compression.Code
import ContractVerifier.Compression.Codes
import ContractVerifier.Compression.Deflate
import ContractVerifier.Compression.Flaw
import ContractVerifier.Compression.Item
import ContractVerifier.Compression.Stream
import ContractVerifier.Config.Basic
import ContractVerifier.Config.Dump
import ContractVerifier.Config.Variables
import ContractVerifier.Encoding.Basic
import ContractVerifier.Encoding.Choice
import ContractVerifier.Encoding.Punycode
import ContractVerifier.Encoding.Unencodable
import ContractVerifier.Encoding.Utf8
import ContractVerifier.Encoding.Wide
import ContractVerifier.Explorer.Client
import ContractVerifier.Explorer.ContentCoding
import ContractVerifier.Explorer.ContentType
import ContractVerifier.Explorer.Exchange
import ContractVerifier.Explorer.Outcome
import ContractVerifier.Explorer.Redirect
import ContractVerifier.Explorer.Request
import ContractVerifier.Explorer.Status
import ContractVerifier.Explorer.Submission
import ContractVerifier.Fault
import ContractVerifier.Files.Change
import ContractVerifier.Files.Path
import ContractVerifier.Files.Resolve
import ContractVerifier.Files.Tree
import ContractVerifier.Flatten.Backend
import ContractVerifier.Flatten.Flattener
import ContractVerifier.Flatten.ImportGraph
import ContractVerifier.Flatten.Interleaving
import ContractVerifier.Flatten.Staging
import ContractVerifier.Flatten.Traces
import ContractVerifier.HostName.Allowed
import ContractVerifier.HostName.Basic
import ContractVerifier.HostName.Direction
import ContractVerifier.HostName.Joining
import ContractVerifier.HostName.Label
import ContractVerifier.HostName.Problem
import ContractVerifier.HostName.Script
import ContractVerifier.Json.Basic
import ContractVerifier.Json.Display
import ContractVerifier.Json.Reader
import ContractVerifier.Json.Writer
import ContractVerifier.Monitoring.Breadcrumb
import ContractVerifier.Monitoring.Scrub
import ContractVerifier.Monitoring.Setup
import ContractVerifier.Monitoring.Tracker
import ContractVerifier.Number.Binary64
import ContractVerifier.Number.Decimal
import ContractVerifier.Proofs.Config.Secrets
import ContractVerifier.Proofs.Encoding.Utf8
import ContractVerifier.Proofs.Explorer.Addressed
import ContractVerifier.Proofs.Explorer.Counters
import ContractVerifier.Proofs.Explorer.Expected
import ContractVerifier.Proofs.Explorer.Protocol
import ContractVerifier.Proofs.Explorer.Reading
import ContractVerifier.Proofs.Faults.Names
import ContractVerifier.Proofs.Files.Agreement
import ContractVerifier.Proofs.Files.Directories
import ContractVerifier.Proofs.Files.Found
import ContractVerifier.Proofs.Files.Guests
import ContractVerifier.Proofs.Files.Places
import ContractVerifier.Proofs.Files.Settled
import ContractVerifier.Proofs.Files.Written
import ContractVerifier.Proofs.Flatten.Again
import ContractVerifier.Proofs.Flatten.AllOrNothing
import ContractVerifier.Proofs.Flatten.Calls
import ContractVerifier.Proofs.Flatten.Characters
import ContractVerifier.Proofs.Flatten.Concurrent
import ContractVerifier.Proofs.Flatten.Confinement
import ContractVerifier.Proofs.Flatten.Contained
import ContractVerifier.Proofs.Flatten.Dangling
import ContractVerifier.Proofs.Flatten.FailOpen
import ContractVerifier.Proofs.Flatten.Gaps
import ContractVerifier.Proofs.Flatten.Given
import ContractVerifier.Proofs.Flatten.Neighbours
import ContractVerifier.Proofs.Flatten.Nesting
import ContractVerifier.Proofs.Flatten.OneHeader
import ContractVerifier.Proofs.Flatten.Recursion
import ContractVerifier.Proofs.Flatten.Remaining
import ContractVerifier.Proofs.Flatten.Rendering
import ContractVerifier.Proofs.Flatten.Runs
import ContractVerifier.Proofs.Flatten.Sections
import ContractVerifier.Proofs.Flatten.Staging
import ContractVerifier.Proofs.Flatten.Steps
import ContractVerifier.Proofs.Flatten.Together
import ContractVerifier.Proofs.Flatten.Walk
import ContractVerifier.Proofs.Graph.DepthFirst
import ContractVerifier.Proofs.Json.Depth
import ContractVerifier.Proofs.Json.Members
import ContractVerifier.Proofs.Json.Messages
import ContractVerifier.Proofs.Monitoring.Counts
import ContractVerifier.Proofs.Monitoring.Reach
import ContractVerifier.Proofs.Monitoring.Window
import ContractVerifier.Proofs.Registry.Choice
import ContractVerifier.Proofs.Registry.InPlace
import ContractVerifier.Proofs.Registry.Substitution
import ContractVerifier.Proofs.Service.Requests
import ContractVerifier.Proofs.Service.Submitted
import ContractVerifier.Proofs.Solidity.Alone
import ContractVerifier.Proofs.Solidity.HeaderLines
import ContractVerifier.Proofs.Solidity.Headers
import ContractVerifier.Proofs.Solidity.Headings
import ContractVerifier.Proofs.Solidity.Layout
import ContractVerifier.Proofs.Solidity.Metadata
import ContractVerifier.Proofs.Solidity.Pieces
import ContractVerifier.Proofs.Solidity.Statements
import ContractVerifier.Proofs.Text.Ends
import ContractVerifier.Proofs.Text.Occurrences
import ContractVerifier.Proofs.Text.Splitting
import ContractVerifier.Proofs.Url.Below
import ContractVerifier.Proofs.Url.Escapes
import ContractVerifier.Proofs.Url.Parts
import ContractVerifier.Proofs.Url.Segments
import ContractVerifier.Proofs.Web.Answers
import ContractVerifier.Proofs.Web.Flat
import ContractVerifier.Proofs.Web.Gate
import ContractVerifier.Proofs.Web.Shapes
import ContractVerifier.Registry.Basic
import ContractVerifier.Registry.BuiltIn
import ContractVerifier.Registry.Reader
import ContractVerifier.Service.Lifecycle
import ContractVerifier.Service.Verifier
import ContractVerifier.Solidity.Header
import ContractVerifier.Solidity.Import
import ContractVerifier.Solidity.Metadata
import ContractVerifier.Solidity.Piece
import ContractVerifier.Text.Basic
import ContractVerifier.Text.Blank
import ContractVerifier.Text.Capital
import ContractVerifier.Text.Composition
import ContractVerifier.Text.Decomposition
import ContractVerifier.Text.Digit
import ContractVerifier.Text.Half
import ContractVerifier.Text.Lower
import ContractVerifier.Text.Mark
import ContractVerifier.Text.Newline
import ContractVerifier.Text.Printable
import ContractVerifier.Text.Quoted
import ContractVerifier.Text.Table
import ContractVerifier.Text.Word
import ContractVerifier.Url.Basic
import ContractVerifier.Url.Escape
import ContractVerifier.Url.Host
import ContractVerifier.Url.Join
import ContractVerifier.Url.Problem
import ContractVerifier.Url.Reader
import ContractVerifier.Web.App
import ContractVerifier.Web.Input
import ContractVerifier.Web.Message
import ContractVerifier.Web.Routing
