import DeclarationFetch.Assoc
import DeclarationFetch.Budget
import DeclarationFetch.Cache.Disk
import DeclarationFetch.Cache.Memory
import DeclarationFetch.Cache.Registry
import DeclarationFetch.Calendar
import DeclarationFetch.Changes
import DeclarationFetch.Clock
import DeclarationFetch.Command.Basic
import DeclarationFetch.Command.Run
import DeclarationFetch.Command.Words
import DeclarationFetch.Console
import DeclarationFetch.Debouncer
import DeclarationFetch.Decimal.Numeral
import DeclarationFetch.Decimal.Reading
import DeclarationFetch.Decimal.Shortest
import DeclarationFetch.Decimal.Whole
import DeclarationFetch.Decimal.Word
import DeclarationFetch.Digest.Sha256
import DeclarationFetch.Double
import DeclarationFetch.Editor.Basic
import DeclarationFetch.Editor.FileSurface
import DeclarationFetch.Fault
import DeclarationFetch.FileTree
import DeclarationFetch.Home
import DeclarationFetch.Host.Directory
import DeclarationFetch.Host.Memory
import DeclarationFetch.Json.Reader
import DeclarationFetch.Json.Writer
import DeclarationFetch.Location
import DeclarationFetch.Loop
import DeclarationFetch.Main
import DeclarationFetch.Manifest
import DeclarationFetch.Options
import DeclarationFetch.Options.Validation
import DeclarationFetch.Package
import DeclarationFetch.Path
import DeclarationFetch.Pins
import DeclarationFetch.Problem
import DeclarationFetch.Progress
import DeclarationFetch.Proofs.Package.Placement
import DeclarationFetch.Proofs.Path.Inside
import DeclarationFetch.Proofs.Path.Reduction
import DeclarationFetch.Proofs.Resolution.Account
import DeclarationFetch.Proofs.Resolution.Completeness
import DeclarationFetch.Proofs.Resolution.Confinement
import DeclarationFetch.Proofs.Resolution.Coverage
import DeclarationFetch.Proofs.Resolution.Findings
import DeclarationFetch.Proofs.Resolution.Nesting
import DeclarationFetch.Proofs.Resolution.Policy
import DeclarationFetch.Proofs.Resolution.Reach
import DeclarationFetch.Proofs.Resolution.Regime
import DeclarationFetch.Proofs.Resolution.Settlement
import DeclarationFetch.Proofs.Resolution.Watch
import DeclarationFetch.Proofs.Specifier.Names
import DeclarationFetch.Registry.Client
import DeclarationFetch.Resolution.Lookup
import DeclarationFetch.Resolution.Pass
import DeclarationFetch.Resolution.Walk
import DeclarationFetch.Resolver
import DeclarationFetch.Resource
import DeclarationFetch.Resource.Validation
import DeclarationFetch.Session.Basic
import DeclarationFetch.Session.Events
import DeclarationFetch.Session.Passes
import DeclarationFetch.Settings.Load
import DeclarationFetch.Settings.Merge
import DeclarationFetch.Source.Basic
import DeclarationFetch.Source.Shelf
import DeclarationFetch.Specifier.Classify
import DeclarationFetch.Specifier.Scan
import DeclarationFetch.Text.Alphanumeric
import DeclarationFetch.Text.Base64
import DeclarationFetch.Text.Basic
import DeclarationFetch.Text.Charset
import DeclarationFetch.Text.Charset.Basic
import DeclarationFetch.Text.Charset.Chinese
import DeclarationFetch.Text.Charset.Escaped
import DeclarationFetch.Text.Charset.Japanese
import DeclarationFetch.Text.Charset.Korean
import DeclarationFetch.Text.Charset.Switched
import DeclarationFetch.Text.Charset.Unicode
import DeclarationFetch.Text.CodePage.Basic
import DeclarationFetch.Text.CodePage.Dos
import DeclarationFetch.Text.CodePage.Iso
import DeclarationFetch.Text.CodePage.Macintosh
import DeclarationFetch.Text.CodePage.Mainframe
import DeclarationFetch.Text.CodePage.Regional
import DeclarationFetch.Text.CodePage.Windows
import DeclarationFetch.Text.ContentType
import DeclarationFetch.Text.DecimalDigit
import DeclarationFetch.Text.Grid
import DeclarationFetch.Text.Grid.Big5
import DeclarationFetch.Text.Grid.Gb2312
import DeclarationFetch.Text.Grid.HongKong
import DeclarationFetch.Text.Grid.JisX0208
import DeclarationFetch.Text.Grid.JisX0212
import DeclarationFetch.Text.Grid.JisX0213
import DeclarationFetch.Text.Grid.KsX1001
import DeclarationFetch.Text.Grid.Vendor
import DeclarationFetch.Text.Hexadecimal
import DeclarationFetch.Text.Printable
import DeclarationFetch.Text.Punycode
import DeclarationFetch.Text.Quoted
import DeclarationFetch.Text.Utf8
import DeclarationFetch.Timers
import DeclarationFetch.Url
import DeclarationFetch.Url.Host
import DeclarationFetch.Url.Percent
import DeclarationFetch.Url.Reference
import DeclarationFetch.Value
import DeclarationFetch.Value.Display
import DeclarationFetch.Value.Scalar
import DeclarationFetch.Workspace
import DeclarationFetch.Yaml.Block
import DeclarationFetch.Yaml.Cursor
import DeclarationFetch.Yaml.Document
import DeclarationFetch.Yaml.Lexer
import DeclarationFetch.Yaml.Node
import DeclarationFetch.Yaml.Plain
import DeclarationFetch.Yaml.Property
import DeclarationFetch.Yaml.Quoted
import DeclarationFetch.Yaml.Scalar
import DeclarationFetch.Yaml.Token
import DeclarationFetch.Proofs.Resolution.Mirror
import DeclarationFetch.Proofs.Path.Normal
import DeclarationFetch.Proofs.Resolution.Caching
import DeclarationFetch.Proofs.Resolution.Containment
import DeclarationFetch.Proofs.Resolution.Lasting
import DeclarationFetch.Proofs.Resolution.Repetition
import DeclarationFetch.Proofs.Resolution.Transparency
import DeclarationFetch.Proofs.Resolution.Uniqueness
import DeclarationFetch.Proofs.Resolution.Parallel
import DeclarationFetch.Proofs.Resolution.Routing
import DeclarationFetch.Proofs.Resolution.Thrift
import DeclarationFetch.Proofs.Session.Guard
import DeclarationFetch.Proofs.Session.History
import DeclarationFetch.Proofs.Resolution.Lookups
import DeclarationFetch.Proofs.Resolution.Solo
import DeclarationFetch.Proofs.Resolution.Fork
import DeclarationFetch.Proofs.Resolution.Abreast
import DeclarationFetch.Proofs.Resolution.Isolation
import DeclarationFetch.Proofs.Session.Placing
import DeclarationFetch.Proofs.Session.Tending
import DeclarationFetch.Proofs.Session.Pinning
import DeclarationFetch.Proofs.Session.Courses
import DeclarationFetch.Proofs.Session.Timeline
import DeclarationFetch.Proofs.Session.Touch
import DeclarationFetch.Proofs.Session.Deeds
import DeclarationFetch.Proofs.Session.Edits
import DeclarationFetch.Proofs.Session.Disposal
import DeclarationFetch.Proofs.Session.Refreshing
import DeclarationFetch.Proofs.Session.Collaborators
import DeclarationFetch.Proofs.Session.Runs
import DeclarationFetch.Proofs.Json.ReadBack
import DeclarationFetch.Proofs.Files.Routes
import DeclarationFetch.Proofs.Files.Operations
import DeclarationFetch.Proofs.Cache.Entries
import DeclarationFetch.Proofs.Cache.Refinement
import DeclarationFetch.Proofs.Cache.Clearing
import DeclarationFetch.Proofs.Cache.Damage
import DeclarationFetch.Proofs.Resolution.Specified
import DeclarationFetch.Proofs.Editor.Notices
import DeclarationFetch.Proofs.Debouncer.Clock
import DeclarationFetch.Proofs.Debouncer.Coalescing
import DeclarationFetch.Proofs.Resolution.Roots
import DeclarationFetch.Proofs.Resolution.Turns
import DeclarationFetch.Proofs.Specifier.Lines
import DeclarationFetch.Proofs.Host.Containment
import DeclarationFetch.Proofs.Host.ReadBack
import DeclarationFetch.Proofs.Path.Joining
import DeclarationFetch.Proofs.Path.Cancelling
import DeclarationFetch.Proofs.Specifier.Classes
import DeclarationFetch.Proofs.Specifier.Following
import DeclarationFetch.Proofs.Package.Keys
import DeclarationFetch.Proofs.Package.Declarations
import DeclarationFetch.Proofs.Package.Apartness
import DeclarationFetch.Proofs.Settings.Keys
import DeclarationFetch.Proofs.Settings.Merging
import DeclarationFetch.Proofs.Settings.Precedence
import DeclarationFetch.Proofs.Settings.Failures
import DeclarationFetch.Proofs.Resolution.Versions
import DeclarationFetch.Proofs.Resolution.Notices
import DeclarationFetch.Proofs.Resolution.Placements
import DeclarationFetch.Proofs.Resolution.Updates
import DeclarationFetch.Proofs.Registry.Replies
import DeclarationFetch.Proofs.Resolution.Provenance
import DeclarationFetch.Proofs.Session.Holdings
import DeclarationFetch.Proofs.Session.Ownership
import DeclarationFetch.Proofs.Session.Attachment
