import XmlBounds.Access
import XmlBounds.Alias
import XmlBounds.Check.Document
import XmlBounds.Check.Element
import XmlBounds.Check.Expansions
import XmlBounds.Check.Inclusion
import XmlBounds.Check.Pass
import XmlBounds.Check.Reader
import XmlBounds.Check.Reference
import XmlBounds.Command.Arguments
import XmlBounds.Command.Help
import XmlBounds.Command.Render
import XmlBounds.Command.Run
import XmlBounds.Configuration
import XmlBounds.Counter
import XmlBounds.Diagnostic
import XmlBounds.Dtd.CharRef
import XmlBounds.Dtd.Cursor
import XmlBounds.Dtd.Doctype
import XmlBounds.Dtd.EntityTable
import XmlBounds.Dtd.Event
import XmlBounds.Dtd.Fault
import XmlBounds.Dtd.Pipeline
import XmlBounds.Dtd.Subset
import XmlBounds.Entity.Resolver
import XmlBounds.Entity.ResourceId
import XmlBounds.Entity.Size
import XmlBounds.Entity.Source
import XmlBounds.Entity.Stream
import XmlBounds.Fault
import XmlBounds.Files
import XmlBounds.Gate
import XmlBounds.Ledger
import XmlBounds.Limit
import XmlBounds.LocalPath
import XmlBounds.Main
import XmlBounds.Markup.Attribute
import XmlBounds.Markup.Fault
import XmlBounds.Markup.Token
import XmlBounds.Message
import XmlBounds.Policy
import XmlBounds.Policy.Store
import XmlBounds.Properties.Basic
import XmlBounds.Properties.Cache
import XmlBounds.Properties.Deployment
import XmlBounds.Properties.Environment
import XmlBounds.PropertyValue
import XmlBounds.Resolution.Basic
import XmlBounds.Resolution.Origin
import XmlBounds.Resolution.Sources
import XmlBounds.Setting
import XmlBounds.Text.Blank
import XmlBounds.Text.Bytes
import XmlBounds.Text.Grouped
import XmlBounds.Text.Integer
import XmlBounds.Text.Quoted
import XmlBounds.Text.Split
import XmlBounds.Text.Unprintable
import XmlBounds.Text.Utf8
import XmlBounds.Url.Basic
import XmlBounds.Url.Domain
import XmlBounds.Url.FilePath
import XmlBounds.Url.Host
import XmlBounds.Url.Parser
import XmlBounds.Url.Path
import XmlBounds.Url.Percent
import XmlBounds.Url.Punycode
import XmlBounds.Proofs.Judgement
import XmlBounds.Proofs.Check.Contract
import XmlBounds.Proofs.Resolution.Answers
import XmlBounds.Proofs.Resolution.Origins
import XmlBounds.Proofs.Configuration.Calls
import XmlBounds.Proofs.Resolution.Writing
import XmlBounds.Proofs.Configuration.LivePolicy
import XmlBounds.Proofs.Entity.Sizes
import XmlBounds.Proofs.Entity.Delivery
import XmlBounds.Proofs.Entity.Fetching
import XmlBounds.Proofs.Entity.Steps
import XmlBounds.Proofs.Check.Accounts
import XmlBounds.Proofs.Check.Bounds
import XmlBounds.Proofs.Check.Plain
import XmlBounds.Proofs.Check.Candour
import XmlBounds.Proofs.Check.Reuse
import XmlBounds.Proofs.Ledger.History
import XmlBounds.Proofs.Check.Licences
import XmlBounds.Proofs.Check.Gating
import XmlBounds.Proofs.Resolution.Precedence
import XmlBounds.Proofs.Entity.Sharing
import XmlBounds.Proofs.Check.Machine
import XmlBounds.Proofs.Check.Blame
import XmlBounds.Proofs.Check.Recursion
import XmlBounds.Proofs.Check.Termination
import XmlBounds.Proofs.Resolution.Gates
import XmlBounds.Proofs.Configuration.Life
import XmlBounds.Proofs.Check.Independence
import XmlBounds.Proofs.Configuration.Outcomes
import XmlBounds.Proofs.Configuration.Ownership
import XmlBounds.Proofs.Resolution.Unchanging
import XmlBounds.Proofs.Configuration.Confluence
import XmlBounds.Proofs.Entity.Serving
import XmlBounds.Proofs.Dtd.Bases
import XmlBounds.Proofs.Check.Asking
import XmlBounds.Proofs.Check.Provenance
import XmlBounds.Proofs.Check.Openings
import XmlBounds.Proofs.Check.Occurrences
import XmlBounds.Proofs.Check.ExpansionTree
import XmlBounds.Proofs.Check.Loosening
import XmlBounds.Proofs.Access.Membership
import XmlBounds.Proofs.Dtd.Splitting
import XmlBounds.Proofs.Text.Spans
import XmlBounds.Proofs.Text.Trimming
import XmlBounds.Proofs.Text.Lines
import XmlBounds.Proofs.Text.Encoding
import XmlBounds.Proofs.Entity.Readings
import XmlBounds.Proofs.Entity.Supervision
import XmlBounds.Proofs.Dtd.Transparency
import XmlBounds.Proofs.Markup.Places
import XmlBounds.Proofs.Markup.Respelling
import XmlBounds.Proofs.Markup.ValuePlaces
import XmlBounds.Proofs.Check.Scopes
import XmlBounds.Proofs.Check.Spelling
import XmlBounds.Proofs.Check.CharReferences
import XmlBounds.Proofs.Check.ScopeLoss
import XmlBounds.Proofs.Check.Evasion
import XmlBounds.Proofs.Dtd.Writing
import XmlBounds.Proofs.Dtd.Reading
import XmlBounds.Proofs.Dtd.Recognition
import XmlBounds.Proofs.Dtd.Quoting
import XmlBounds.Proofs.Dtd.Brackets
import XmlBounds.Proofs.Dtd.References
import XmlBounds.Proofs.Dtd.Declarations
import XmlBounds.Proofs.Dtd.WellFormedness
import XmlBounds.Proofs.Properties.Freshness
import XmlBounds.Proofs.Dtd.FirstDeclarations
import XmlBounds.Proofs.Check.Flattening
import XmlBounds.Proofs.Check.Tolerance
import XmlBounds.Proofs.Check.Ban
import XmlBounds.Proofs.Policy.History
import XmlBounds.Proofs.Properties.Continuation
import XmlBounds.Proofs.Properties.Rendering
import XmlBounds.Proofs.Resolution.Versions
import XmlBounds.Proofs.Text.Numerals
import XmlBounds.Proofs.Configuration.Report
import XmlBounds.Proofs.Dtd.Expansion
import XmlBounds.Proofs.Text.Grouping
import XmlBounds.Proofs.Templates
import XmlBounds.Proofs.Text.Boundaries
import XmlBounds.Proofs.Dtd.ByteScan
import XmlBounds.Proofs.Dtd.ByteReaders
import XmlBounds.Proofs.Dtd.ByteDeclarations
import XmlBounds.Proofs.Dtd.ByteLoops
import XmlBounds.Proofs.Dtd.ByteBrackets
import XmlBounds.Proofs.Dtd.Boundaries
