import CodeInventory.CommandLine.Arguments
import CodeInventory.CommandLine.Run
import CodeInventory.Decimal.Binary64
import CodeInventory.Decimal.Shortest
import CodeInventory.Document.Value
import CodeInventory.Error
import CodeInventory.FileTree.Change
import CodeInventory.FileTree.Node
import CodeInventory.FileTree.Resolve
import CodeInventory.FileTree.Walk
import CodeInventory.Generate
import CodeInventory.Glob.Match
import CodeInventory.Glob.Parser
import CodeInventory.Glob.Pattern
import CodeInventory.Inventory.Basic
import CodeInventory.Inventory.Key
import CodeInventory.Inventory.Record
import CodeInventory.Inventory.Scan
import CodeInventory.Json.Printer
import CodeInventory.Json.Value
import CodeInventory.Main
import CodeInventory.NameSet
import CodeInventory.Path
import CodeInventory.Project
import CodeInventory.Proofs.CommandLine.Arrangements
import CodeInventory.Proofs.FileTree.Coverage
import CodeInventory.Proofs.FileTree.Creation
import CodeInventory.Proofs.FileTree.DeadLinks
import CodeInventory.Proofs.FileTree.Encounters
import CodeInventory.Proofs.FileTree.Following
import CodeInventory.Proofs.FileTree.Growth
import CodeInventory.Proofs.FileTree.Iteration
import CodeInventory.Proofs.FileTree.Leads
import CodeInventory.Proofs.FileTree.Listing
import CodeInventory.Proofs.FileTree.Making
import CodeInventory.Proofs.FileTree.Placement
import CodeInventory.Proofs.FileTree.Reading
import CodeInventory.Proofs.FileTree.Resolution
import CodeInventory.Proofs.FileTree.Sound
import CodeInventory.Proofs.FileTree.Spelling
import CodeInventory.Proofs.FileTree.Straight
import CodeInventory.Proofs.FileTree.Trails
import CodeInventory.Proofs.FileTree.Visits
import CodeInventory.Proofs.FileTree.WellFormed
import CodeInventory.Proofs.Glob.Cuts
import CodeInventory.Proofs.Glob.Notation
import CodeInventory.Proofs.Glob.Search
import CodeInventory.Proofs.Glob.Selection
import CodeInventory.Proofs.Inventory.Accounting
import CodeInventory.Proofs.Inventory.Aggregate
import CodeInventory.Proofs.Inventory.Discovery
import CodeInventory.Proofs.Inventory.Findings
import CodeInventory.Proofs.Inventory.FollowedLinks
import CodeInventory.Proofs.Inventory.Keys
import CodeInventory.Proofs.Inventory.LinkCycles
import CodeInventory.Proofs.Inventory.Rescan
import CodeInventory.Proofs.Inventory.RootSpelling
import CodeInventory.Proofs.Inventory.Sorted
import CodeInventory.Proofs.Inventory.Unlinked
import CodeInventory.Proofs.Json.Reader
import CodeInventory.Proofs.Json.RoundTrip
import CodeInventory.Proofs.Json.Tokens
import CodeInventory.Proofs.Path.Components
import CodeInventory.Proofs.Path.Parents
import CodeInventory.Proofs.Path.Segments
import CodeInventory.Proofs.Project.Build
import CodeInventory.Proofs.Project.Dependence
import CodeInventory.Proofs.Project.Failures
import CodeInventory.Proofs.Project.Frame
import CodeInventory.Proofs.Project.MissingRoots
import CodeInventory.Proofs.Project.Regeneration
import CodeInventory.Proofs.Report.Items
import CodeInventory.Proofs.Report.JsonRoundTrip
import CodeInventory.Proofs.Report.MarkdownLayout
import CodeInventory.Proofs.Report.MarkdownReader
import CodeInventory.Proofs.Report.MarkdownRoundTrip
import CodeInventory.Proofs.Report.RecordOrder
import CodeInventory.Proofs.Settings.Documents
import CodeInventory.Proofs.Settings.Effective
import CodeInventory.Proofs.Settings.History
import CodeInventory.Proofs.Settings.Outlines
import CodeInventory.Proofs.Settings.Validity
import CodeInventory.Proofs.Source.Callees
import CodeInventory.Proofs.Source.Calls
import CodeInventory.Proofs.Source.Chains
import CodeInventory.Proofs.Source.ExportedKinds
import CodeInventory.Proofs.Source.HiddenDeclarations
import CodeInventory.Proofs.Source.Occurrences
import CodeInventory.Proofs.Source.Overlaps
import CodeInventory.Proofs.Source.Prefixes
import CodeInventory.Proofs.Source.QuotedBodies
import CodeInventory.Proofs.Source.Reading
import CodeInventory.Proofs.Source.Separators
import CodeInventory.Proofs.Source.SharedQuotes
import CodeInventory.Proofs.Source.Spacing
import CodeInventory.Proofs.Text.Bytes
import CodeInventory.Proofs.Text.Encoding
import CodeInventory.Proofs.Text.Order
import CodeInventory.Proofs.Toml.Assembly
import CodeInventory.Proofs.Toml.Notation
import CodeInventory.Proofs.Toml.Reading
import CodeInventory.Proofs.Toml.Strings
import CodeInventory.Report.Extraction
import CodeInventory.Report.Json
import CodeInventory.Report.Markdown
import CodeInventory.Report.Render
import CodeInventory.Report.Summary
import CodeInventory.Settings.Basic
import CodeInventory.Settings.Decode
import CodeInventory.Settings.Fault
import CodeInventory.Settings.Load
import CodeInventory.Settings.Override
import CodeInventory.Settings.Validate
import CodeInventory.Source.Extractor
import CodeInventory.Source.Labels
import CodeInventory.Source.Reserved
import CodeInventory.Source.Shape
import CodeInventory.Source.Skip
import CodeInventory.Source.Symbols
import CodeInventory.Text.Blank
import CodeInventory.Text.Lines
import CodeInventory.Text.LowerCase
import CodeInventory.Text.Printable
import CodeInventory.Text.Quoted
import CodeInventory.Text.Ranges
import CodeInventory.Text.Utf8
import CodeInventory.Text.Word
import CodeInventory.Toml.Moment
import CodeInventory.Toml.Number
import CodeInventory.Toml.Parser
import CodeInventory.Toml.Quotation
import CodeInventory.Toml.Reader
import CodeInventory.Toml.Table
import CodeInventory.Traced
