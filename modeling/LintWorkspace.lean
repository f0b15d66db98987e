import LintWorkspace.Analyzer.Manifest
import LintWorkspace.Analyzer.Rule
import LintWorkspace.Analyzer.Staging
import LintWorkspace.CommandLine.Command
import LintWorkspace.CommandLine.Run
import LintWorkspace.CommandLine.Words
import LintWorkspace.Decimal.Binary64
import LintWorkspace.Diagnostic.Analysis
import LintWorkspace.Diagnostic.Basic
import LintWorkspace.Diagnostic.Parameter
import LintWorkspace.Diagnostic.Position
import LintWorkspace.Disk.Basic
import LintWorkspace.Disk.Writing
import LintWorkspace.Glob.Pattern
import LintWorkspace.Glob.Walk
import LintWorkspace.Hash.Blake3
import LintWorkspace.Json
import LintWorkspace.Main
import LintWorkspace.Path.Basic
import LintWorkspace.Path.Display
import LintWorkspace.Path.Location
import LintWorkspace.Project.Build
import LintWorkspace.Project.Definition
import LintWorkspace.Project.Snapshot
import LintWorkspace.Regex.Class
import LintWorkspace.Regex.Expression
import LintWorkspace.Regex.Pattern
import LintWorkspace.Regex.Program
import LintWorkspace.Regex.Search
import LintWorkspace.Report.Check
import LintWorkspace.Report.Ruleset
import LintWorkspace.Report.Style
import LintWorkspace.Ruleset.Document
import LintWorkspace.Ruleset.Edit
import LintWorkspace.Ruleset.Resolution
import LintWorkspace.Settings.Effective
import LintWorkspace.Settings.File
import LintWorkspace.Severity
import LintWorkspace.SortedMap
import LintWorkspace.Text.Blank
import LintWorkspace.Text.CharSet
import LintWorkspace.Text.Quoted
import LintWorkspace.Toml.Document
import LintWorkspace.Toml.Gap
import LintWorkspace.Toml.Literal
import LintWorkspace.Toml.Moment
import LintWorkspace.Toml.Number
import LintWorkspace.Toml.Quoting
import LintWorkspace.Toml.Reader
import LintWorkspace.Toml.Shape
import LintWorkspace.Toml.Value
import LintWorkspace.Unicode.CaseFolding
import LintWorkspace.Unicode.Category
import LintWorkspace.Unicode.Property
import LintWorkspace.Unicode.Script
import LintWorkspace.Unicode.Word
import LintWorkspace.Update.Basic
import LintWorkspace.Update.Broadcaster
import LintWorkspace.Workspace.Basic
import LintWorkspace.Workspace.OpenProject
import LintWorkspace.Workspace.Queue
import LintWorkspace.Workspace.Scope
import LintWorkspace.Workspace.Session
import LintWorkspace.Yaml.Reader
import LintWorkspace.Yaml.Scalar
import LintWorkspace.Proofs.Run
import LintWorkspace.Proofs.Build
import LintWorkspace.Proofs.Orderly
import LintWorkspace.Proofs.Orders
import LintWorkspace.Proofs.Ledger
import LintWorkspace.Proofs.Work
import LintWorkspace.Proofs.Disk
import LintWorkspace.Proofs.Footprint
import LintWorkspace.Proofs.Course
import LintWorkspace.Proofs.Reach
import LintWorkspace.Proofs.Cycle
import LintWorkspace.Proofs.Precedence
import LintWorkspace.Proofs.Walk
import LintWorkspace.Proofs.Growth
import LintWorkspace.Proofs.Freshness
import LintWorkspace.Proofs.Filter
import LintWorkspace.Proofs.Parts
import LintWorkspace.Proofs.Drainer
import LintWorkspace.Proofs.Roles
import LintWorkspace.Proofs.Spelling
import LintWorkspace.Proofs.Recognition
import LintWorkspace.Proofs.Literal
import LintWorkspace.Proofs.Token
import LintWorkspace.Proofs.Legible
import LintWorkspace.Proofs.Printing
import LintWorkspace.Proofs.Layout
import LintWorkspace.Proofs.Table
import LintWorkspace.Proofs.Elements
import LintWorkspace.Proofs.Decode
import LintWorkspace.Proofs.Action
import LintWorkspace.Proofs.Edited
import LintWorkspace.Proofs.Regrade
import LintWorkspace.Proofs.Quiet
import LintWorkspace.Proofs.Unstaged
import LintWorkspace.Proofs.Diagnosis
import LintWorkspace.Proofs.Adjustment
import LintWorkspace.Proofs.Batch
import LintWorkspace.Proofs.Loading
import LintWorkspace.Proofs.Store
import LintWorkspace.Proofs.Contained
import LintWorkspace.Proofs.Tree
import LintWorkspace.Proofs.Copying
import LintWorkspace.Proofs.Rebuilding
import LintWorkspace.Proofs.Independence
import LintWorkspace.Proofs.Delivery
import LintWorkspace.Proofs.Coherence
import LintWorkspace.Proofs.Failure
import LintWorkspace.Proofs.Addressed
import LintWorkspace.Proofs.LineBreaks
import LintWorkspace.Proofs.Editing
import LintWorkspace.Proofs.Matches
import LintWorkspace.Proofs.Findings
import LintWorkspace.Proofs.Quoting
import LintWorkspace.Proofs.Redirection
import LintWorkspace.Proofs.Closing
import LintWorkspace.Proofs.Normal
import LintWorkspace.Proofs.Stretches
import LintWorkspace.Proofs.Cutting
import LintWorkspace.Proofs.InPlace
import LintWorkspace.Proofs.Insertion
import LintWorkspace.Proofs.Acceptance
import LintWorkspace.Proofs.Codes
import LintWorkspace.Proofs.Swapping
import LintWorkspace.Proofs.Reread
import LintWorkspace.Proofs.Composition
import LintWorkspace.Proofs.Heads
import LintWorkspace.Proofs.Pieces
import LintWorkspace.Proofs.Names
import LintWorkspace.Proofs.Reports
import LintWorkspace.Proofs.Bytes
import LintWorkspace.Proofs.Slices
import LintWorkspace.Proofs.Words
import LintWorkspace.Proofs.Defaults
import LintWorkspace.Proofs.Entrance
import LintWorkspace.Proofs.Separate
import LintWorkspace.Proofs.Homes
import LintWorkspace.Proofs.Trail
import LintWorkspace.Proofs.Detection
import LintWorkspace.Proofs.Decoration
import LintWorkspace.Proofs.Agreement
import LintWorkspace.Proofs.Classes
import LintWorkspace.Proofs.Mentions
import LintWorkspace.Proofs.Positions
import LintWorkspace.Proofs.Folding
