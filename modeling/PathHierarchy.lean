import PathHierarchy.Decimal.Binary64
import PathHierarchy.Decimal.Shortest
import PathHierarchy.Text.RangeTable
import PathHierarchy.Text.GraphemeExtend
import PathHierarchy.Text.Unprintable
import PathHierarchy.Text.Blank
import PathHierarchy.Text.Alphanumeric
import PathHierarchy.Text.Quoted
import PathHierarchy.Text.Pattern
import PathHierarchy.Json.Number
import PathHierarchy.Json.Value
import PathHierarchy.Json.Write
import PathHierarchy.Json.Debug
import PathHierarchy.Json.Fault
import PathHierarchy.Json.Cursor
import PathHierarchy.Json.Read
import PathHierarchy.Forest.Delimiter
import PathHierarchy.Forest.Entry
import PathHierarchy.Forest.Node
import PathHierarchy.Forest.Arena
import PathHierarchy.Forest.Build
import PathHierarchy.Forest.Sorting
import PathHierarchy.Selection
import PathHierarchy.Settings.Basic
import PathHierarchy.Settings.OfValue
import PathHierarchy.Settings.OfText
import PathHierarchy.Settings.Schema
import PathHierarchy.Log.Level
import PathHierarchy.Log.Stamp
import PathHierarchy.Log.Directive
import PathHierarchy.Log.Filter
import PathHierarchy.Log.Event
import PathHierarchy.Cli.Grammar
import PathHierarchy.Cli.Help
import PathHierarchy.Cli.Read
import PathHierarchy.Cli.Tool
import PathHierarchy.Run.Program
import PathHierarchy.Run.Session
import PathHierarchy.Run.Directory
import PathHierarchy.Main
import PathHierarchy.Proofs.Traversal
import PathHierarchy.Proofs.Nested
import PathHierarchy.Proofs.Arena.Shape
import PathHierarchy.Proofs.Arena.Steps
import PathHierarchy.Proofs.Arena.Walk
import PathHierarchy.Proofs.Arena.IntoRoots
import PathHierarchy.Proofs.Refinement
import PathHierarchy.Proofs.Addresses
import PathHierarchy.Proofs.Chains
import PathHierarchy.Proofs.Prefixes
import PathHierarchy.Proofs.Lookup
import PathHierarchy.Proofs.Canonical
import PathHierarchy.Proofs.Reordering
import PathHierarchy.Proofs.Normalize
import PathHierarchy.Proofs.Titles
import PathHierarchy.Proofs.SiblingOrder
import PathHierarchy.Proofs.Skipping
import PathHierarchy.Proofs.Repetition
import PathHierarchy.Proofs.Reading
import PathHierarchy.Proofs.SettingsFile
import PathHierarchy.Proofs.DelimiterWords
import PathHierarchy.Proofs.Splitting
import PathHierarchy.Proofs.Arena.Runs
import PathHierarchy.Proofs.SortingLoop
