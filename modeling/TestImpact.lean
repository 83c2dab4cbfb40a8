import TestImpact.Number.Fixed
import TestImpact.Document.JsonWriter
import TestImpact.Config.Load
import TestImpact.Dependency
import TestImpact.Discovery.Resolver
import TestImpact.Layout
import TestImpact.Report.Reading
import TestImpact.Display.Results
import TestImpact.Display.Status
import TestImpact.Report.Export
import TestImpact.Result.OfTable
import TestImpact.CoverageEngine
import TestImpact.Execution.Job
import TestImpact.Execution.Session
import TestImpact.CommandLine.Program
import TestImpact.Engine
import TestImpact.Process.Spawn
import TestImpact.Main
import TestImpact.Proofs.Action
import TestImpact.Proofs.Outcome
import TestImpact.Proofs.Entries
import TestImpact.Proofs.Text.Utf8
import TestImpact.Proofs.Document.KeyPath
import TestImpact.Proofs.Document.Toml
import TestImpact.Proofs.Config.Variables
import TestImpact.Proofs.Config.Environment
import TestImpact.Proofs.Config.Failures
import TestImpact.Proofs.Dependency
import TestImpact.Proofs.Freshness
import TestImpact.Proofs.Layout
import TestImpact.Proofs.Path.Segments
import TestImpact.Proofs.Path.Lexical
import TestImpact.Proofs.Path.Transplant
import TestImpact.Proofs.Path.Containment
import TestImpact.Proofs.Path.Relative
import TestImpact.Proofs.Path.Roots
import TestImpact.Proofs.FileSystem.Walk
import TestImpact.Proofs.FileSystem.Standing
import TestImpact.Proofs.FileSystem.Inside
import TestImpact.Proofs.Discovery.Naming
import TestImpact.Proofs.Discovery.Structural
import TestImpact.Proofs.Discovery.Directories
import TestImpact.Proofs.Discovery.Declared
import TestImpact.Proofs.Discovery.Anywhere
import TestImpact.Proofs.Discovery.Selected
import TestImpact.Proofs.Discovery.SourceClass
import TestImpact.Proofs.Discovery.Listing
import TestImpact.Proofs.Discovery.Sorting
import TestImpact.Proofs.Discovery.Mirror
import TestImpact.Proofs.Discovery.Indexing
import TestImpact.Proofs.Discovery.Covering
import TestImpact.Proofs.Execution.Turns
import TestImpact.Proofs.Execution.Plan
import TestImpact.Proofs.Execution.Spellings
import TestImpact.Proofs.Execution.Identity
import TestImpact.Proofs.Execution.Representatives
import TestImpact.Proofs.Execution.Calls
import TestImpact.Proofs.Execution.Session
import TestImpact.Proofs.Execution.Printing
import TestImpact.Proofs.Execution.ReportsRoot
import TestImpact.Proofs.Execution.ReportNames
import TestImpact.Proofs.Report.Suites
import TestImpact.Proofs.Report.LineCounts
import TestImpact.Proofs.Report.Coverage
import TestImpact.Proofs.Report.Problems
import TestImpact.Proofs.Report.NamedFiles
import TestImpact.Proofs.Report.LineFeeds
import TestImpact.Proofs.Report.Flattening
import TestImpact.Proofs.Report.TestNames
import TestImpact.Proofs.Engine.Course
import TestImpact.Proofs.Engine.Visibility
import TestImpact.Proofs.Engine.Containment
import TestImpact.Proofs.Engine.Independence
import TestImpact.Proofs.Engine.Advice
import TestImpact.Proofs.Engine.Planning
import TestImpact.Proofs.Engine.Anywhere
import TestImpact.Proofs.Engine.Untouched
import TestImpact.Proofs.Engine.Respelled
import TestImpact.Proofs.Engine.Sessions
import TestImpact.Proofs.Engine.Gate
import TestImpact.Proofs.Engine.Leftovers
import TestImpact.Proofs.Process.Ending
import TestImpact.Proofs.CommandLine.Green
import TestImpact.Proofs.CommandLine.Loading
import TestImpact.Proofs.CommandLine.LinkedRoot
