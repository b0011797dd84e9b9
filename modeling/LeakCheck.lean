import LeakCheck.Batch.Program
import LeakCheck.Batch.Run
import LeakCheck.Check.Inspection
import LeakCheck.Check.Package
import LeakCheck.Command.Flag
import LeakCheck.Command.Help
import LeakCheck.Command.Report
import LeakCheck.Command.Run
import LeakCheck.Config.Basic
import LeakCheck.Config.Exclusion
import LeakCheck.Config.Load
import LeakCheck.Dataflow.Assignment
import LeakCheck.Dataflow.Solver
import LeakCheck.Dataflow.Standard
import LeakCheck.Dump.Dot
import LeakCheck.Dump.FileName
import LeakCheck.Dump.Listing
import LeakCheck.Dump.Write
import LeakCheck.Exchange.Program
import LeakCheck.Fact.Basic
import LeakCheck.Graph.Adjacency
import LeakCheck.Graph.Basic
import LeakCheck.Graph.Reachable
import LeakCheck.Json.Access
import LeakCheck.Json.Basic
import LeakCheck.Json.Reader
import LeakCheck.Leak.Basic
import LeakCheck.Log.Level
import LeakCheck.Log.Line
import LeakCheck.Log.Logger
import LeakCheck.Log.Record
import LeakCheck.Main
import LeakCheck.Node
import LeakCheck.Number.Binary
import LeakCheck.Number.Shortest
import LeakCheck.Pattern.Basic
import LeakCheck.Pattern.CharClass
import LeakCheck.Pattern.Expression
import LeakCheck.Pattern.Parser
import LeakCheck.Pattern.Program
import LeakCheck.Propagation.Analysis
import LeakCheck.Propagation.Event
import LeakCheck.Propagation.Heap
import LeakCheck.Propagation.Transfer
import LeakCheck.Ssa.Analyze
import LeakCheck.Ssa.Classifier
import LeakCheck.Ssa.Flow
import LeakCheck.Ssa.Member
import LeakCheck.Ssa.Program
import LeakCheck.Ssa.Spread
import LeakCheck.Ssa.Types
import LeakCheck.Statement
import LeakCheck.Storage.Workspace
import LeakCheck.Suppression.Basic
import LeakCheck.Suppression.Comment
import LeakCheck.Text.Blank
import LeakCheck.Text.CaseFold
import LeakCheck.Text.Category
import LeakCheck.Text.CategoryTable
import LeakCheck.Text.Decimal
import LeakCheck.Text.Numeral
import LeakCheck.Text.Order
import LeakCheck.Text.Quoted
import LeakCheck.Text.Script
import LeakCheck.Text.ScriptTable
import LeakCheck.Text.Utf8
import LeakCheck.Var
import LeakCheck.Yaml.Cursor
import LeakCheck.Yaml.Node
import LeakCheck.Yaml.Scalar
import LeakCheck.Yaml.ScalarText
import LeakCheck.Yaml.Scanner
import LeakCheck.Yaml.Tag
import LeakCheck.Yaml.ToJson
import LeakCheck.Yaml.Token
import LeakCheck.Yaml.Value
import LeakCheck.Proofs.List.Distinct
import LeakCheck.Proofs.Graph.Reachable
import LeakCheck.Proofs.Graph.Adjacency
import LeakCheck.Proofs.Dataflow.Run
import LeakCheck.Proofs.Dataflow.Equations
import LeakCheck.Proofs.Dataflow.Growth
import LeakCheck.Proofs.Dataflow.Changes
import LeakCheck.Proofs.Dataflow.Least
import LeakCheck.Proofs.Fact.Members
import LeakCheck.Proofs.Propagation.Flow
import LeakCheck.Proofs.Propagation.Run
import LeakCheck.Proofs.Propagation.Paths
import LeakCheck.Proofs.Propagation.Reports
import LeakCheck.Proofs.Propagation.Facts
import LeakCheck.Proofs.Propagation.Subgraph
import LeakCheck.Proofs.Propagation.Chains
import LeakCheck.Proofs.Propagation.Hosts
import LeakCheck.Proofs.Propagation.History
import LeakCheck.Proofs.Batch.Schedule
import LeakCheck.Proofs.Leak.Collector
import LeakCheck.Proofs.Propagation.Failures
import LeakCheck.Proofs.Batch.Sequential
import LeakCheck.Proofs.Batch.Accounting
import LeakCheck.Proofs.Command.ExitStatus
import LeakCheck.Proofs.Dataflow.Order
import LeakCheck.Proofs.Leak.Order
import LeakCheck.Proofs.Propagation.ClosedForm
import LeakCheck.Proofs.Ssa.Walk
import LeakCheck.Proofs.Ssa.Source
import LeakCheck.Proofs.Ssa.Flow
import LeakCheck.Proofs.Ssa.Analyze
import LeakCheck.Proofs.Check.Package
import LeakCheck.Proofs.Batch.Agreement
import LeakCheck.Proofs.Text.ByteOrder
import LeakCheck.Proofs.Text.Trim
import LeakCheck.Proofs.Suppression.Comment
import LeakCheck.Proofs.Leak.Dedup
import LeakCheck.Proofs.Leak.Listing
import LeakCheck.Proofs.Ssa.Classifier
import LeakCheck.Proofs.Ssa.Escape
import LeakCheck.Proofs.Suppression.Region
import LeakCheck.Proofs.Check.Exclusion
import LeakCheck.Proofs.Config.Exclusion
import LeakCheck.Proofs.Dump.FileName
import LeakCheck.Proofs.Storage.Place
import LeakCheck.Proofs.Storage.Workspace
import LeakCheck.Proofs.Dump.Write
import LeakCheck.Proofs.Command.Report
import LeakCheck.Proofs.Fact.Semilattice
import LeakCheck.Proofs.Propagation.Heap
import LeakCheck.Proofs.Fact.Rendering
