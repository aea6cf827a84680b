import WorkflowCheck.Main
import WorkflowCheck.Outcome.Decoding
import WorkflowCheck.Pointer
import WorkflowCheck.Proofs.Diff.Minimality
import WorkflowCheck.Proofs.Diff.NormalForm
import WorkflowCheck.Proofs.Diff.Bounds
import WorkflowCheck.Proofs.Rules.Schema
import WorkflowCheck.Proofs.Run.Convergence
import WorkflowCheck.Proofs.Snapshot.Identity
import WorkflowCheck.Proofs.Snapshot.Lines
import WorkflowCheck.Proofs.Snapshot.Roundtrip
import WorkflowCheck.Proofs.Diagnostic.Reading
import WorkflowCheck.Proofs.Rules.Violation
import WorkflowCheck.Proofs.Rules.Completeness
import WorkflowCheck.Proofs.Rules.Pointing
import WorkflowCheck.Proofs.Rules.Place
import WorkflowCheck.Proofs.Report.PlainDifference
import WorkflowCheck.Proofs.Report.ColoredDifference
import WorkflowCheck.Proofs.Report.Stream
import WorkflowCheck.Proofs.Run.Extent
import WorkflowCheck.Proofs.Run.Inputs
import WorkflowCheck.Proofs.Run.Truncation
import WorkflowCheck.Proofs.Run.Independence
import WorkflowCheck.Proofs.CommandLine.SingleFile
import WorkflowCheck.Proofs.CommandLine.Snapshots
import WorkflowCheck.Proofs.Path
import WorkflowCheck.Proofs.FileTree.Names
import WorkflowCheck.Proofs.Discovery.Selection
import WorkflowCheck.Proofs.Discovery.Exactness
import WorkflowCheck.Proofs.Discovery.Order
import WorkflowCheck.Proofs.Kind
import WorkflowCheck.Proofs.Rules.AddedJob
import WorkflowCheck.Proofs.Value.Reordering
import WorkflowCheck.Proofs.Decimal.Double
import WorkflowCheck.Proofs.Timestamp
import WorkflowCheck.Proofs.Decimal.Written
import WorkflowCheck.Proofs.Json.Double
import WorkflowCheck.Proofs.CommandLine.Summary
