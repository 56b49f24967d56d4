import MatrixFlow.Json.Read
import MatrixFlow.Main
import MatrixFlow.Proofs.Run.Result
import MatrixFlow.Rehearsal.Rule
import MatrixFlow.Proofs.Run.Verdict
import MatrixFlow.Proofs.Run.Cancellation
import MatrixFlow.Proofs.Run.Table
import MatrixFlow.Proofs.Run.Slots
import MatrixFlow.Proofs.Run.Behaviour
import MatrixFlow.Proofs.Run.Independence
import MatrixFlow.Proofs.Workflow.Plan
import MatrixFlow.Proofs.Run.Schedule
import MatrixFlow.Proofs.Matrix.Expansion
import MatrixFlow.Proofs.Run.Environment
import MatrixFlow.Proofs.Workflow.Acceptance
import MatrixFlow.Proofs.Workflow.Templates
import MatrixFlow.Proofs.Workflow.Exclusions
import MatrixFlow.Proofs.Run.Agreement
import MatrixFlow.Proofs.Run.Broadcast
import MatrixFlow.Proofs.Template.Substitution
import MatrixFlow.Proofs.Run.Export
import MatrixFlow.Proofs.Run.Directories
import MatrixFlow.Proofs.Cli.Checking
import MatrixFlow.Proofs.Report.Characters
import MatrixFlow.Proofs.Report.Outlets
import MatrixFlow.Proofs.Workflow.Keys
import MatrixFlow.Proofs.Template.Name
import MatrixFlow.Proofs.Matrix.Instances
import MatrixFlow.Proofs.Run.Limit
import MatrixFlow.Proofs.Run.Exchange
import MatrixFlow.Proofs.Run.Stopping
import MatrixFlow.Proofs.Run.TimeLimit
import MatrixFlow.Proofs.Run.Joining
import MatrixFlow.Proofs.Matrix.Runner
import MatrixFlow.Proofs.Run.Board
import MatrixFlow.Proofs.Run.Regrouping
import MatrixFlow.Proofs.Template.Body
import MatrixFlow.Proofs.Run.Provider
import MatrixFlow.Proofs.Shell.Spawn
import MatrixFlow.Proofs.Workflow.Order
import MatrixFlow.Proofs.Template.Pieces
import MatrixFlow.Proofs.Matrix.Combination
import MatrixFlow.Proofs.Workflow.Excerpt
import MatrixFlow.Proofs.Workflow.Scalars
import MatrixFlow.Proofs.Json.Conversion
