import MatrixFlow.Report.Junit
import MatrixFlow.Report.Terminal
import MatrixFlow.Run.Result
import MatrixFlow.Text.Lines

/-!
# Reports

* `WorkflowResult.toJson`: everything that is known of a run, as JSON. Fields stand in a fixed order,
  and the bindings of a combination in theirs.
* `ReportFormat`: the formats by their names.
* `WorkflowResult.report`: what a run came to, in one of the formats.
-/

namespace MatrixFlow

/-! ## JSON -/

namespace Json

/-- A natural number as a value. -/
def ofNat (n : Nat) : Json := num (.int n)

/-- A duration in milliseconds. -/
def ofDuration (d : Duration) : Json := ofNat d.reportedMillis

/-- An optional value; null stands for none. -/
def ofOption {α : Type} (f : α → Json) : Option α → Json
  | some a => f a
  | none => null

end Json

/-- A status with a capital letter. -/
def RunStatus.title : RunStatus → String
  | succeeded => "Succeeded"
  | failed => "Failed"
  | cancelled => "Cancelled"

/-- The failure of a step. -/
def StepFailure.toJson : StepFailure → Json
  | exit code diagnostic =>
    .obj [("cause", .str "NonZeroExit"), ("exit_code", Json.ofOption (.num ∘ .int) code),
      ("diagnostic", .str diagnostic)]
  | timedOut limit => .obj [("cause", .str "TimedOut"), ("after_ms", Json.ofDuration limit)]
  | unavailable collaborator diagnostic =>
    .obj [("cause", .str "CollaboratorUnavailable"), ("collaborator", .str collaborator),
      ("diagnostic", .str diagnostic)]

/-- What a step came to. -/
def StepOutcome.toJson (o : StepOutcome) : Json :=
  .obj [("index", Json.ofNat o.index), ("identifier", .str o.identifier),
    ("display_name", .str o.displayName), ("status", .str o.status.title),
    ("exit_code", Json.ofOption (.num ∘ .int) o.exitCode), ("stdout", .str o.stdout),
    ("stderr", .str o.stderr), ("failure", Json.ofOption StepFailure.toJson o.failure),
    ("duration_ms", Json.ofDuration o.duration),
    ("exported", .arr (o.exported.map fun (k, v) => .arr [.str k, .str v]))]

/-- Which instance it was. -/
def InstanceSummary.toJson (s : InstanceSummary) : Json :=
  .obj [("job_id", .str s.jobId), ("index", Json.ofNat s.index), ("label", .str s.label),
    ("matrix", s.matrix.toJson), ("runner", .str s.runner)]

/-- What an instance came to. -/
def InstanceResult.toJson (r : InstanceResult) : Json :=
  .obj [("instance", r.summary.toJson), ("status", .str r.status.title),
    ("steps", .arr (r.steps.map StepOutcome.toJson)), ("duration_ms", Json.ofDuration r.duration)]

/-- Why a job has no instances. -/
def Unexpanded.toJson (u : Unexpanded) : Json :=
  .obj [("job", .str u.job), ("kind", .str u.kind.name), ("message", .str u.message)]

/-- What a job came to. -/
def JobResult.toJson (job : JobResult) : Json :=
  .obj [("job_id", .str job.id), ("job_name", .str job.name), ("status", .str job.status.title),
    ("instances", .arr (job.instances.map InstanceResult.toJson)),
    ("expansion_error", Json.ofOption Unexpanded.toJson job.unexpanded)]

/-- What a run came to. -/
def WorkflowResult.toJson (result : WorkflowResult) : Json :=
  .obj [("workflow", .str result.workflow), ("status", .str result.status.title),
    ("jobs", .arr (result.jobs.map JobResult.toJson)),
    ("duration_ms", Json.ofDuration result.duration)]

/-! ## Formats -/

/-- The format of a report. -/
inductive ReportFormat where
  | terminal
  | json
  | junit
deriving DecidableEq, Repr

namespace ReportFormat

/-- The format that is used without further choice. -/
def standard : ReportFormat := terminal

/-- The name of a format. -/
def name : ReportFormat → String
  | terminal => "terminal"
  | json => "json"
  | junit => "junit"

/-- The format of a name, in any case. -/
def ofName? (name : String) : Option ReportFormat :=
  match name.lowered with
  | "terminal" | "text" | "console" => some terminal
  | "json" => some json
  | "junit" | "junit-xml" | "xml" => some junit
  | _ => none

/-- Why a name is not that of a format. -/
def unknownMessage (name : String) : String :=
  "Unknown report format '" ++ name ++ "'. Valid formats: terminal, json, junit"

end ReportFormat

/-- The report in a format. -/
def WorkflowResult.report (result : WorkflowResult) : ReportFormat → String
  | .terminal => result.terminalReport
  | .json => result.toJson.pretty
  | .junit => result.junitReport

end MatrixFlow
