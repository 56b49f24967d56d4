import MatrixFlow.Run.Instance
import MatrixFlow.Run.Status
import MatrixFlow.Time.Duration

/-!
# Results

* `StepFailure`: why a step failed, in words by `StepFailure.text`, `StepFailure.headline` and
  `StepFailure.diagnostic`.
* `StepOutcome`, `InstanceResult`, `JobResult`, `WorkflowResult`: what steps, instances, jobs and a
  run came to. The status of a job and of a run is the aggregate of its parts.
-/

namespace MatrixFlow

/-- Why a step failed. -/
inductive StepFailure where
  | exit (code : Option Int) (diagnostic : String)
  | timedOut (limit : Duration)
  | unavailable (collaborator diagnostic : String)
deriving DecidableEq, Repr, Inhabited

namespace StepFailure

/-- How a process ended. -/
def exitText : Option Int → String
  | some code => "exit code " ++ Number.intText code
  | none => "terminated by signal"

/-- The failure without its diagnostic. -/
def headline : StepFailure → String
  | exit code _ => exitText code
  | timedOut limit => "timed out after " ++ limit.text
  | unavailable collaborator _ => collaborator ++ " unavailable"

/-- The failure with its diagnostic. -/
def text : StepFailure → String
  | exit code diagnostic =>
    if diagnostic.isEmpty then exitText code else exitText code ++ ": " ++ diagnostic
  | timedOut limit => "timed out after " ++ limit.text
  | unavailable collaborator diagnostic => collaborator ++ " unavailable: " ++ diagnostic

/-- What the process or the collaborator said, or else the failure in words. -/
def diagnostic : StepFailure → String
  | exit code diagnostic => if diagnostic.isEmpty then exitText code else diagnostic
  | timedOut limit => "timed out after " ++ limit.text
  | unavailable _ diagnostic => diagnostic

end StepFailure

/-- What a step that was started came to. -/
structure StepOutcome where
  index : Nat
  identifier : String
  displayName : String
  exitCode : Option Int
  stdout : String
  stderr : String
  /-- Why the step failed, if it did. -/
  failure : Option StepFailure
  duration : Duration
  /-- The variables that the step passes on. -/
  exported : List (String × String)
deriving DecidableEq, Repr, Inhabited

/-- The status of a step. -/
def StepOutcome.status (outcome : StepOutcome) : RunStatus :=
  if outcome.failure.isSome then .failed else .succeeded

/-- What an instance came to. -/
structure InstanceResult where
  summary : InstanceSummary
  status : RunStatus
  /-- The steps that were started, in order. -/
  steps : List StepOutcome
  duration : Duration
deriving Repr, Inhabited

namespace InstanceResult

/-- An instance that was cancelled before it started. -/
def cancelled (summary : InstanceSummary) : InstanceResult :=
  ⟨summary, .cancelled, [], Duration.zero⟩

/-- The first step that failed, with its failure. -/
def firstFailure? (result : InstanceResult) : Option (StepOutcome × StepFailure) :=
  result.steps.findSome? fun step => step.failure.map (step, ·)

end InstanceResult

/-- The kinds of causes for which a job has no instances. -/
inductive ExpansionKind where
  | emptyAxis
  | emptyMatrix
  | unresolvedRunner
deriving DecidableEq, Repr, Inhabited

/-- The name of a kind. -/
def ExpansionKind.name : ExpansionKind → String
  | emptyAxis => "EmptyAxis"
  | emptyMatrix => "EmptyMatrix"
  | unresolvedRunner => "UnresolvedRunner"

/-- The kind of a cause. -/
def ExpansionCause.kind : ExpansionCause → ExpansionKind
  | emptyAxis _ => .emptyAxis
  | emptyMatrix => .emptyMatrix
  | unresolvedRunner _ => .unresolvedRunner

/-- What reports tell of a job that has no instances. -/
structure Unexpanded where
  job : String
  kind : ExpansionKind
  message : String
deriving DecidableEq, Repr, Inhabited

/-- The error in words, with the job. -/
def Unexpanded.text (u : Unexpanded) : String :=
  "job '" ++ u.job ++ "': " ++ u.message

/-- What reports tell of the error. -/
def ExpansionError.unexpanded (e : ExpansionError) : Unexpanded :=
  ⟨e.job, e.cause.kind, e.message⟩

/-- What a job came to. -/
structure JobResult where
  id : String
  name : String
  status : RunStatus
  instances : List InstanceResult
  /-- Why the job has no instances, if that is so. -/
  unexpanded : Option Unexpanded
deriving Repr, Inhabited

namespace JobResult

/-- What a job came to whose instances have ended. -/
def ofInstances (id name : String) (instances : List InstanceResult) : JobResult :=
  ⟨id, name, RunStatus.aggregate (instances.map (·.status)), instances, none⟩

/-- A job without instances has failed. -/
def ofUnexpanded (name : String) (u : Unexpanded) : JobResult :=
  ⟨u.job, name, .failed, [], some u⟩

/-- How many instances ended with a status. -/
def count (job : JobResult) (status : RunStatus) : Nat :=
  (job.instances.filter fun r => r.status == status).length

end JobResult

/-- What a run came to. -/
structure WorkflowResult where
  workflow : String
  status : RunStatus
  jobs : List JobResult
  duration : Duration
deriving Repr, Inhabited

namespace WorkflowResult

/-- What a run came to whose jobs have ended. -/
def ofJobs (workflow : String) (jobs : List JobResult) (duration : Duration) : WorkflowResult :=
  ⟨workflow, RunStatus.aggregate (jobs.map (·.status)), jobs, duration⟩

/-- The instances of all jobs. -/
def instances (result : WorkflowResult) : List InstanceResult :=
  result.jobs.flatMap (·.instances)

/-- How many instances ended with a status. -/
def count (result : WorkflowResult) (status : RunStatus) : Nat :=
  (result.instances.filter fun r => r.status == status).length

end WorkflowResult

end MatrixFlow
