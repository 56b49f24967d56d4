import MatrixFlow.Run.Provider
import MatrixFlow.Run.Result
import MatrixFlow.Run.Status

/-!
# Steps and events

* `Event`: what a run tells about its progress.
* `classify`: what a reply means for a step.
* `isLate`: a step has given up on its collaborator.
* `Progress`: how far the steps of an instance have come.
* `closeStep`: the outcome of a step, the environment behind it, and the events.
-/

namespace MatrixFlow

/-- What a run tells about its progress. Jobs are named by their ids and instances by their
labels. -/
inductive Event where
  | workflowStarted (workflow : String) (jobs : Nat)
  | workflowCompleted (workflow : String) (status : RunStatus)
  | jobExpanded (job : String) (instances : Nat)
  | jobExpansionFailed (job error : String)
  | instanceStarted (job label : String) (index : Nat) (runner : String) (steps : Nat)
  | instanceCompleted (job label : String) (index : Nat) (status : RunStatus)
  | stepStarted (job label : String) (step : Nat) (displayName : String)
  | stepOutput (job label : String) (step : Nat) (line : String) (isError : Bool)
  | stepCompleted (job label : String) (step : Nat) (status : RunStatus) (exitCode : Option Int)
      (diagnostic : Option String)
  | envExported (job label name value : String)
deriving DecidableEq, Repr

/-- The text by which a failed command explains itself: what it wrote to the error output, or else
the last line of its output that is not blank. -/
def exitDiagnostic (o : CommandOutput) : String :=
  let said := o.stderr.trimBlanks
  if said.isEmpty then
    ((o.stdout.textLines.reverse.map String.trimBlanks).find? fun l => !l.isEmpty).getD ""
  else said

/-- What a reply means for a step with a time limit: the output that is kept, and the failure if
there is one. -/
def classify (limit : Option Duration) : Reply → CommandOutput × Option StepFailure
  | .error e => (CommandOutput.empty, some (.unavailable e.collaborator e.diagnostic))
  | .ok o =>
    if o.timedOut then (o, some (.timedOut (limit.getD Duration.zero)))
    else if o.isSuccess then (o, none)
    else (o, some (.exit o.exitCode (exitDiagnostic o)))

/-- The time that a collaborator has to come back beyond the limit of the step. -/
def graceTime : Duration := Duration.ofSeconds 1

/-- The time after which a step gives up on its collaborator. -/
def patience (limit : Duration) : Duration := limit.add graceTime

/-- A step with a limit has given up before so much time has passed. -/
def isLate (limit : Option Duration) (spent : Duration) : Bool :=
  limit.any fun limit => (patience limit).nanos < spent.nanos

/-- The reply that is assumed when a collaborator does not come back in time. -/
def lateReply : Reply :=
  .ok { CommandOutput.empty with timedOut := true }

/-- How far the steps of an instance have come. -/
structure Progress where
  /-- The step that is next, or under way. -/
  index : Nat
  env : StepEnv
  /-- The steps that have ended, in order. -/
  outcomes : List StepOutcome
deriving DecidableEq, Repr

/-- Nothing has been done yet. -/
def Progress.start (i : Instance) : Progress :=
  ⟨0, StepEnv.start i, []⟩

namespace Instance

/-- The event that the instance has ended. -/
def completedEvent (i : Instance) (status : RunStatus) : Event :=
  .instanceCompleted i.job.id i.label i.index status

/-- The event that the instance begins. -/
def startedEvent (i : Instance) : Event :=
  .instanceStarted i.job.id i.label i.index i.runner i.job.steps.length

/-- The events for lines of output. -/
def outputEvents (i : Instance) (index : Nat) (text : String) (isError : Bool) : List Event :=
  text.textLines.map fun line => .stepOutput i.job.id i.label index line isError

/-- What the instance came to. The durations of results are not known here, and stay zero. -/
def resultOf (i : Instance) (status : RunStatus) (outcomes : List StepOutcome) : InstanceResult :=
  ⟨i.summary, status, outcomes, Duration.zero⟩

end Instance

/-- A step that has ended. -/
structure ClosedStep where
  outcome : StepOutcome
  env : StepEnv
  events : List Event

/-- Ends a step with a reply. Only a step that succeeds passes something on. -/
def closeStep (services : Services) (i : Instance) (p : Progress) (step : Step) (reply : Reply) :
    ClosedStep :=
  let (output, failure) := classify (services.timeout i.job step) reply
  let exports := if failure.isNone then Exports.ofOutput output.stdout else Exports.empty
  let outcome : StepOutcome :=
    { index := p.index
      identifier := step.identifier p.index
      displayName := step.displayName
      exitCode := output.exitCode
      stdout := output.stdout
      stderr := output.stderr
      failure := failure
      duration := Duration.zero
      exported := exports.vars }
  let exported := exports.vars.map fun (k, v) => Event.envExported i.job.id i.label k v
  { outcome
    env := p.env.apply exports
    events := i.outputEvents p.index output.stdout false ++
      i.outputEvents p.index output.stderr true ++ exported ++
      [.stepCompleted i.job.id i.label p.index outcome.status output.exitCode
        (failure.map StepFailure.diagnostic)] }

end MatrixFlow
