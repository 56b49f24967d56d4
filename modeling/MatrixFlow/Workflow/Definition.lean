import MatrixFlow.Env
import MatrixFlow.Matrix.Combination
import MatrixFlow.Shell.Kind

/-!
# Workflow definitions

* `Workflow`, `Job`, `Step`: a definition that has been checked. Jobs and steps stand in the order
  of their declaration.
* `Step.identifier`, `Step.displayName`, `Job.displayName`, `Workflow.displayName`: how they are
  called in reports.
-/

namespace MatrixFlow

/-- A named dimension of variation with its values. -/
structure Axis where
  name : String
  values : List Json
deriving Repr, Inhabited

/-- What a job varies over. -/
structure Matrix where
  axes : List Axis
  /-- Further combinations, or further bindings for those that agree. -/
  extras : List Combination
  /-- Partial combinations to leave out. -/
  excluded : List Combination
deriving Repr, Inhabited

namespace Matrix

/-- No variation. -/
def none : Matrix := ⟨[], [], []⟩

/-- There are neither axes nor further combinations. -/
def isEmpty (m : Matrix) : Bool :=
  m.axes.isEmpty && m.extras.isEmpty

/-- A name is that of an axis. -/
def hasAxis (m : Matrix) (name : String) : Bool :=
  m.axes.any (·.name == name)

end Matrix

/-- The labels of the runner that a job asks for. -/
inductive RunsOn where
  | label (label : String)
  | labels (labels : List String)
deriving DecidableEq, Repr

/-- The labels in order. -/
def RunsOn.toList : RunsOn → List String
  | label l => [l]
  | labels ls => ls

/-- How to fetch sources. -/
structure CheckoutOptions where
  uses : String
  submodules : Bool
  fetchDepth : Option Nat
deriving DecidableEq, Repr

/-- Which toolchain to provide. -/
structure ToolchainOptions where
  uses : String
  profile : Option String
  toolchain : String
  /-- The toolchain is made the one of the workspace. -/
  overrides : Bool
  components : List String
deriving DecidableEq, Repr

/-- A command to run. -/
structure RunCommand where
  command : String
  shell : Shell
  workingDirectory : Option String
deriving DecidableEq, Repr

/-- What a step does. -/
inductive StepAction where
  | checkout (options : CheckoutOptions)
  | toolchain (options : ToolchainOptions)
  | run (command : RunCommand)
deriving DecidableEq, Repr

/-- A step of a job. -/
structure Step where
  id : Option String
  name : Option String
  env : List (String × String)
  timeoutMinutes : Option Nat
  action : StepAction
deriving DecidableEq, Repr

namespace Step

/-- The identifier of the step at an index: its id, else its name, else its position. -/
def identifier (step : Step) (index : Nat) : String :=
  match step.id, step.name with
  | some id, _ => id
  | none, some name => name
  | none, none => "step " ++ toString (index + 1)

/-- The first line of a command, cut to 47 characters if it has more than 50. -/
def commandTitle (command : String) : String :=
  let line := match Text.lines command.toList with
    | line :: _ => line
    | [] => command.toList
  if 50 < line.length then String.ofList (line.take 47) ++ "..." else String.ofList line

/-- The name of a step, made from what it does if it has none. -/
def displayName (step : Step) : String :=
  match step.name with
  | some name => name
  | none =>
    match step.action with
    | .checkout options => "Run " ++ options.uses
    | .toolchain options => "Run " ++ options.uses
    | .run command => "Run " ++ commandTitle command.command

end Step

/-- A job of a workflow. -/
structure Job where
  id : String
  name : Option String
  runsOn : RunsOn
  env : List (String × String)
  matrix : Matrix
  /-- One failing instance cancels the others. -/
  failFast : Bool
  /-- How many instances may run at once. -/
  maxParallel : Option Nat
  /-- The timeout of steps that name none. -/
  timeoutMinutes : Option Nat
  steps : List Step
deriving Repr

/-- The name of a job, or its id. -/
def Job.displayName (job : Job) : String :=
  job.name.getD job.id

/-- A workflow. -/
structure Workflow where
  name : Option String
  /-- The events that start the workflow. -/
  triggers : List String
  env : List (String × String)
  jobs : List Job
deriving Repr

namespace Workflow

/-- The name of a workflow. -/
def displayName (w : Workflow) : String :=
  w.name.getD "workflow"

/-- An event starts the workflow. -/
def isTriggeredBy (w : Workflow) (event : String) : Bool :=
  w.triggers.contains event

/-- The job of an id. -/
def job? (w : Workflow) (id : String) : Option Job :=
  w.jobs.find? (·.id == id)

end Workflow

end MatrixFlow
