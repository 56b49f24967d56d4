import MatrixFlow.Files.Tree
import MatrixFlow.Workflow.Check.Matrix
import MatrixFlow.Workflow.Check.Step
import MatrixFlow.Workflow.Trigger

/-!
# Reading workflows

* `Check.checkJob`: reads a job: its runner, environment, strategy, timeout and steps, in that
  order; the first fault counts.
* `Check.checkWorkflow`: makes a definition of a document, or says what is wrong with it.
* `Workflow.ofText`, `Workflow.ofFile`: reads a workflow from its text, or from a file.
* `LoadFault`: why there is no workflow in a file.
-/

namespace MatrixFlow

namespace Check

open Yaml (Value)

/-- The labels of a runner, if there are any. -/
def runsOn? : Option RunsOnDocument → Option RunsOn
  | some (.label label) => if label.isAllBlank then none else some (.label label)
  | some (.labels labels) => if labels.isEmpty then none else some (.labels labels)
  | none => none

/-- Reads the labels of the runner. -/
def checkRunsOn (source job : String) (document : Option RunsOnDocument) : Checked RunsOn :=
  match runsOn? document with
  | none =>
    rejectWith source ("job '" ++ job ++ "' is missing 'runs-on'") job
      "add 'runs-on: ubuntu-latest' (or another runner label)"
  | some runsOn => do
    for label in runsOn.toList do
      checkTemplate source label job ("job '" ++ job ++ "' runs-on")
    .ok runsOn

/-- Reads how many instances may run at once. -/
def checkMaxParallel (source job : String) (limit : Option Nat) : Checked (Option Nat) :=
  if limit = some 0 then
    reject source ("job '" ++ job ++ "': max-parallel must be at least 1") "max-parallel"
  else .ok limit

/-- What a job's instances are and how they run. -/
structure Strategy where
  matrix : Matrix
  failFast : Bool
  maxParallel : Option Nat

/-- Reads a strategy; without one there is no variation, and failures cancel. -/
def checkStrategy (source job : String) (document : Option StrategyDocument) :
    Checked Strategy :=
  match document with
  | none => .ok ⟨Matrix.none, true, none⟩
  | some strategy => do
    let matrix ← match strategy.matrix with
      | some value => checkMatrix source job value
      | none => .ok Matrix.none
    let maxParallel ← checkMaxParallel source job strategy.maxParallel
    .ok ⟨matrix, strategy.failFast, maxParallel⟩

/-- Reads the steps of a job from an index on. -/
def checkStepsFrom (source job : String) (index : Nat) : List StepDocument → Checked (List Step)
  | [] => .ok []
  | step :: rest => do
    let step ← checkStep source job index step
    let rest ← checkStepsFrom source job (index + 1) rest
    .ok (step :: rest)

/-- Reads the steps of a job; there is at least one. -/
def checkSteps (source job : String) (steps : Option (List StepDocument)) :
    Checked (List Step) :=
  match steps with
  | some (step :: rest) => checkStepsFrom source job 0 (step :: rest)
  | _ =>
    rejectWith source ("job '" ++ job ++ "' has no steps") job
      "jobs must have a 'steps' field. Add steps to define what the job should do."

/-- Reads a job. -/
def checkJob (source id : String) (document : JobDocument) : Checked Job := do
  let runsOn ← checkRunsOn source id document.runsOn
  let env ← checkEnv source id document.env
  let strategy ← checkStrategy source id document.strategy
  if document.timeoutMinutes = some 0 then
    reject source ("job '" ++ id ++ "': timeout-minutes must be at least 1") id
  let steps ← checkSteps source id document.steps
  .ok ⟨id, document.name, runsOn, env, strategy.matrix, strategy.failFast, strategy.maxParallel,
    document.timeoutMinutes, steps⟩

/-- Reads the events that start the workflow; there is at least one, and the policy allows all. -/
def checkTriggers (source : String) (policy : TriggerPolicy) (on : TriggerDocument) :
    Checked (List String) :=
  let events := on.eventNames
  if events.isEmpty then reject source "workflow declares no trigger events" "on"
  else
    match events.find? fun event => !policy.allows event with
    | some event =>
      .error (((Rejection.unsupportedTrigger event).locate source event).suggest
        ("supported events: " ++ ", ".intercalate policy.events))
    | none => .ok events

/-- Reads an entry of the mapping of jobs. -/
def checkJobEntry (source : String) (key value : Value) : Checked Job :=
  match key.asText? with
  | none => reject source "job identifiers must be strings" "jobs"
  | some id =>
    match JobDocument.ofValue value with
    | .error e => reject source ("job '" ++ id ++ "': " ++ e.message) id
    | .ok document => checkJob source id document

/-- Reads a workflow from what its text says. -/
def checkWorkflow (source : String) (policy : TriggerPolicy) (document : WorkflowDocument) :
    Checked Workflow := do
  let triggers ← checkTriggers source policy document.on
  let env ← checkEnv source "env" document.env
  if document.jobs.isEmpty then
    rejectWith source "workflow has no jobs" "jobs" "add at least one job under 'jobs:'"
  let jobs ← document.jobs.mapM fun (key, value) => checkJobEntry source key value
  .ok ⟨document.name, triggers, env, jobs⟩

end Check

/-- Reads a workflow from its text. -/
def Workflow.ofText (policy : TriggerPolicy) (source : String) : Except Rejection Workflow :=
  match WorkflowDocument.load source.toList with
  | .error e => .error (Rejection.ofLoadError e source)
  | .ok document => Check.checkWorkflow source policy document

/-- Why there is no workflow in a file. -/
inductive LoadFault where
  | unreadable (fault : FileFault)
  | rejected (rejection : Rejection)

/-- The fault in words. -/
def LoadFault.message : LoadFault → String
  | unreadable fault => "io error: " ++ fault.numberedText
  | rejected rejection => rejection.display

/-- The workflow in the file to which a path leads from a directory on. -/
def Workflow.ofFile (policy : TriggerPolicy) (files : FileTree) (directory : List String)
    (path : String) : Except LoadFault Workflow := do
  let parts ← (files.follow directory path).mapError LoadFault.unreadable
  let source ← (files.readText parts).mapError LoadFault.unreadable
  (Workflow.ofText policy source).mapError LoadFault.rejected

end MatrixFlow
