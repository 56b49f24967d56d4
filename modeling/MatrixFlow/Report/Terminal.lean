import MatrixFlow.Run.Result

/-!
# Reports for terminals

`WorkflowResult.terminalReport` lists every instance with its status and its first failing step,
and sums up below.
-/

namespace MatrixFlow

/-- Lines, each with its ending. -/
def unlines (lines : List String) : String :=
  String.join (lines.map (· ++ "\n"))

namespace Terminal

/-- A sign for a status. -/
def sign : RunStatus → String
  | .succeeded => "+"
  | .failed => "x"
  | .cancelled => "-"

/-- Text with blanks up to nine places. -/
def padName (name : String) : String :=
  name ++ "".pushn ' ' (9 - name.length)

/-- The lines for the failure of a step. -/
def failureLines (step : StepOutcome) (failure : StepFailure) : List String :=
  ("       step '" ++ step.identifier ++ "' failed: " ++ failure.headline) ::
    failure.diagnostic.textLines.map ("         " ++ ·)

/-- The lines for an instance. -/
def instanceLines (r : InstanceResult) : List String :=
  ("  [" ++ sign r.status ++ "] " ++ padName r.status.name ++ " " ++ r.summary.label ++
      " (" ++ r.duration.text ++ ")") ::
    match r.firstFailure? with
    | some (step, failure) => failureLines step failure
    | none => []

/-- The lines for a job. -/
def jobLines (job : JobResult) : List String :=
  match job.unexpanded with
  | some u => ["  [x] " ++ job.name ++ " (not expanded)", "       " ++ u.message]
  | none => job.instances.flatMap instanceLines

/-- The line that sums up. -/
def summaryLine (result : WorkflowResult) : String :=
  let total := toString result.instances.length
  let time := " (" ++ result.duration.text ++ ")"
  if result.status = .succeeded then "  All " ++ total ++ " instances succeeded" ++ time
  else
    "  " ++ result.status.name ++ ": " ++ toString (result.count .failed) ++ " failed, " ++
      toString (result.count .cancelled) ++ " cancelled, " ++
      toString (result.count .succeeded) ++ " succeeded of " ++ total ++ time

/-- The line for jobs without instances, if there are any. -/
def unexpandedLines (result : WorkflowResult) : List String :=
  let count := (result.jobs.filter fun job => job.unexpanded.isSome).length
  if count = 0 then [] else ["  " ++ toString count ++ " jobs could not be expanded"]

end Terminal

/-- The report for a terminal. -/
def WorkflowResult.terminalReport (result : WorkflowResult) : String :=
  unlines <|
    ["", "Workflow: " ++ result.workflow, "".pushn '=' 60] ++
      result.jobs.flatMap Terminal.jobLines ++
      ["".pushn '-' 60, Terminal.summaryLine result] ++
      Terminal.unexpandedLines result ++ [""]

end MatrixFlow
