import MatrixFlow.Cli.Screen
import MatrixFlow.Run.Conduct

/-!
# Progress on the screen

`progressLines` shows the events of a run, each with the time that it took.
-/

namespace MatrixFlow

namespace Progress

/-- The style in which an end is shown. -/
def styleOf : RunStatus → Style
  | .succeeded => .green
  | .failed => .red
  | .cancelled => .faint

/-- The end of a run. -/
def runEnd (colors : Bool) (time : String) : RunStatus → ScreenText
  | .succeeded => Screen.success colors ("Workflow completed successfully in " ++ time)
  | .failed => Screen.failure colors ("Workflow failed after " ++ time)
  | .cancelled => Screen.warning colors ("Workflow cancelled after " ++ time)

/-- The end of a step. An exit code is told if it is not zero. -/
def stepEnd (colors : Bool) (time : String) (status : RunStatus) (exitCode : Option Int)
    (diagnostic : Option String) : List ScreenText :=
  let exit := match exitCode.filter (· ≠ 0) with
    | some code => " (exit code: " ++ Number.intText code ++ ")"
    | none => ""
  match status with
  | .succeeded => [Screen.painted colors .green ("        OK (" ++ time ++ ")" ++ exit)]
  | _ =>
    Screen.painted colors .red ("        FAIL (" ++ time ++ ")" ++ exit) ::
      (diagnostic.map fun text => Screen.painted colors .red ("        " ++ text)).toList

/-- The lines for an event that took some time. -/
def lines (colors : Bool) (time : String) : Event → List ScreenText
  | .workflowStarted name jobs =>
    [Screen.plain "",
      Screen.painted colors .bold
        ("==> Workflow '" ++ name ++ "' (" ++ toString jobs ++ " jobs)")]
  | .workflowCompleted _ status => [Screen.plain "", runEnd colors time status]
  | .jobExpanded job instances => [Screen.jobHeader colors job instances]
  | .jobExpansionFailed job error =>
    [Screen.error colors ("Job '" ++ job ++ "' not run: " ++ error)]
  | .instanceStarted _ label _ runner steps =>
    [Screen.plain ("    " ++ label ++ " on " ++ runner ++ " (" ++ toString steps ++ " steps)")]
  | .instanceCompleted _ label _ status =>
    [Screen.painted colors (styleOf status)
      ("    " ++ label ++ " " ++ status.name.map Char.toUpper ++ " (" ++ time ++ ")")]
  | .stepStarted _ label step name =>
    [Screen.plain ("      [" ++ label ++ " step " ++ toString (step + 1) ++ "] " ++ name)]
  | .stepOutput _ _ _ line isError =>
    if isError then [Screen.painted colors .red ("        | " ++ line)]
    else [Screen.plain ("        | " ++ line)]
  | .stepCompleted _ _ _ status exitCode diagnostic =>
    stepEnd colors time status exitCode diagnostic
  | .envExported _ _ name value =>
    [Screen.painted colors .faint ("        [env] " ++ name ++ " = " ++ value)]

end Progress

/-- The lines for the events of a run, each with the time that it took. -/
def progressLines (colors : Bool) (trace : List TimedEvent) : List ScreenText :=
  trace.flatMap fun e => Progress.lines colors (elapsed trace e).text e.event

end MatrixFlow
