import MatrixFlow.Cli.Options
import MatrixFlow.Cli.Progress
import MatrixFlow.Report
import MatrixFlow.Shell.Process
import MatrixFlow.Workflow.Check

/-!
# The program

The program reads its arguments in surroundings that hold everything it can see, and comes to
texts for its outputs and an exit code.

* `Surroundings`: what the program can see.
* `ExitCode`: how it ends.
* `runProgram`: what it does.
-/

namespace MatrixFlow

/-- What the program can see. -/
structure Surroundings where
  env : Env
  directory : List String
  files : FileTree

/-- How the program ends. -/
inductive ExitCode where
  | success
  | failed
  | cancelled
  | inputError
deriving DecidableEq, Repr

/-- The number of an end. -/
def ExitCode.number : ExitCode → Nat
  | success => 0
  | failed => 1
  | cancelled => 2
  | inputError => 3

/-- The end of a run by its status. -/
def ExitCode.ofStatus : RunStatus → ExitCode
  | .succeeded => success
  | .failed => failed
  | .cancelled => cancelled

/-- What the program has shown, and how it ended. -/
structure CliResult where
  shown : List ScreenText
  code : ExitCode

namespace CliResult

/-- The texts for one of the outputs. -/
def output (r : CliResult) (toError : Bool) : String :=
  String.join ((r.shown.filter fun t => t.toError == toError).map (·.text))

/-- An error in the input. -/
def inputError (colors : Bool) (message : String) : CliResult :=
  ⟨[Screen.error colors message], .inputError⟩

/-- The same with something shown before. -/
def after (r : CliResult) (shown : List ScreenText) : CliResult :=
  { r with shown := shown ++ r.shown }

end CliResult

namespace Surroundings

/-- Texts are shown in colours. -/
def colors (s : Surroundings) : Bool := s.env.wantsColors

/-- Reads a workflow, and goes on unless there is none. -/
def withWorkflow (s : Surroundings) (path : String) (next : Workflow → CliResult) : CliResult :=
  match Workflow.ofFile .standard s.files s.directory path with
  | .ok w => next w
  | .error (.rejected r) => ⟨[Screen.note r.display], .inputError⟩
  | .error (.unreadable f) =>
    CliResult.inputError s.colors ("cannot read " ++ path ++ ": " ++ f.numberedText)

/-! ## Checking -/

/-- Checks a workflow and the matrices of its jobs. -/
def validate (s : Surroundings) (path : String) : CliResult :=
  let checked (w : Workflow) : CliResult :=
    let steps := total (w.jobs.map (·.steps.length))
    let head := [
      Screen.check s.colors ("Workflow '" ++ w.displayName ++ "' parsed (triggers: " ++
        ", ".intercalate w.triggers ++ ")"),
      Screen.check s.colors ("Structure: " ++ toString w.jobs.length ++ " jobs, " ++
        toString steps ++ " steps")]
    let jobs := w.jobs.map fun job =>
      match job.combinations with
      | .ok cs =>
        Screen.check s.colors ("Job '" ++ job.id ++ "': " ++ toString cs.length ++ " instance(s)")
      | .error e => Screen.error s.colors e.text
    let bad := (w.jobs.filter fun job => match job.combinations with
      | .ok _ => false
      | .error _ => true).length
    if bad > 0 then
      ⟨head ++ jobs ++ [Screen.failure s.colors (toString bad ++ " job(s) cannot be expanded")],
        .inputError⟩
    else ⟨head ++ jobs ++ [Screen.plain "", Screen.success s.colors "Workflow is valid"], .success⟩
  (s.withWorkflow path checked).after [Screen.status s.colors "Validating" path]

/-! ## Showing instances -/

/-- The line for an instance. -/
def instanceLine (i : Instance) : ScreenText :=
  Screen.plain ("    " ++ Screen.padLeft 3 (toString i.index) ++ "  " ++
    Screen.padRight 40 i.label ++ " runs-on: " ++ i.runner)

/-- The lines for a job. -/
def planLines (s : Surroundings) (json : Bool) (p : JobPlan) : List ScreenText :=
  match p.instances with
  | .error e => [Screen.error s.colors e.text]
  | .ok instances =>
    if json then []
    else Screen.jobHeader s.colors p.job.id instances.length :: instances.map instanceLine

/-- The instances of plans, as far as there are any. -/
def planned (plans : List JobPlan) : List Instance :=
  plans.flatMap fun p => match p.instances with
    | .ok instances => instances
    | .error _ => []

/-- Shows the instances of a workflow. -/
def matrix (s : Surroundings) (path : String) (job : Option String) (json : Bool) : CliResult :=
  s.withWorkflow path fun w =>
    match w.plan { RunConfig.standard with inherited := s.env, onlyJob := job } with
    | .error e => CliResult.inputError s.colors e.text
    | .ok plans =>
      let document := Json.arr ((planned plans).map fun i => i.summary.toJson)
      let tail := if json then [Screen.plain document.pretty] else []
      let complete := plans.all fun p => match p.instances with
        | .ok _ => true
        | .error _ => false
      ⟨plans.flatMap (s.planLines json) ++ tail, if complete then .success else .inputError⟩

/-! ## Running -/

/-- A path is that of a program among the files that can be started. -/
def isProgram (s : Surroundings) (files : FileTree) (path : String) : Bool :=
  match (files.follow s.directory path).bind files.find with
  | .ok (.file _ true) | .ok .program => true
  | _ => false

/-- Collaborators that run commands among the files. -/
def backend (s : Surroundings) (preferred : Shell) (stepTimeout : Option Duration) :
    Backend FileTree where
  services files := ⟨stepTimeout, s.isProgram files, false, false⟩
  respond files call :=
    match call.errand with
    | .command line =>
      let context := call.context
      let (files, time, reply) :=
        runCommand preferred files s.directory line context.env context.directory context.timeout
      (files, .reply time false reply)
    | _ => (files, .crash)

/-- A variable of the command line. -/
def binding? (text : String) : Option (String × String) :=
  (text.cutAt? "=").filter fun (name, _) => !name.isEmpty

/-- Why the options of a run cannot be used. -/
def optionFault? (s : Surroundings) (o : RunOptions) : Option String :=
  match o.vars.find? fun v => (binding? v).isNone with
  | some v => some ("Invalid variable format '" ++ v ++ "'. Expected name=value")
  | none =>
    if o.maxParallel = some 0 then some "--max-parallel must be at least 1"
    else if o.stepTimeout = some 0 then some "--step-timeout must be at least 1 minute"
    else match o.stepTimeout.filter fun n => n * 60 ≥ pow2 64 with
      | some n => some ("--step-timeout " ++ toString n ++ " is too large")
      | none =>
        match o.workdir.filter fun d => !isDirectory d with
        | some d => some ("Working directory not found: " ++ d)
        | none => none
where
  /-- There is a directory at a path. -/
  isDirectory (path : String) : Bool :=
    match s.files.follow s.directory path with
    | .ok parts => s.files.isDirectory parts
    | .error _ => false

/-- The settings of a run. -/
def runConfig (s : Surroundings) (o : RunOptions) : RunConfig where
  workspace := o.workdir.getD ("/" ++ "/".intercalate s.directory)
  stepTimeout := o.stepTimeout.map Duration.ofMinutes
  maxParallel := o.maxParallel
  failFast := if o.noFailFast then some false else none
  inherited := if o.noInheritEnv then Env.empty else s.env
  vars := o.vars.filterMap binding?
  onlyJob := o.job
  shell := o.shell

/-- Runs a workflow that has been read. -/
def runWorkflow (s : Surroundings) (o : RunOptions) (w : Workflow) : CliResult :=
  if !w.isTriggeredBy o.event then
    ⟨[Screen.info s.colors ("Workflow '" ++ w.displayName ++ "' is not triggered by '" ++ o.event ++
      "' (triggers: " ++ ", ".intercalate w.triggers ++ "), nothing to run")], .success⟩
  else
    let config := s.runConfig o
    match w.plan config with
    | .error e => CliResult.inputError s.colors e.text
    | .ok plans =>
      let backend := s.backend (config.shell.getD .default) config.stepTimeout
      let f := conduct backend s.files w.displayName plans .never
      let progress := if o.report = .terminal then progressLines s.colors f.trace else []
      match f.outcome with
      | none => ⟨progress, .failed⟩
      | some result =>
        let report := (result.timed f.trace).report o.report
        ⟨progress ++ [⟨false, report⟩], .ofStatus result.status⟩

/-- Runs a workflow. -/
def run (s : Surroundings) (o : RunOptions) : CliResult :=
  match s.optionFault? o with
  | some message => CliResult.inputError s.colors message
  | none =>
    let head := if o.report = .terminal then [Screen.status s.colors "Parsing" o.workflow] else []
    (s.withWorkflow o.workflow (s.runWorkflow o)).after head

/-! ## The program -/

/-- The name of the program with its version. -/
def versionText : String := "gantry 0.1.0"

/-- How the program is used. -/
def usageText : String :=
  "Run CI workflow matrices locally\n\nUsage: gantry <COMMAND>\n\nCommands:\n" ++
    "  run       Run a workflow locally\n" ++
    "  validate  Validate a workflow YAML file\n" ++
    "  matrix    Print the job instances a workflow expands into\n" ++
    "  help      Print this message or the help of the given subcommand(s)\n\nOptions:\n" ++
    "  -h, --help     Print help\n  -V, --version  Print version"

/-- Does what the program is asked for. -/
def perform (s : Surroundings) : CliRequest → CliResult
  | .command (.run o) => s.run o
  | .command (.validate path) => s.validate path
  | .command (.matrix path job json) => s.matrix path job json
  | .help => ⟨[Screen.plain usageText], .success⟩
  | .version => ⟨[Screen.plain versionText], .success⟩
  | .misuse => ⟨[Screen.note usageText], .inputError⟩

/-- What the program does with its arguments. -/
def runProgram (s : Surroundings) (args : List String) : CliResult :=
  s.perform (CliRequest.ofArgs s.env args)

end Surroundings

end MatrixFlow
