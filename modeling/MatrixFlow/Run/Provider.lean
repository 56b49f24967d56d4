import MatrixFlow.Files.Tree
import MatrixFlow.Run.Dialogue
import MatrixFlow.Run.Environment

/-!
# Checkouts and toolchains by commands

* `locate`: finds a program in the directories that the environment lists.
* `checkoutDialogue`: makes sure that the directory is a work tree, and updates submodules if they
  are asked for.
* `toolchainDialogue`: installs a toolchain, and makes it the one of the directory if that is asked
  for.

A second command runs only after the first one succeeded.
-/

namespace MatrixFlow

/-- The value of the variable that lists the directories of programs. -/
def searchPath (env : Env) : String :=
  ((env.vars.find? fun (name, _) => StepEnv.isPathName name).map (·.2)).getD ""

/-- Finds a program in the listed directories; the first one that holds it counts. -/
def locate (isProgram : String → Bool) (name : String) (env : Env) :
    Except CollaboratorError String :=
  let candidates := ((searchPath env).piecesBy ':').map fun directory => Path.join directory name
  match candidates.find? isProgram with
  | some path => .ok path
  | none => .error ⟨name, name ++ " not found on PATH: cannot find binary path"⟩

/-- A call of a program. -/
def StepContext.program (context : StepContext) (path : String) (args : List String) : Call :=
  ⟨.command (.program path args), context⟩

/-- A call of a program, and of a second one if the first succeeds and another is wanted. -/
def twoCommands (first : Call) (second : Option Call) : Dialogue :=
  .andThen first fun output =>
    match second with
    | some call =>
      if output.isSuccess then .andThen call fun more => .done (.ok (output.append more))
      else .done (.ok output)
    | none => .done (.ok output)

/-- The arguments for updating submodules. -/
def submoduleArgs (options : CheckoutOptions) : List String :=
  ["submodule", "update", "--init", "--recursive"] ++
    match options.fetchDepth.filter (0 < ·) with
    | some depth => ["--depth", toString depth]
    | none => []

/-- The commands of a checkout. -/
def checkoutDialogue (isProgram : String → Bool) (options : CheckoutOptions)
    (context : StepContext) : Dialogue :=
  match locate isProgram "git" context.env with
  | .error e => .done (.error e)
  | .ok git =>
    twoCommands (context.program git ["rev-parse", "--is-inside-work-tree"])
      (if options.submodules then some (context.program git (submoduleArgs options)) else none)

/-- The arguments for installing a toolchain. -/
def installArgs (options : ToolchainOptions) : List String :=
  ["toolchain", "install", options.toolchain, "--no-self-update"] ++
    (match options.profile with
      | some profile => ["--profile", profile]
      | none => []) ++
    options.components.flatMap fun component => ["--component", component]

/-- The commands that provide a toolchain. -/
def toolchainDialogue (isProgram : String → Bool) (options : ToolchainOptions)
    (context : StepContext) : Dialogue :=
  match locate isProgram "rustup" context.env with
  | .error e => .done (.error e)
  | .ok rustup =>
    twoCommands (context.program rustup (installArgs options))
      (if options.overrides then
        some (context.program rustup ["override", "set", options.toolchain])
      else none)

/-- What the steps of a run rely on. -/
structure Services where
  /-- The time limit of steps for which neither step nor job names one. -/
  defaultTimeout : Option Duration
  /-- A path is that of a program that can be started. -/
  isProgram : String → Bool
  /-- A collaborator does checkouts by itself. -/
  ownCheckout : Bool
  /-- A collaborator provides toolchains by itself. -/
  ownToolchain : Bool

namespace Services

/-- The time limit of a step: its own, else that of the job, else the default. -/
def timeout (services : Services) (job : Job) (step : Step) : Option Duration :=
  ((step.timeoutMinutes.or job.timeoutMinutes).map Duration.ofMinutes).or services.defaultTimeout

/-- Fills in the references in the options of a toolchain. -/
def renderToolchain (scope : Template.Scope) (options : ToolchainOptions) : ToolchainOptions :=
  { options with
    toolchain := scope.render options.toolchain
    profile := options.profile.map scope.render
    components := options.components.map scope.render }

/-- The calls of a step in an environment. -/
def dialogue (services : Services) (i : Instance) (env : Env) (step : Step) : Dialogue :=
  let scope := i.scope env
  let context : StepContext := ⟨env, i.workspace, services.timeout i.job step⟩
  match step.action with
  | .run command =>
    let directory := match command.workingDirectory with
      | some directory => Path.join i.workspace (scope.render directory)
      | none => i.workspace
    .once ⟨.command (.script command.shell (scope.render command.command)),
      { context with directory := directory }⟩
  | .checkout options =>
    if services.ownCheckout then .once ⟨.checkout options, context⟩
    else checkoutDialogue services.isProgram options context
  | .toolchain options =>
    let options := renderToolchain scope options
    if services.ownToolchain then .once ⟨.toolchain options, context⟩
    else toolchainDialogue services.isProgram options context

end Services

end MatrixFlow
