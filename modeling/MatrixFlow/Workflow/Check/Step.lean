import MatrixFlow.Text.Hidden
import MatrixFlow.Workflow.Check.Place
import MatrixFlow.Workflow.Definition

/-!
# Checking a step

* `checkStep`: a step runs a command or uses one of the known actions, and not both.
* `checkAction`: reads the inputs of an action.
-/

namespace MatrixFlow.Check

open Yaml (Value)

/-- The action that fetches sources. -/
def checkoutAction : String := "actions/checkout"

/-- The actions that provide a toolchain. -/
def toolchainAction : String := "actions-rs/toolchain"

/-- The action that provides the toolchain its revision names. -/
def revisionToolchainAction : String := "dtolnay/rust-toolchain"

/-- The inputs of an action. -/
abbrev Inputs := List (String × Value)

/-- The value of an input. -/
def Inputs.get? (inputs : Inputs) (name : String) : Option Value :=
  (inputs.find? fun (k, _) => k == name).map (·.2)

/-- The text of an input, if there is one. -/
def checkInput (source owner : String) (inputs : Inputs) (name : String) :
    Checked (Option String) :=
  match inputs.get? name with
  | none => .ok none
  | some value =>
    match scalarText? value with
    | some text => .ok (some text)
    | none => reject source (owner ++ ": input '" ++ name ++ "' must be a scalar") name

/-- Whether submodules are asked for. -/
def submodules? : Value → Option Bool
  | .bool b => some b
  | .str "true" | .str "recursive" => some true
  | .str "false" => some false
  | _ => none

/-- Reads the input for submodules. -/
def checkSubmodules (source owner : String) (inputs : Inputs) : Checked Bool :=
  match inputs.get? "submodules" with
  | none => .ok false
  | some value =>
    match submodules? value with
    | some b => .ok b
    | none =>
      let shown := Text.quoted ((scalarText? value).getD "")
      reject source
        (owner ++ ": invalid 'submodules' value " ++ shown ++
          ", expected true, false or recursive")
        "submodules"

/-- A natural number of at most 32 bits. -/
def depth? (value : Value) : Option Nat :=
  match value.untag with
  | .num (.int i) => if 0 ≤ i ∧ i < pow2 32 then some i.toNat else none
  | _ => none

/-- Reads the input for the depth of the history. -/
def checkDepth (source owner : String) (inputs : Inputs) : Checked (Option Nat) :=
  match inputs.get? "fetch-depth" with
  | none => .ok none
  | some value =>
    match depth? value with
    | some n => .ok (some n)
    | none =>
      reject source (owner ++ ": 'fetch-depth' must be a non-negative number") "fetch-depth"

/-- Reads the toolchain to provide, from its input or from the revision of the action. -/
def checkToolchainName (source owner uses : String) (byRevision : Bool)
    (revision : Option String) (inputs : Inputs) : Checked String := do
  match ← checkInput source owner inputs "toolchain" with
  | some toolchain => .ok toolchain
  | none =>
    if byRevision then
      let unnamed := reject source (owner ++ ": '" ++ uses ++ "' needs a 'toolchain' input") "uses"
      match revision with
      | some revision =>
        if ["master", "main", "v1"].contains revision then unnamed else .ok revision
      | none => unnamed
    else
      rejectWith source (owner ++ ": missing required input 'toolchain'") "uses"
        "add 'with: \x7b toolchain: stable \x7d'"

/-- Reads the input that makes the toolchain the one of the workspace. -/
def checkOverride (source owner : String) (byRevision : Bool) (inputs : Inputs) : Checked Bool :=
  match inputs.get? "override" with
  | none => .ok byRevision
  | some (.bool b) => .ok b
  | some (.str "true") => .ok true
  | some (.str "false") => .ok false
  | some _ => reject source (owner ++ ": 'override' must be true or false") "override"

/-- The components of a toolchain: a list, or a text with commas between them. -/
def componentsOf (inputs : Inputs) : List String :=
  match inputs.get? "components" with
  | none => []
  | some (.seq items) => items.filterMap scalarText?
  | some value =>
    let pieces := Text.splitOn ',' ((scalarText? value).getD "").toList
    ((pieces.map Text.trim).filter fun cs => !cs.isEmpty).map String.ofList

/-- Reads the inputs of an action that provides a toolchain. -/
def checkToolchain (source owner uses : String) (byRevision : Bool) (revision : Option String)
    (inputs : Inputs) : Checked ToolchainOptions := do
  let toolchain ← checkToolchainName source owner uses byRevision revision inputs
  checkTemplate source toolchain "toolchain" owner
  let overrides ← checkOverride source owner byRevision inputs
  let profile ← checkInput source owner inputs "profile"
  .ok ⟨uses, profile, toolchain, overrides, componentsOf inputs⟩

/-- Reads what a step uses. -/
def checkAction (source owner uses : String) (inputs : Inputs) : Checked StepAction := do
  let (action, revision) := match uses.cutAt? "@" with
    | some (action, revision) => (action, some revision)
    | none => (uses, none)
  if action = checkoutAction then
    let submodules ← checkSubmodules source owner inputs
    let fetchDepth ← checkDepth source owner inputs
    .ok (.checkout ⟨uses, submodules, fetchDepth⟩)
  else if action = toolchainAction ∨ action = revisionToolchainAction then
    let byRevision := action == revisionToolchainAction
    .toolchain <$> checkToolchain source owner uses byRevision revision inputs
  else
    rejectWith source (owner ++ ": unsupported action '" ++ uses ++ "'") "uses"
      ("supported actions: " ++ ", ".intercalate
        [checkoutAction, toolchainAction, revisionToolchainAction])

/-- Reads the shell of a command. -/
def checkShell (source owner : String) (name : Option String) : Checked Shell :=
  match name with
  | none => .ok .default
  | some name =>
    match Shell.ofName? name with
    | some shell => .ok shell
    | none => reject source (owner ++ ": " ++ Shell.unknownMessage name) "shell"

/-- How messages call a step. -/
def stepOwner (job : String) (index : Nat) (step : StepDocument) : String :=
  let label := (step.id.or step.name).getD ("step " ++ toString (index + 1))
  "step '" ++ label ++ "' in job '" ++ job ++ "'"

/-- Reads what a step does. -/
def checkStepAction (source job owner : String) (step : StepDocument) : Checked StepAction :=
  match step.run, step.uses with
  | some _, some _ => reject source (owner ++ " cannot have both 'run' and 'uses'") job
  | none, none => reject source (owner ++ " must have either 'run' or 'uses'") job
  | some command, none => do
    checkTemplate source command "run" owner
    let shell ← checkShell source owner step.shell
    .ok (.run ⟨command, shell, step.workingDirectory⟩)
  | none, some uses => checkAction source owner uses step.inputs

/-- Reads the step at an index of a job. -/
def checkStep (source job : String) (index : Nat) (step : StepDocument) : Checked Step := do
  let owner := stepOwner job index step
  if step.timeoutMinutes = some 0 then
    reject source (owner ++ ": timeout-minutes must be at least 1") "timeout-minutes"
  let env ← checkEnv source job step.env
  let action ← checkStepAction source job owner step
  .ok ⟨step.id, step.name, env, step.timeoutMinutes, action⟩

end MatrixFlow.Check
