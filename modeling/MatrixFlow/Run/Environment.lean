import MatrixFlow.Run.Instance
import MatrixFlow.Text.Lines

/-!
# Environments of a run

A step passes variables and directories on to later steps by lines of its output:
`::set-env name=NAME::VALUE` and `::add-path::DIRECTORY`. Other lines, and lines that are not well
formed, say nothing.

* `Exports.ofOutput`: what a step passes on.
* `Workflow.globalEnv`: what every job starts from.
* `StepEnv`: the environment of a running instance, which grows as its steps pass things on.
* `StepEnv.current`, `StepEnv.forStep`: what the next step sees.
-/

namespace MatrixFlow

/-! ## Commands in the output of steps -/

/-- What a step passes on to later steps, in order. -/
structure Exports where
  vars : List (String × String)
  paths : List String
deriving DecidableEq, Repr

namespace Exports

/-- Passes nothing on. -/
def empty : Exports := ⟨[], []⟩

/-- Passes nothing on. -/
def isEmpty (e : Exports) : Bool :=
  e.vars.isEmpty && e.paths.isEmpty

/-- First what one passes on, then what the other does. -/
def append (a b : Exports) : Exports :=
  ⟨a.vars ++ b.vars, a.paths ++ b.paths⟩

/-- The name that the first `name=` among properties gives. -/
def nameIn? (properties : List Char) : Option (List Char) :=
  (Text.splitOn ',' properties).findSome? fun property =>
    (Text.stripStart? "name=".toList (Text.trim property)).map Text.trim

/-- The variable that a line sets, after the word that begins it. -/
def varOf? (rest : List Char) : Option (String × String) := do
  let (properties, value) ← Text.cut? "::".toList rest
  let name ← nameIn? properties
  if name.isEmpty || name.contains '=' then none
  else some (String.ofList name, String.ofList value)

/-- The directory that a line adds, after the word that begins it. -/
def pathOf? (rest : List Char) : Option String :=
  let directory := Text.trim rest
  if directory.isEmpty then none else some (String.ofList directory)

/-- What a line passes on. -/
def ofLine (line : List Char) : Exports :=
  let line := Text.trimStart line
  match Text.stripStart? "::set-env ".toList line with
  | some rest => ⟨(varOf? rest).toList, []⟩
  | none =>
    match Text.stripStart? "::add-path::".toList line with
    | some rest => ⟨[], (pathOf? rest).toList⟩
    | none => empty

/-- What lines pass on. -/
def ofLines : List (List Char) → Exports
  | [] => empty
  | line :: rest => (ofLine line).append (ofLines rest)

/-- What the output of a step passes on. -/
def ofOutput (output : String) : Exports :=
  ofLines (Text.lines output.toList)

end Exports

/-! ## Environments -/

/-- The environment that every job starts from: inherited variables, then those of the workflow,
then those of the caller. -/
def Workflow.globalEnv (w : Workflow) (inherited : Env) (vars : List (String × String)) :
    Env :=
  let own := Template.Scope.renderVars ⟨Combination.empty, inherited, ""⟩ w.env
  (inherited.extend own).extend vars

/-- The environment of a running instance. -/
structure StepEnv where
  base : Env
  /-- The variables that steps have set. -/
  exported : Env
  /-- The directories that steps have added, in order. -/
  directories : List String
deriving DecidableEq, Repr

namespace StepEnv

/-- The environment in which an instance starts. -/
def start (i : Instance) : StepEnv := ⟨i.env, Env.empty, []⟩

/-- Takes on what a step passes on. -/
def apply (e : StepEnv) (exports : Exports) : StepEnv :=
  { e with
    exported := e.exported.extend exports.vars
    directories := e.directories ++ exports.paths }

/-- A spelling of the variable that lists the directories of programs. -/
def isPathName (name : String) : Bool :=
  name.toList.map Char.toUpper == "PATH".toList

/-- The name of the variable that lists the directories of programs. -/
def pathName (vars : Env) : String :=
  ((vars.vars.map (·.1)).find? isPathName).getD "PATH"

/-- The directories of a list that are not empty. -/
def directoriesOf (value : String) : List String :=
  (value.piecesBy ':').filter fun d => !d.isEmpty

/-- The list of directories as a value; a directory with a colon in it can be in no list. -/
def pathValue? (directories : List String) : Option String :=
  if directories.any fun d => d.toList.contains ':' then none
  else some (":".intercalate directories)

/-- The environment with added directories in front of those listed, the last one first. -/
def withDirectories (vars : Env) (directories : List String) : Env :=
  if directories.isEmpty then vars
  else
    let name := pathName vars
    let listed := directoriesOf ((vars.get? name).getD "")
    match pathValue? (directories.reverse ++ listed) with
    | some value => vars.insert name value
    | none => vars

/-- What all steps so far leave behind. -/
def current (e : StepEnv) : Env :=
  withDirectories (e.base.extend e.exported.vars) e.directories

/-- What a step sees: its own variables, over what all steps before it leave behind. -/
def forStep (e : StepEnv) (step : Step) (i : Instance) : Env :=
  let env := e.current
  env.extend ((i.scope env).renderVars step.env)

end StepEnv

end MatrixFlow
