import MatrixFlow.Matrix.Expansion
import MatrixFlow.Template.Render

/-!
# Instances of a job

* `Instance`: a job bound to one combination, with its runner and its environment.
* `Job.instances`: the instances of a job, one per combination.
* `matrixVarName`: the variable under which a bound name appears.
-/

namespace MatrixFlow

/-- A job bound to a combination. -/
structure Instance where
  job : Job
  /-- The position among the instances of the job. -/
  index : Nat
  combination : Combination
  runner : String
  env : Env
  /-- The directory in which steps run. -/
  workspace : String
deriving Repr

/-- Which instance it was, as told in reports. -/
structure InstanceSummary where
  jobId : String
  index : Nat
  label : String
  matrix : Combination
  runner : String
deriving Repr, Inhabited

namespace Instance

/-- The name of the job with the combination behind it. -/
def label (i : Instance) : String :=
  if i.combination.isEmpty then i.job.displayName
  else i.job.displayName ++ " " ++ i.combination.text

/-- The instance as told in reports. -/
def summary (i : Instance) : InstanceSummary :=
  ⟨i.job.id, i.index, i.label, i.combination, i.runner⟩

/-- The scope of the templates of the instance in an environment. -/
def scope (i : Instance) (env : Env) : Template.Scope :=
  ⟨i.combination, env, i.runner⟩

end Instance

/-- The variable under which a bound name appears: ASCII letters are raised, and all but letters
and digits become underscores. -/
def matrixVarName (name : String) : String :=
  "MATRIX_" ++ String.ofList (name.toList.map fun c => if c.isAlphanum then c.toUpper else '_')

namespace Job

/-- The labels of the runner for a combination. -/
def runnerLabels (job : Job) (globals : Env) (c : Combination) : List String :=
  job.runsOn.toList.map fun label =>
    (Template.Scope.render ⟨c, globals, ""⟩ label).trimBlanks

/-- The variables that every instance of a job has. -/
def standardVars (job : Job) (runner workspace : String) : List (String × String) :=
  [("CI", "true"), ("GANTRY_WORKSPACE", workspace), ("GANTRY_JOB", job.id),
    ("GANTRY_RUNNER", runner)]

/-- The variables under which the bound names of a combination appear. -/
def matrixVars (c : Combination) : List (String × String) :=
  c.bindings.map fun (name, value) => (matrixVarName name, valueText value)

/-- The environment of an instance: the standard variables over the global ones, then those of
the job, then those of the combination. -/
def instanceEnv (job : Job) (globals : Env) (c : Combination) (runner workspace : String) : Env :=
  let standard := globals.extend (job.standardVars runner workspace)
  let own := Template.Scope.renderVars ⟨c, standard, runner⟩ job.env
  (standard.extend own).extend (matrixVars c)

/-- Binds a job to a combination. -/
def bind (job : Job) (globals : Env) (workspace : String) (index : Nat) (c : Combination) :
    Except ExpansionCause Instance :=
  let labels := job.runnerLabels globals c
  if labels.any String.isEmpty then .error (.unresolvedRunner c)
  else
    let runner := ", ".intercalate labels
    .ok ⟨job, index, c, runner, job.instanceEnv globals c runner workspace, workspace⟩

/-- Binds a job to combinations, from an index on. -/
def bindFrom (job : Job) (globals : Env) (workspace : String) (index : Nat) :
    List Combination → Except ExpansionCause (List Instance)
  | [] => .ok []
  | c :: rest => do
    let first ← job.bind globals workspace index c
    let others ← job.bindFrom globals workspace (index + 1) rest
    .ok (first :: others)

/-- The combinations of a job. -/
def combinations (job : Job) : Except ExpansionError (List Combination) :=
  job.matrix.expand.mapError (ExpansionError.mk job.id)

/-- The instances of a job. -/
def instances (job : Job) (globals : Env) (workspace : String) :
    Except ExpansionError (List Instance) := do
  let combinations ← job.combinations
  (job.bindFrom globals workspace 0 combinations).mapError (ExpansionError.mk job.id)

end Job

end MatrixFlow
