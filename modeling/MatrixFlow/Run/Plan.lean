import MatrixFlow.Run.Environment
import MatrixFlow.Time.Duration

/-!
# Plans

* `RunConfig`: the settings of a run.
* `JobPlan`: a job with its instances, or why there are none, and how they are run.
* `Workflow.plan`: the plans of the jobs that are asked for.
-/

namespace MatrixFlow

/-- The settings of a run. -/
structure RunConfig where
  /-- The directory in which steps run. -/
  workspace : String
  /-- The time limit of steps for which neither step nor job names one. -/
  stepTimeout : Option Duration
  /-- Replaces the limit of every job. -/
  maxParallel : Option Nat
  /-- Replaces the setting of every job. -/
  failFast : Option Bool
  /-- The variables of the process that runs the workflow. -/
  inherited : Env
  /-- Variables over those of the workflow. -/
  vars : List (String × String)
  /-- The only job to run. -/
  onlyJob : Option String
  /-- The shell of commands that name none. -/
  shell : Option Shell

/-- The settings that apply without further choice. -/
def RunConfig.standard : RunConfig :=
  ⟨".", none, none, none, Env.empty, [], none, none⟩

/-- How the instances of a job are started and stopped. -/
structure DispatchPolicy where
  /-- A failing instance cancels the others. -/
  failFast : Bool
  /-- How many instances may run at once. -/
  maxParallel : Option Nat
deriving DecidableEq, Repr

/-- The policy that a job asks for. -/
def Job.policy (job : Job) : DispatchPolicy :=
  ⟨job.failFast, job.maxParallel⟩

/-- A job that is about to run. -/
structure JobPlan where
  job : Job
  instances : Except ExpansionError (List Instance)
  policy : DispatchPolicy

/-- The job that was asked for is not in the workflow. -/
structure UnknownJob where
  name : String
  known : List String
deriving DecidableEq, Repr

/-- The error in words. -/
def UnknownJob.text (e : UnknownJob) : String :=
  "invalid input: no job '" ++ e.name ++ "' in workflow (jobs: " ++ ", ".intercalate e.known ++ ")"

namespace Workflow

/-- The plan of a job. -/
def planJob (config : RunConfig) (globals : Env) (job : Job) : JobPlan :=
  { job
    instances := job.instances globals config.workspace
    policy := ⟨config.failFast.getD job.failFast, config.maxParallel.or job.maxParallel⟩ }

/-- The jobs that are asked for. -/
def selectedJobs (w : Workflow) (config : RunConfig) : List Job :=
  match config.onlyJob with
  | some name => w.jobs.filter (·.id == name)
  | none => w.jobs

/-- The environment of all jobs under some settings. -/
def globalsFor (w : Workflow) (config : RunConfig) : Env :=
  w.globalEnv config.inherited config.vars

/-- The plans of the jobs that are asked for, in order. -/
def plan (w : Workflow) (config : RunConfig) : Except UnknownJob (List JobPlan) :=
  match (config.onlyJob.filter fun name => (w.job? name).isNone) with
  | some name => .error ⟨name, w.jobs.map (·.id)⟩
  | none => .ok ((w.selectedJobs config).map (planJob config (w.globalsFor config)))

end Workflow

end MatrixFlow
