import MatrixFlow.Run.Task

/-!
# Runs as systems of tasks

A run has a task for each instance of each job. Its state changes by moves, each of which one task
or somebody outside makes at once; who moves when is left open here.

* `JobRun`: the tasks of a job, with the table of their states.
* `RunState`: the jobs of a run, and who has been told to stop.
* `Move`: what can happen.
* `RunState.perform`: the state behind a move and the events of the move, if it is possible.
* `RunState.result?`: what the run came to, once nothing can happen any more.
-/

namespace MatrixFlow

/-- The most slots that a job can have. -/
def maxSlots : Nat := pow2 61 - 1

/-- A job under way. -/
structure JobRun where
  job : Job
  policy : DispatchPolicy
  tasks : List TaskRun
  table : StatusTable

namespace JobRun

/-- A job whose instances have not begun. -/
def start (job : Job) (policy : DispatchPolicy) (instances : List Instance) : JobRun :=
  ⟨job, policy, instances.map TaskRun.start, StatusTable.ofSize instances.length⟩

/-- How many slots are taken. -/
def takenSlots (r : JobRun) : Nat :=
  (r.tasks.filter TaskRun.slot).length

/-- Another task can be given a slot; a job without a limit has none to give. -/
def hasSlot (r : JobRun) : Bool :=
  match r.policy.maxParallel with
  | none => false
  | some limit => r.takenSlots < max 1 limit

/-- Every task is over. -/
def isOver (r : JobRun) : Bool :=
  r.tasks.all TaskRun.isOver

/-- Requests a state for a task; a request that is not legal changes nothing. -/
def request (r : JobRun) (id : Nat) (state : InstanceState) : JobRun :=
  match r.table.request id state with
  | .ok (_, table) => { r with table := table }
  | .error _ => r

/-- Takes on what comes of a move of a task. -/
def apply (r : JobRun) (id : Nat) (a : Advance) : JobRun :=
  let r := { r with tasks := r.tasks.modify id (·.advance a) }
  match a.request with
  | some state => r.request id state
  | none => r

/-- What the job came to, once every task is over. -/
def result? (r : JobRun) : Option JobResult :=
  (r.tasks.mapM TaskRun.result?).map (JobResult.ofInstances r.job.id r.job.displayName)

end JobRun

/-- A job of a run. -/
inductive JobStage where
  /-- It has no instances. -/
  | unexpanded (job : Job) (error : ExpansionError)
  /-- It asks for more slots than there can be, and so never starts. -/
  | aborted (job : Job)
  | started (run : JobRun)

namespace JobStage

/-- The stage at which a plan begins. -/
def ofPlan (plan : JobPlan) : JobStage :=
  match plan.instances with
  | .error e => unexpanded plan.job e
  | .ok instances =>
    if maxSlots < plan.policy.maxParallel.getD 0 then aborted plan.job
    else started (JobRun.start plan.job plan.policy instances)

/-- Nothing of the job is under way. -/
def isOver : JobStage → Bool
  | unexpanded .. | aborted _ => true
  | started run => run.isOver

/-- What the job came to, once nothing of it is under way. -/
def result? : JobStage → Option JobResult
  | unexpanded job e => some (JobResult.ofUnexpanded job.displayName e.unexpanded)
  | aborted job => some ⟨job.id, job.displayName, .failed, [], none⟩
  | started run => run.result?

end JobStage

/-- The jobs of a run, by their position, and who has been told to stop. The tasks of a job are
one group, which has the number of the job. -/
structure RunState where
  jobs : List JobStage
  signals : Signals

/-- What can happen in a run. Tasks are named by the positions of the job and of the instance. -/
inductive Move where
  | task (job task : Nat) (move : TaskMove)
  /-- A job takes notice that a task broke down. -/
  | notice (job : Nat)
  /-- The whole run is told to stop. -/
  | stopAll

namespace RunState

/-- The state in which plans begin. -/
def start (plans : List JobPlan) : RunState :=
  ⟨plans.map JobStage.ofPlan, Signals.none⟩

/-- The job at a position, if it has started. -/
def job? (s : RunState) (job : Nat) : Option JobRun :=
  match s.jobs[job]? with
  | some (.started run) => some run
  | _ => none

/-- A task and its job. -/
def task? (s : RunState) (job task : Nat) : Option (JobRun × TaskRun) := do
  let run ← s.job? job
  let t ← run.tasks[task]?
  some (run, t)

/-- The job at a position, changed. -/
def setJob (s : RunState) (job : Nat) (run : JobRun) : RunState :=
  { s with jobs := s.jobs.set job (.started run) }

/-- Takes on what comes of a move of a task. -/
def apply (s : RunState) (job task : Nat) (run : JobRun) (a : Advance) : RunState :=
  { s.setJob job (run.apply task a) with
    signals := if a.raises then s.signals.raise job else s.signals }

/-- The state behind a move and the events of the move; nothing if the move is not possible. -/
def perform (services : Services) (s : RunState) : Move → Option (RunState × List Event)
  | .task job task move => do
    let (run, t) ← s.task? job task
    let a ← t.perform services run.policy run.hasSlot (s.signals.isRaised job) move
    some (s.apply job task run a, a.events)
  | .notice job => do
    let run ← s.job? job
    if run.policy.failFast && run.tasks.any TaskRun.hasCrashed then
      some ({ s with signals := s.signals.raise job }, [])
    else none
  | .stopAll => some ({ s with signals := s.signals.raiseAll }, [])

/-- Nothing of the run is under way. -/
def isOver (s : RunState) : Bool :=
  s.jobs.all JobStage.isOver

/-- What the jobs came to, once nothing is under way. -/
def jobResults? (s : RunState) : Option (List JobResult) :=
  s.jobs.mapM JobStage.result?

/-- What the run came to, once nothing is under way. -/
def result? (s : RunState) (workflow : String) : Option WorkflowResult :=
  s.jobResults?.map fun jobs => WorkflowResult.ofJobs workflow jobs Duration.zero

end RunState

namespace JobPlan

/-- The event that a job has instances, or none. -/
def event (plan : JobPlan) : Event :=
  match plan.instances with
  | .ok instances => .jobExpanded plan.job.id instances.length
  | .error e => .jobExpansionFailed plan.job.id e.text

/-- The events before the first move of a run. -/
def openingEvents (workflow : String) (plans : List JobPlan) : List Event :=
  .workflowStarted workflow plans.length :: plans.map event

end JobPlan

/-! ## Flat lists of instances -/

/-- Puts an instance behind those of its job, or behind all plans as the first of its job. -/
def regroupInto (failFast : Bool) (i : Instance) : List JobPlan → List JobPlan
  | [] => [⟨i.job, .ok [i], ⟨failFast, i.job.maxParallel⟩⟩]
  | plan :: rest =>
    if plan.job.id == i.job.id then
      { plan with instances := plan.instances.map (· ++ [i]) } :: rest
    else plan :: regroupInto failFast i rest

/-- The plans for instances in any order: one for each job, in the order of their first
instances. -/
def regroup (failFast : Bool) (instances : List Instance) : List JobPlan :=
  instances.foldl (fun plans i => regroupInto failFast i plans) []

end MatrixFlow
