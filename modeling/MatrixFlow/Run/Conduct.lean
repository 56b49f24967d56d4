import MatrixFlow.Run.Schedule

/-!
# Conducting runs

* `conduct`: runs plans to the end.
* `conductAlone`: runs one instance by itself, in a group of its own.

The trace of a run tells when everything began and ended.

* `Event.opens`: an event begins what another one ends.
* `elapsed`: the time that has passed at an event since the one that opens it.
* `WorkflowResult.timed`: an outcome with the times that the trace tells.
-/

namespace MatrixFlow

/-- What is left of a run at its end. -/
structure Finished (σ ρ : Type) where
  world : σ
  /-- The outcome; there is one whenever every call came back or broke down. -/
  outcome : Option ρ
  /-- All events, in order. -/
  trace : List TimedEvent
  /-- All calls, in order. -/
  calls : List CallRecord

namespace Finished

variable {σ ρ : Type}

/-- The events in order. -/
def events (f : Finished σ ρ) : List Event :=
  f.trace.map (·.event)

end Finished

/-- When the whole run is told to stop. -/
inductive StopTime where
  | never
  | beforeStart
  | after (time : Duration)
deriving DecidableEq, Repr

variable {σ : Type}

namespace Schedule

/-- The run with a time at which it is told to stop. -/
def stopAt (s : Schedule σ) : StopTime → Schedule σ
  | .never => s
  | .beforeStart => s.move none .stopAll
  | .after time => s.later time .stopAll

end Schedule

/-- Runs plans to the end. -/
def conduct (backend : Backend σ) (world : σ) (workflow : String) (plans : List JobPlan)
    (stop : StopTime) : Finished σ WorkflowResult :=
  let opening := (JobPlan.openingEvents workflow plans).map fun e => ⟨Duration.zero, none, e⟩
  let s := ((Schedule.start backend world (.start plans)).stopAt stop).finish
  let outcome := s.state.result? workflow
  let closing := match outcome with
    | some result => [⟨s.clock, none, Event.workflowCompleted workflow result.status⟩]
    | none => []
  { world := s.world
    outcome := outcome
    trace := opening ++ s.trace.reverse ++ closing
    calls := s.calls.reverse }

/-- What an instance that ran by itself came to. -/
structure AloneResult where
  result : InstanceResult
  /-- The state in the table at the end. -/
  state : Option InstanceState

/-- The job of an instance that runs by itself, with no limits. States that are requested before
it begins may stand in the table already. -/
def JobRun.alone (i : Instance) (requests : List InstanceState) : JobRun :=
  requests.foldl (fun run state => run.request 0 state) (JobRun.start i.job ⟨false, none⟩ [i])

/-- The state in which an instance begins that runs by itself. It stands in no run, so only its own
group, `stopped` or not, can be told to stop. -/
def RunState.alone (i : Instance) (requests : List InstanceState) (stopped : Bool) : RunState :=
  ⟨[.started (JobRun.alone i requests)], if stopped then Signals.none.raise 0 else Signals.none⟩

/-- Collaborators that cannot stop the run. -/
def Backend.withoutStops (backend : Backend σ) : Backend σ where
  services := backend.services
  respond world call :=
    match backend.respond world call with
    | (world, .reply after _ reply) => (world, .reply after false reply)
    | other => other

/-- Runs one instance by itself. -/
def conductAlone (backend : Backend σ) (world : σ) (i : Instance)
    (requests : List InstanceState) (stopped : Bool) : Finished σ AloneResult :=
  let s := (Schedule.start backend.withoutStops world (.alone i requests stopped)).finish
  let outcome := do
    let (run, t) ← s.state.task? 0 0
    let result ← t.result?
    some ⟨result, run.table.get? 0⟩
  ⟨s.world, outcome, s.trace.reverse, s.calls.reverse⟩

/-- An event begins what another one ends. -/
def Event.opens : Event → Event → Bool
  | workflowStarted _ _, workflowCompleted _ _ => true
  | instanceStarted _ _ i _ _, instanceCompleted _ _ k _ => i == k
  | stepStarted _ _ s _, stepCompleted _ _ t _ _ _ => s == t
  | _, _ => false

/-- The time that has passed at an event since the one that opens it. -/
def elapsed (trace : List TimedEvent) (e : TimedEvent) : Duration :=
  match trace.find? fun f => f.place == e.place && f.event.opens e.event with
  | some f => ⟨e.time.nanos - f.time.nanos⟩
  | none => Duration.zero

/-- The time that something at a place took, which is over with an event that fits. -/
def timeAt (trace : List TimedEvent) (place : Option (Nat × Nat)) (ends : Event → Bool) :
    Duration :=
  match trace.find? fun e => e.place == place && ends e.event with
  | some e => elapsed trace e
  | none => Duration.zero

/-- The event ends an instance. -/
def Event.endsInstance : Event → Bool
  | instanceCompleted _ _ _ _ => true
  | _ => false

/-- The event ends a step. -/
def Event.endsStep (index : Nat) : Event → Bool
  | stepCompleted _ _ s _ _ _ => s == index
  | _ => false

/-- The event ends the run. -/
def Event.endsRun : Event → Bool
  | workflowCompleted _ _ => true
  | _ => false

/-- What an instance at a place came to, with the times that a trace tells. -/
def InstanceResult.timed (trace : List TimedEvent) (place : Nat × Nat) (r : InstanceResult) :
    InstanceResult :=
  { r with
    duration := timeAt trace (some place) Event.endsInstance
    steps := r.steps.map fun s =>
      { s with duration := timeAt trace (some place) (Event.endsStep s.index) } }

/-- What a run came to, with the times that a trace tells. -/
def WorkflowResult.timed (trace : List TimedEvent) (result : WorkflowResult) : WorkflowResult :=
  { result with
    duration := timeAt trace none Event.endsRun
    jobs := result.jobs.zipIdx.map fun (job, k) =>
      { job with instances := job.instances.zipIdx.map fun (r, i) => r.timed trace (k, i) } }

end MatrixFlow
