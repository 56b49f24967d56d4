import MatrixFlow.Run.Plan
import MatrixFlow.Run.Step

/-!
# Tasks

A task runs the steps of one instance. It is described by what it does at once: in every move it
does only one thing that others can see, or hears from a collaborator.

* `Phase`: where a task stands between two moves.
* `beginStep`, `takeReply`, `endStep`: where a step leads.
* `TaskRun`: a task with its instance and its slot.
* `TaskMove`, `Advance`: what can happen to a task, and what comes of it.
* `TaskRun.perform`: what comes of a move, if the task can make it.
-/

namespace MatrixFlow

/-- Where a task stands. -/
inductive Phase where
  /-- It has not begun, and stands in line if its job has a limit. -/
  | waiting
  /-- It is out of the line, and looks next whether its group has been told to stop. -/
  | opening
  /-- It begins, which the table does not show yet. -/
  | entering
  /-- It looks next whether its group has been told to stop, and begins the next step if not. -/
  | between (progress : Progress) (rest : List Step)
  /-- It waits for a reply to a call of a step that has taken some time, with further steps to
  come. -/
  | asking (progress : Progress) (step : Step) (rest : List Step) (spent : Duration) (call : Call)
      (next : Reply → Dialogue)
  /-- It has come to a result, which the table does not show yet. -/
  | leaving (result : InstanceResult)
  /-- Its end is in the table, and its group may have to be told. -/
  | recorded (result : InstanceResult)
  /-- It gives its slot back next. -/
  | releasing (result : InstanceResult)
  /-- It has ended. -/
  | settled (result : InstanceResult)
  /-- It broke down during a call. -/
  | crashed

/-- Ends a step with a reply. The instance fails with it, or goes on to the steps that are left. -/
def endStep (services : Services) (i : Instance) (p : Progress) (step : Step) (rest : List Step)
    (reply : Reply) : Phase × List Event :=
  let closed := closeStep services i p step reply
  let outcomes := p.outcomes ++ [closed.outcome]
  if closed.outcome.failure.isSome then (.leaving (i.resultOf .failed outcomes), closed.events)
  else (.between ⟨p.index + 1, closed.env, outcomes⟩ rest, closed.events)

/-- Follows the dialogue of a step, up to the next call or the end of the step. -/
def converse (services : Services) (i : Instance) (p : Progress) (step : Step) (rest : List Step)
    (spent : Duration) : Dialogue → Phase × List Event
  | .ask call next => (.asking p step rest spent call next, [])
  | .done reply => endStep services i p step rest reply

/-- Begins a step. -/
def beginStep (services : Services) (i : Instance) (p : Progress) (step : Step)
    (rest : List Step) : Phase × List Event :=
  let (phase, events) := converse services i p step rest Duration.zero
    (services.dialogue i (p.env.forStep step i) step)
  (phase, .stepStarted i.job.id i.label p.index step.displayName :: events)

/-- Takes a reply to a call of a step that has taken some time so far. -/
def takeReply (services : Services) (i : Instance) (p : Progress) (step : Step) (rest : List Step)
    (spent : Duration) (next : Reply → Dialogue) (reply : Reply) : Phase × List Event :=
  if isLate (services.timeout i.job step) spent then endStep services i p step rest lateReply
  else converse services i p step rest spent (next reply)

/-- A task with its instance. -/
structure TaskRun where
  inst : Instance
  phase : Phase
  /-- It has one of the slots of its job. -/
  slot : Bool

/-- What can happen to a task. -/
inductive TaskMove where
  /-- It is given a slot. -/
  | grant
  /-- It goes on by itself. -/
  | go
  /-- A collaborator replies to its call after some time. -/
  | reply (after : Duration) (reply : Reply)
  /-- It breaks down during a call. -/
  | crash

/-- What comes of a move of a task. -/
structure Advance where
  phase : Phase
  slot : Bool
  /-- The state that the task requests in the table. -/
  request : Option InstanceState := none
  /-- The task tells its group to stop. -/
  raises : Bool := false
  events : List Event := []

namespace TaskRun

/-- A task that has not begun. -/
def start (i : Instance) : TaskRun := ⟨i, .waiting, false⟩

/-- The task after a move. -/
def advance (t : TaskRun) (a : Advance) : TaskRun :=
  { t with phase := a.phase, slot := a.slot }

/-- The task is over. -/
def isOver (t : TaskRun) : Bool :=
  match t.phase with
  | .settled _ | .crashed => true
  | _ => false

/-- The task broke down. -/
def hasCrashed (t : TaskRun) : Bool :=
  match t.phase with
  | .crashed => true
  | _ => false

/-- What the instance came to. One whose task broke down has failed, and its steps are lost. -/
def result? (t : TaskRun) : Option InstanceResult :=
  match t.phase with
  | .settled result => some result
  | .crashed => some ⟨t.inst.summary, .failed, [], Duration.zero⟩
  | _ => none

/-- The task in another phase. -/
def goTo (t : TaskRun) (result : Phase × List Event) : Advance :=
  { phase := result.1, slot := t.slot, events := result.2 }

/-- What the task does by itself, when its group has been told to stop or not. -/
def go (services : Services) (policy : DispatchPolicy) (stopped : Bool) (t : TaskRun) :
    Option Advance :=
  match t.phase with
  | .waiting =>
    if stopped then some { phase := .opening, slot := false }
    else if t.slot || policy.maxParallel.isNone then some { phase := .opening, slot := t.slot }
    else none
  | .opening =>
    some <| t.goTo (if stopped then .leaving (InstanceResult.cancelled t.inst.summary)
      else .entering, [])
  | .entering =>
    some { t.goTo (.between (Progress.start t.inst) t.inst.job.steps, [t.inst.startedEvent]) with
      request := some .running }
  | .between p [] => some <| t.goTo (.leaving (t.inst.resultOf .succeeded p.outcomes), [])
  | .between p (step :: rest) =>
    some <| t.goTo (if stopped then (.leaving (t.inst.resultOf .cancelled p.outcomes), [])
      else beginStep services t.inst p step rest)
  | .leaving r =>
    some { t.goTo (.recorded r, [t.inst.completedEvent r.status]) with
      request := some r.status.state }
  | .recorded r =>
    some { t.goTo (.releasing r, []) with raises := policy.failFast && r.status == .failed }
  | .releasing r => some { phase := .settled r, slot := false }
  | .asking .. | .settled _ | .crashed => none

/-- What comes of a move, when there is a free slot or not, and the group of the task has been
told to stop or not; nothing if the task cannot make it. -/
def perform (services : Services) (policy : DispatchPolicy) (free stopped : Bool) (t : TaskRun) :
    TaskMove → Option Advance
  | .grant =>
    match t.phase with
    | .waiting => if free && !t.slot then some { phase := .waiting, slot := true } else none
    | _ => none
  | .go => t.go services policy stopped
  | .reply after reply =>
    match t.phase with
    | .asking p step rest spent _ next =>
      some <| t.goTo (takeReply services t.inst p step rest (spent.add after) next reply)
    | _ => none
  | .crash =>
    match t.phase with
    | .asking .. => some { phase := .crashed, slot := false, request := some .failed }
    | _ => none

end TaskRun

end MatrixFlow
