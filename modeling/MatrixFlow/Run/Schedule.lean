import MatrixFlow.Run.System

/-!
# Schedules in virtual time

A schedule chooses the moves of a run. Tasks move one at a time, and whoever is ready first moves
first; slots are given in the order in which they were asked for. Time does not pass while anybody
is ready; when nobody is, the clock jumps to the next thing that is due.

* `Response`: when and how a collaborator replies.
* `Schedule`: a run with its clock, its queue and what is due.
* `Schedule.finish`: runs to the end.
-/

namespace MatrixFlow

/-- How a collaborator behaves in a call. -/
inductive Response where
  /-- The call breaks down at once. -/
  | crash
  /-- A reply comes after some time; with it the whole run may be told to stop. -/
  | reply (after : Duration) (stopsRun : Bool) (reply : Reply)

/-- Collaborators with a world that calls can change. -/
structure Backend (σ : Type) where
  /-- What steps rely on in a world. -/
  services : σ → Services
  /-- What comes of a call, and the world after it. -/
  respond : σ → Call → σ × Response

/-- Who is ready to move. -/
inductive Ticket where
  /-- A job that starts its tasks. -/
  | openJob (job : Nat)
  /-- A job one of whose tasks is over. -/
  | watchJob (job : Nat)
  /-- A task that begins. -/
  | task (job task : Nat)
deriving DecidableEq, Repr

/-- What happens at a time. -/
inductive DueMove where
  | reply (job task call : Nat) (stopsRun : Bool) (after : Duration) (reply : Reply)
  /-- A step gives up on a collaborator that would come back later. -/
  | expire (job task : Nat) (after : Duration) (reply : Reply)
  | stopAll

/-- A call with the times of its begin and end. -/
structure CallRecord where
  call : Call
  startedAt : Duration
  /-- None if there was no reply, or none in time. -/
  endedAt : Option Duration
deriving Repr

/-- An event with its time, and the job and the task that it belongs to. -/
structure TimedEvent where
  time : Duration
  place : Option (Nat × Nat)
  event : Event

/-- The time that is left to a step until it gives up. -/
def timeLeft (limit spent : Duration) : Duration :=
  ⟨(patience limit).nanos - spent.nanos⟩

/-- A run with its clock, its queue and what is due. -/
structure Schedule (σ : Type) where
  backend : Backend σ
  world : σ
  state : RunState
  clock : Duration
  ready : List Ticket
  /-- The tasks that wait for a slot, in order. -/
  line : List (Nat × Nat)
  /-- The groups that can be told to stop, in the order in which they are told. -/
  groups : List Nat
  due : List (Duration × DueMove)
  /-- All calls, the last one first. -/
  calls : List CallRecord
  /-- All events, the last one first. -/
  trace : List TimedEvent

namespace Schedule

variable {σ : Type}

/-- A run that is about to begin. -/
def start (backend : Backend σ) (world : σ) (state : RunState) : Schedule σ :=
  { backend, world, state
    clock := Duration.zero
    ready := (List.range state.jobs.length).map .openJob
    line := []
    groups := []
    due := []
    calls := []
    trace := [] }

/-- Puts somebody at the end of the queue, unless already there. -/
def enqueue (s : Schedule σ) (ticket : Ticket) : Schedule σ :=
  if s.ready.contains ticket then s else { s with ready := s.ready ++ [ticket] }

/-- The tasks of a group that wait for a slot become ready. -/
def wake (s : Schedule σ) (group : Nat) : Schedule σ :=
  let woken := s.line.filter fun (job, _) => job == group
  { s with
    line := s.line.filter fun (job, _) => job != group
    ready := s.ready ++ woken.map fun (job, task) => .task job task }

/-- The groups that have been told to stop since `before`. -/
def newlyStopped (s : Schedule σ) (before : Signals) : List Nat :=
  s.groups.filter fun g => s.state.signals.isRaised g && !before.isRaised g

/-- What steps rely on as the world is now. -/
def services (s : Schedule σ) : Services :=
  s.backend.services s.world

/-- Makes a move. Whoever is told to stop by it becomes ready. -/
def move (s : Schedule σ) (place : Option (Nat × Nat)) (m : Move) : Schedule σ :=
  match s.state.perform s.services m with
  | none => s
  | some (state, events) =>
    let before := s.state.signals
    let timed := events.map fun event => ⟨s.clock, place, event⟩
    let s := { s with state := state, trace := timed.reverse ++ s.trace }
    (s.newlyStopped before).foldl wake s

/-- Makes a move of a task. -/
def act (s : Schedule σ) (job task : Nat) (m : TaskMove) : Schedule σ :=
  s.move (some (job, task)) (.task job task m)

/-- The first task of a job that waits for a slot. -/
def firstInLine? (s : Schedule σ) (job : Nat) : Option Nat :=
  (s.line.find? fun (j, _) => j == job).map (·.2)

/-- Gives a free slot of a job to the first task that waits for one. -/
def passSlot (s : Schedule σ) (job : Nat) : Schedule σ :=
  match s.firstInLine? job, s.state.job? job with
  | some task, some run =>
    if run.hasSlot then
      let s := s.move none (.task job task .grant)
      { s with line := s.line.erase (job, task) }.enqueue (.task job task)
    else s
  | _, _ => s

/-- A task is over: its slot passes on, and the job takes notice. -/
def afterTask (s : Schedule σ) (job : Nat) : Schedule σ :=
  (s.passSlot job).enqueue (.watchJob job)

/-- Records the end of a call. -/
def endCall (s : Schedule σ) (call : Nat) : Schedule σ :=
  { s with calls := s.calls.modify (s.calls.length - 1 - call) fun c =>
      { c with endedAt := some s.clock } }

/-- Takes a reply to a call. -/
def deliver (s : Schedule σ) (job task call : Nat) (stopsRun : Bool) (after : Duration)
    (reply : Reply) : Schedule σ :=
  let s := s.endCall call
  let s := if stopsRun then s.move none .stopAll else s
  s.act job task (.reply after reply)

/-- Puts something on the list of what is due. -/
def later (s : Schedule σ) (time : Duration) (m : DueMove) : Schedule σ :=
  { s with due := s.due ++ [(time, m)] }

/-- Follows a task up to where it has to wait. -/
def follow (job task : Nat) : (fuel : Nat) → Schedule σ → Schedule σ
  | 0, s => s
  | fuel + 1, s =>
    match s.state.task? job task with
    | none => s
    | some (_, t) =>
      match t.phase with
      | .asking _ step _ spent call _ =>
        let limit := s.services.timeout t.inst.job step
        let (world, response) := s.backend.respond s.world call
        let number := s.calls.length
        let s := { s with world := world, calls := ⟨call, s.clock, none⟩ :: s.calls }
        match response with
        | .crash => (s.act job task .crash).afterTask job
        | .reply after stopsRun reply =>
          match limit.filter fun _ => isLate limit (spent.add after) with
          | some limit =>
            s.later (s.clock.add (timeLeft limit spent)) (.expire job task after reply)
          | none =>
            if after.nanos = 0 then
              follow job task fuel (s.deliver job task number stopsRun after reply)
            else s.later (s.clock.add after) (.reply job task number stopsRun after reply)
      | .settled _ => s.afterTask job
      | .waiting | .crashed => s
      | _ => follow job task fuel (s.act job task .go)

/-- Starts the tasks of a job. -/
def openJob (s : Schedule σ) (job : Nat) : Schedule σ :=
  match s.state.job? job with
  | none => s
  | some run =>
    { s with
      groups := job :: s.groups
      ready := s.ready ++ (List.range run.tasks.length).map fun task => .task job task }

/-- Groups without one of them, whose turn the first one takes. -/
def dropGroup (group : Nat) : List Nat → List Nat
  | [] => []
  | first :: rest =>
    if first = group then rest
    else if rest.contains group then rest.map fun g => if g = group then first else g
    else first :: rest

/-- A job takes notice of tasks that are over. -/
def watchJob (s : Schedule σ) (job : Nat) : Schedule σ :=
  let s := s.move none (.notice job)
  match s.state.job? job with
  | some run => if run.isOver then { s with groups := dropGroup job s.groups } else s
  | none => s

/-- A task begins, or stands in line for a slot. -/
def startTask (s : Schedule σ) (fuel job task : Nat) : Schedule σ :=
  match s.state.task? job task with
  | none => s
  | some (run, t) =>
    if run.policy.maxParallel.isSome && !t.slot && !s.state.signals.isRaised job then
      if run.hasSlot then
        let s := s.move none (.task job task .grant)
        follow job task fuel (s.act job task .go)
      else { s with line := s.line ++ [(job, task)] }
    else follow job task fuel (s.act job task .go)

/-- The first of what is due next, and the rest. -/
def takeDue? : List (Duration × DueMove) → Option ((Duration × DueMove) × List (Duration × DueMove))
  | [] => none
  | entry :: rest =>
    match takeDue? rest with
    | none => some (entry, [])
    | some (other, others) =>
      if entry.1.nanos ≤ other.1.nanos then some (entry, rest) else some (other, entry :: others)

/-- Does what is due. -/
def doDue (s : Schedule σ) (fuel : Nat) : DueMove → Schedule σ
  | .reply job task call stopsRun after reply =>
    follow job task fuel (s.deliver job task call stopsRun after reply)
  | .expire job task after reply => follow job task fuel (s.act job task (.reply after reply))
  | .stopAll => s.move none .stopAll

/-- Runs on, until nothing is under way. -/
def runFor : (fuel : Nat) → Schedule σ → Schedule σ
  | 0, s => s
  | fuel + 1, s =>
    match s.ready with
    | ticket :: rest =>
      let s := { s with ready := rest }
      runFor fuel <|
        match ticket with
        | .openJob job => s.openJob job
        | .watchJob job => s.watchJob job
        | .task job task => s.startTask fuel job task
    | [] =>
      if s.state.isOver then s
      else
        match takeDue? s.due with
        | none => s
        | some ((time, m), rest) => runFor fuel ({ s with clock := time, due := rest }.doDue fuel m)

/-- More than enough moves for a job. -/
def movesOf : JobStage → Nat
  | .started run => run.tasks.foldl (fun n t => n + 16 + 8 * t.inst.job.steps.length) 16
  | _ => 2

/-- Runs to the end. -/
def finish (s : Schedule σ) : Schedule σ :=
  runFor (s.state.jobs.foldl (fun n job => n + movesOf job) (s.due.length + 8)) s

end Schedule

end MatrixFlow
