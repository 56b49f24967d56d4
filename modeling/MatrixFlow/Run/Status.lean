/-!
# Status of instances and runs

* `InstanceState`, `InstanceState.canMoveTo`: where an instance stands, and where it can go.
* `RunStatus`, `RunStatus.aggregate`: how something ended, and how several things together did.
* `StatusTable.request`: moves one entry of a table of states, if the move is a legal one.
* `Signals`: which groups of instances have been told to stop.
* `Control`: by it an instance reports its state and finds out whether it is to stop.
* `Board.ask`: whatever can be asked of a table and its groups, by any control or from outside.
-/

namespace MatrixFlow

/-- Where an instance stands. -/
inductive InstanceState where
  | pending
  | running
  | succeeded
  | failed
  | cancelled
deriving DecidableEq, Repr, Inhabited

namespace InstanceState

/-- The name of a state. -/
def name : InstanceState → String
  | pending => "pending"
  | running => "running"
  | succeeded => "succeeded"
  | failed => "failed"
  | cancelled => "cancelled"

/-- There is no way on from here. -/
def isTerminal : InstanceState → Bool
  | succeeded | failed | cancelled => true
  | pending | running => false

/-- The legal moves: from pending to running or cancelled, and from running to an end. -/
def canMoveTo : (current next : InstanceState) → Bool
  | pending, running | pending, cancelled => true
  | running, succeeded | running, failed | running, cancelled => true
  | _, _ => false

end InstanceState

/-- How an instance, a job or a run ended. -/
inductive RunStatus where
  | succeeded
  | failed
  | cancelled
deriving DecidableEq, Repr, Inhabited

namespace RunStatus

/-- The name of a status. -/
def name : RunStatus → String
  | succeeded => "succeeded"
  | failed => "failed"
  | cancelled => "cancelled"

/-- The state in which an instance of this status rests. -/
def state : RunStatus → InstanceState
  | succeeded => .succeeded
  | failed => .failed
  | cancelled => .cancelled

/-- The graver one of two: failed, then cancelled, then succeeded. -/
def worse : RunStatus → RunStatus → RunStatus
  | failed, _ | _, failed => failed
  | cancelled, _ | _, cancelled => cancelled
  | succeeded, succeeded => succeeded

/-- How several things ended together. -/
def aggregate (statuses : List RunStatus) : RunStatus :=
  statuses.foldl worse succeeded

/-- It succeeded. -/
def isSuccess (status : RunStatus) : Bool :=
  status == succeeded

end RunStatus

/-- Why a state was not changed. -/
inductive TransitionError where
  | unknownInstance (id : Nat)
  | illegal (id : Nat) (current next : InstanceState)
deriving DecidableEq, Repr

/-- The error in words. -/
def TransitionError.message : TransitionError → String
  | unknownInstance id => "no instance with id " ++ toString id
  | illegal id current next =>
    "instance " ++ toString id ++ " cannot move from " ++ current.name ++ " to " ++ next.name

/-- The states of instances, by their number. -/
structure StatusTable where
  states : List InstanceState
deriving DecidableEq, Repr

namespace StatusTable

/-- A table in which all is pending. -/
def ofSize (n : Nat) : StatusTable :=
  ⟨List.replicate n .pending⟩

/-- The state of an instance. -/
def get? (table : StatusTable) (id : Nat) : Option InstanceState :=
  table.states[id]?

/-- Moves an instance to another state; the answer holds the state in which it was. -/
def request (table : StatusTable) (id : Nat) (next : InstanceState) :
    Except TransitionError (InstanceState × StatusTable) :=
  match table.get? id with
  | none => .error (.unknownInstance id)
  | some current =>
    if current.canMoveTo next then .ok (current, ⟨table.states.set id next⟩)
    else .error (.illegal id current next)

end StatusTable

/-- Who has been told to stop: everything, or some groups. -/
structure Signals where
  everything : Bool
  groups : List Nat
deriving DecidableEq, Repr

namespace Signals

/-- Nobody has been told to stop. -/
def none : Signals := ⟨false, []⟩

/-- Tells everything to stop. -/
def raiseAll (s : Signals) : Signals := { s with everything := true }

/-- Tells a group to stop. -/
def raise (s : Signals) (group : Nat) : Signals :=
  if s.groups.contains group then s else { s with groups := group :: s.groups }

/-- A group has been told to stop, alone or with everything. -/
def isRaised (s : Signals) (group : Nat) : Bool :=
  s.everything || s.groups.contains group

end Signals

/-- The part of a running instance in a table of states and in a group. -/
structure Control where
  id : Nat
  group : Nat
deriving DecidableEq, Repr

namespace Control

variable (c : Control)

/-- The group of the control has been told to stop. -/
def isStopped (signals : Signals) : Bool :=
  signals.isRaised c.group

/-- Tells the group of the control to stop. -/
def stopGroup (signals : Signals) : Signals :=
  signals.raise c.group

/-- The state of the instance of the control. -/
def state? (table : StatusTable) : Option InstanceState :=
  table.get? c.id

end Control

/-- The table of states and who has been told to stop. -/
structure Board where
  table : StatusTable
  signals : Signals
deriving DecidableEq, Repr

/-- What can be asked. -/
inductive Ask where
  /-- The table is asked for another state of an instance. -/
  | state (id : Nat) (next : InstanceState)
  /-- A control asks for another state of its own instance. -/
  | own (control : Control) (next : InstanceState)
  /-- A control tells its group to stop. -/
  | stopGroup (control : Control)
  /-- Everything is told to stop. -/
  | stopAll
deriving DecidableEq, Repr

/-- The instance and the state that is wanted for it. -/
def Ask.wanted? : Ask → Option (Nat × InstanceState)
  | state id next => some (id, next)
  | own control next => some (control.id, next)
  | stopGroup _ | stopAll => none

namespace Board

/-- A board of instances that are pending, and none of which has been told to stop. -/
def ofSize (n : Nat) : Board :=
  ⟨StatusTable.ofSize n, Signals.none⟩

/-- The answer to a request for a state, and the board behind it. -/
def request (b : Board) (id : Nat) (next : InstanceState) :
    Except TransitionError InstanceState × Board :=
  match b.table.request id next with
  | .ok (previous, table) => (.ok previous, { b with table := table })
  | .error e => (.error e, b)

/-- The answer, if a state is asked for, and the board behind it. -/
def ask (b : Board) : Ask → Option (Except TransitionError InstanceState) × Board
  | .state id next =>
    let (answer, b) := b.request id next
    (some answer, b)
  | .own control next =>
    let (answer, b) := b.request control.id next
    (some answer, b)
  | .stopGroup control => (none, { b with signals := control.stopGroup b.signals })
  | .stopAll => (none, { b with signals := b.signals.raiseAll })

/-- The board when all has been asked, one after the other. -/
def after (b : Board) (asks : List Ask) : Board :=
  asks.foldl (fun b a => (b.ask a).2) b

end Board

end MatrixFlow
