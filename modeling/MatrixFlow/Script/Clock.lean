import MatrixFlow.Script.Session

/-!
# Time and signals

* `passTime`: lets time pass. Signals that come meanwhile are answered.
* `receiveUntil`: answers the signals up to a time.
* `runOut`: stops because the time is over.
* `spend`, `withHalf`: the work that is left for commands.
-/

namespace MatrixFlow.Script

/-! ## Signals -/

/-- What a signal does. -/
inductive SignalAnswer where
  /-- Nothing. -/
  | ignored
  /-- A command runs, once the one that is running is over. -/
  | acts
  /-- It ends the process. -/
  | ends
deriving DecidableEq, Repr

/-- Signals that do nothing by themselves; those that only stop a process count as such. -/
def quietSignals : List Nat := [0, 17, 18, 19, 20, 21, 22, 23, 28]

/-- What a signal does to the shell. -/
def Scope.answer (scope : Scope) (signal : Nat) : SignalAnswer :=
  let action := (scope.traps.find? fun (n, _) => n == signal).map (·.2)
  match action with
  | some action =>
    if signal = 9 || signal = 19 then .ends else if action.isEmpty then .ignored else .acts
  | none => if quietSignals.contains signal then .ignored else .ends

/-- The signals that come to the shell, up to a time if one is given; the first one first. -/
def Session.due (s : Session) (latest : Option Duration) : List Alarm :=
  let isDue (a : Alarm) : Bool :=
    a.process == s.scope.self && latest.all fun latest => a.time.nanos ≤ latest.nanos
  (s.alarms.filter isDue).mergeSort fun a b => a.time.nanos ≤ b.time.nanos

/-- A command is to run at a signal; one that comes twice is answered once. -/
def Scope.await (scope : Scope) (signal : Nat) : Scope :=
  if scope.pending.contains signal then scope
  else { scope with pending := scope.pending ++ [signal] }

/-- A signal that has been answered comes no more. -/
def dropAlarm (a : Alarm) : Eval Unit :=
  modify fun s => { s with alarms := s.alarms.filter (· != a) }

/-- Answers a signal. -/
def receive (a : Alarm) : Eval Unit := do
  dropAlarm a
  match (← getScope).answer a.signal with
  | .ignored => return
  | .acts => modifyScope fun s => s.await a.signal
  | .ends =>
    modify fun s => { s with clock := ⟨max s.clock.nanos a.time.nanos⟩ }
    throw (.killed a.process a.signal)

/-- Answers the signals that come up to a time. -/
def receiveUntil (latest : Duration) : Eval Unit := do
  ((← get).due (some latest)).forM receive

/-! ## Time -/

/-- Lets time pass. Beyond the limit everything stops. -/
def passTime (d : Duration) : Eval Unit := do
  let s ← get
  let clock := s.clock.add d
  match s.limit with
  | some limit =>
    if limit.nanos < clock.nanos then
      receiveUntil limit
      modify fun s => { s with clock := limit }
      throw .expired
  | none => pure ()
  receiveUntil clock
  modify fun s => { s with clock := clock }

/-- Stops because the time is over. -/
def runOut {α : Type} : Eval α := do
  modify fun s => { s with clock := s.limit.getD s.clock }
  throw .expired

/-- Waits until a time, or without an end. A signal at which a command runs ends that, and is the
answer. -/
def waitUntil (ends : Option Duration) : Eval (Option Nat) := do
  let s ← get
  let latest := match ends, s.limit with
    | some a, some b => some (if a.nanos ≤ b.nanos then a else b)
    | some a, none => some a
    | none, limit => limit
  match (s.due latest).find? fun a => s.scope.answer a.signal != .ignored with
  | some a =>
    if s.scope.answer a.signal == .acts then
      modify fun s => { s with clock := ⟨max s.clock.nanos a.time.nanos⟩ }
    receive a
    -- In the plain dialect, what ends at that very time comes first.
    let isOver := s.scope.dialect = .plain && ends.any fun ends => ends.nanos ≤ a.time.nanos
    return if isOver then none else some a.signal
  | none =>
    match ends with
    | some ends =>
      passTime ⟨ends.nanos - s.clock.nanos⟩
      return none
    | none => runOut

/-! ## Work -/

/-- The work that one signal more is given. -/
def workPerSignal : Nat := 20000

/-- Counts a command. Where no more work is left, the shell goes on without an end until a signal
comes. -/
def spend : Eval Unit := do
  let s ← get
  match s.work with
  | n + 1 => set { s with work := n }
  | 0 =>
    match s.due s.limit with
    | [] => runOut
    | a :: _ =>
      set { s with clock := ⟨max s.clock.nanos a.time.nanos⟩, work := workPerSignal }
      receive a

/-- Does something to its end with half of the work that is left. -/
def withHalf {α : Type} (m : Eval α) : Eval (Except Departure α) := do
  let kept := (← get).work / 2
  modify fun s => { s with work := s.work - kept }
  let result ← attempt m
  modify fun s => { s with work := s.work + kept }
  return result

end MatrixFlow.Script
