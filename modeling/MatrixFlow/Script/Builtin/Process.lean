import MatrixFlow.Script.Builtin.Input
import MatrixFlow.Script.Test

/-!
# Commands for processes

* `signal?`, `signalName`, `signalText`: signals by numbers and names.
* `exitBuiltin`, `returnBuiltin`, `loopBuiltin`: ends of shells, functions and loops.
* `killBuiltin`, `waitBuiltin`, `trapBuiltin`, `umaskBuiltin`.
-/

namespace MatrixFlow.Script

/-! ## Signals -/

/-- The names of the signals by their numbers. -/
def signals : List (Nat × String) :=
  [(0, "EXIT"), (1, "HUP"), (2, "INT"), (3, "QUIT"), (4, "ILL"), (5, "TRAP"), (6, "ABRT"),
    (7, "BUS"), (8, "FPE"), (9, "KILL"), (10, "USR1"), (11, "SEGV"), (12, "USR2"), (13, "PIPE"),
    (14, "ALRM"), (15, "TERM"), (16, "STKFLT"), (17, "CHLD"), (18, "CONT"), (19, "STOP"),
    (20, "TSTP"), (21, "TTIN"), (22, "TTOU"), (23, "URG"), (24, "XCPU"), (25, "XFSZ"),
    (26, "VTALRM"), (27, "PROF"), (28, "WINCH"), (29, "IO"), (30, "PWR"), (31, "SYS")]

/-- Commands that cannot be told from signals: what runs before each command, at failures, and at
the ends of functions. -/
def events : List (Nat × String) := [(65, "DEBUG"), (66, "ERR"), (67, "RETURN")]

/-- The number of what runs before each command. -/
def debugEvent : Nat := 65

/-- The number of what runs at failures. -/
def failureEvent : Nat := 66

/-- The number of what runs at the ends of functions. -/
def returnEvent : Nat := 67

/-- The name of a signal. -/
def signalName (dialect : Dialect) (n : Nat) : Option String :=
  match (signals.find? fun (k, _) => k == n), dialect with
  | some (16, _), .plain => some "16"
  | some (_, name), _ => some name
  | none, _ =>
    if n = 32 || n = 33 then some (toString n)
    else if n = 34 then some "RTMIN"
    else if n < 50 then some ("RTMIN+" ++ toString (n - 34))
    else if n < 64 then some ("RTMAX-" ++ toString (64 - n))
    else if n = 64 then some "RTMAX"
    else none

/-- The number of a signal or an event. -/
def signal? (dialect : Dialect) (text : Octets) : Option Nat :=
  match natural? text with
  | some n => if n ≤ 64 then some n else none
  | none =>
    let name := String.ofList (text.map Char.toUpper)
    let (name, known) := match dialect with
      | .plain => (name, signals)
      | .extended => ((name.afterStart? "SIG").getD name, signals ++ events)
    (known.find? fun (_, k) => k == name).map (·.1)

/-- How a process is said to have been ended by a signal. -/
def signalText : Nat → Option String
  | 1 => some "Hangup"
  | 3 => some "Quit"
  | 4 => some "Illegal instruction"
  | 5 => some "Trace/breakpoint trap"
  | 6 => some "Aborted"
  | 7 => some "Bus error"
  | 8 => some "Floating point exception"
  | 9 => some "Killed"
  | 10 => some "User defined signal 1"
  | 11 => some "Segmentation fault"
  | 12 => some "User defined signal 2"
  | 14 => some "Alarm clock"
  | 15 => some "Terminated"
  | 16 => some "Stack fault"
  | 24 => some "CPU time limit exceeded"
  | 25 => some "File size limit exceeded"
  | 26 => some "Virtual timer expired"
  | 27 => some "Profiling timer expired"
  | 29 => some "I/O possible"
  | 30 => some "Power failure"
  | 31 => some "Bad system call"
  | _ => none

/-! ## Ends of commands -/

/-- The exit code of a number. -/
def exitStatus (n : Int) : Nat := (n % 256).toNat

/-- Ends the shell because a command has too many arguments. -/
def tooManyArguments {α : Type} (name : String) : Eval α := do
  complainAs name (octets "too many arguments")
  setStatus 1
  throw .exit

/-- Ends the shell. -/
def exitBuiltin (args : List Octets) : Eval Unit := do
  let scope ← getScope
  match args with
  | [] => throw .exit
  | a :: rest =>
    match testNumber a with
    | .ok n =>
      if !rest.isEmpty && scope.dialect = .extended then tooManyArguments "exit"
      if n < 0 && scope.dialect = .plain then
        complainAs "exit" (octets "Illegal number: " ++ a)
        setStatus 2
      else setStatus (exitStatus n)
      throw .exit
    | .error _ =>
      fails "exit" (2, octets "Illegal number: " ++ a)
        (2, a ++ octets ": numeric argument required")
      throw .exit

/-- Ends a function. -/
def returnBuiltin (args : List Octets) : Eval Unit := do
  let scope ← getScope
  match args with
  | a :: rest =>
    match testNumber a with
    | .ok n =>
      if !rest.isEmpty && scope.dialect = .extended then tooManyArguments "return"
      if n < 0 && scope.dialect = .plain then
        failsHard "return" (octets "Illegal number: " ++ a) (2, [])
      setStatus (exitStatus n)
    | .error _ =>
      failsHard "return" (octets "Illegal number: " ++ a)
        (2, a ++ octets ": numeric argument required")
  | [] => pure ()
  if scope.dialect = .extended && scope.callers.all (· == octets "main") then
    complainAs "return" (octets "can only \x60return' from a function or sourced script")
    setStatus 2
  else throw .back

/-- Leaves loops, or goes on with their next round; outside of loops that does nothing. -/
def loopBuiltin (name : String) (departure : Nat → Departure) (args : List Octets) : Eval Unit := do
  let scope ← getScope
  match scope.dialect with
  | .plain =>
    let text := args.head?.getD ['1']
    match natural? text with
    | some (n + 1) =>
      setStatus 0
      if scope.loops = 0 then return
      throw (departure (min (n + 1) scope.loops))
    | _ => failsHard name (octets "Illegal number: " ++ text) (0, [])
  | .extended =>
    if scope.loops = 0 then
      complainAs name (octets "only meaningful in a \x60for', \x60while', or \x60until' loop")
      setStatus 0
    else
      let text := args.head?.getD ['1']
      match testNumber text with
      | .error _ =>
        complainAs name (text ++ octets ": numeric argument required")
        setStatus 128
        throw .exit
      | .ok n =>
        if args.length > 1 then tooManyArguments name
        if n ≤ 0 then
          complainAs name (text ++ octets ": loop count out of range")
          setStatus 1
          throw (.leave scope.loops)
        setStatus 0
        throw (departure (min n.toNat scope.loops))

/-! ## Signals to processes -/

/-- The process in the background that a word names. -/
def Scope.job? (scope : Scope) (target : Octets) : Option Nat :=
  match target with
  | ['%'] | ['%', '%'] | ['%', '+'] => scope.jobs.getLast?
  | ['%', '-'] => scope.jobs.dropLast.getLast?
  | '%' :: digits => (natural? digits).bind fun n => if n = 0 then none else scope.jobs[n - 1]?
  | digits => (natural? digits).bind fun n => scope.jobs.find? (· == n)

/-- A command in the background by its process. -/
def Session.job? (s : Session) (process : Nat) : Option BackgroundJob :=
  s.jobs.find? fun job => job.process == process

/-- It is not over at a time. -/
def BackgroundJob.isRunning (job : BackgroundJob) (clock : Duration) : Bool :=
  job.endsAt.all fun ends => clock.nanos ≤ ends.nanos

/-- A signal comes to a command in the background now. -/
def signalJob (process signal : Nat) : Eval Unit :=
  modify fun s =>
    let told (job : BackgroundJob) : BackgroundJob :=
      if job.process = process then
        { job with signals := job.signals ++ [(s.clock, signal)], stale := true }
      else job
    { s with jobs := s.jobs.map told }

/-- Sends a signal to a process; false if that fails. -/
def sendSignal (signal : Nat) (target : Octets) : Eval Bool := do
  let s ← get
  let scope := s.scope
  match (scope.job? target).or (natural? target) with
  | some process =>
    let job := s.job? process
    if process = scope.self then
      match scope.answer signal with
      | .ignored => return true
      | .acts =>
        modifyScope fun s => s.await signal
        return true
      | .ends => throw (.killed process signal)
    else if job.any (·.isRunning s.clock) && !scope.waited.contains process then
      if signal ≠ 0 then signalJob process signal
      return true
    else if process = scope.process then
      if signal ≠ 0 then
        modify fun s => { s with alarms := s.alarms ++ [⟨s.clock, process, signal, s.owner⟩] }
      return true
    else
      fails "kill" (1, octets "No such process\n")
        (1, octets "(" ++ octets (toString process) ++ octets ") - No such process")
      return false
  | none =>
    if target.head? == some '%' then
      fails "kill" (2, octets "No such job: " ++ target) (1, target ++ octets ": no such job")
    else
      fails "kill" (2, octets "Illegal number: " ++ target)
        (1, target ++ octets ": arguments must be process or job IDs")
    return false

/-- The list of all signals. -/
def signalList (dialect : Dialect) : Octets :=
  match dialect with
  | .plain =>
    octets "0\n" ++ (List.range 64).flatMap fun i =>
      octets ((signalName .plain (i + 1)).getD "") ++ ['\n']
  | .extended =>
    let shown := (List.range 64).filter fun i => i ≠ 31 && i ≠ 32
    let cell (i : Nat) : Octets :=
      let number := octets (toString (i + 1))
      List.replicate (2 - number.length) ' ' ++ number ++
        octets (") SIG" ++ (signalName .extended (i + 1)).getD "")
    let row (n : Nat) : Octets := Text.joinWith ['\t'] (((shown.drop (5 * n)).take 5).map cell)
    (List.range 12).flatMap (fun n => row n ++ ['\n']) ++ row 12 ++ ['\t', '\n']

/-- Tells the names or numbers of signals. -/
def listSignals (args : List Octets) : Eval Unit := do
  let dialect := (← getScope).dialect
  setStatus 0
  if args.isEmpty then emit 1 (signalList dialect)
  else args.forM fun a => do
    match natural? a, dialect with
    | some n, _ =>
      let n := if n > 128 then n - 128 else n
      match signalName dialect n with
      | some name => emit 1 (octets (name ++ "\n"))
      | none =>
        fails "kill" (2, octets "invalid signal number or exit status: " ++ a)
          (1, a ++ octets ": invalid signal specification")
    | none, .plain => fails "kill" (2, octets "Illegal number: " ++ a) (2, [])
    | none, .extended =>
      match signal? dialect a with
      | some n => emit 1 (octets (toString n ++ "\n"))
      | none => fails "kill" (2, []) (1, a ++ octets ": invalid signal specification")

/-- Sends a signal to processes. -/
def killBuiltin (args : List Octets) : Eval Unit := do
  let dialect := (← getScope).dialect
  let send (signal : Nat) (targets : List Octets) : Eval Unit := do
    if targets.isEmpty then
      match dialect with
      | .plain =>
        fails "kill" (2, octets
          ("Usage: kill [-s sigspec | -signum | -sigspec] [pid | job]... or\n" ++
            "kill -l [exitstatus]")) (2, [])
      | .extended =>
        emit 2 (octets ("kill: usage: kill [-s sigspec | -n signum | -sigspec] pid | jobspec " ++
          "... or kill -l [sigspec]\n"))
        setStatus 2
    else
      let sent ← targets.mapM (sendSignal signal)
      if sent.all id then setStatus 0
  let named (name : Octets) (targets : List Octets) : Eval Unit := do
    match signal? dialect name with
    | some n => send n targets
    | none =>
      fails "kill" (2, octets "invalid signal number or name: " ++ name)
        (1, name ++ octets ": invalid signal specification")
  match args with
  | ['-', 'l'] :: rest | ['-', 'L'] :: rest => listSignals rest
  | ['-', 's'] :: name :: rest | ['-', 'n'] :: name :: rest => named name rest
  | ['-', '-'] :: rest => send 15 rest
  | ('-' :: c :: name) :: rest =>
    if dialect = .plain && (signal? dialect (c :: name)).isNone then
      fails "kill" (2, octets "Illegal option -" ++ [c]) (2, [])
    else named (c :: name) rest
  | rest => send 15 rest

/-- Waits for a command in the background; false if a signal ended that. -/
def awaitJob (process : Nat) : Eval Bool := do
  let s ← get
  match s.job? process with
  | none => return true
  | some job =>
    match ← waitUntil job.endsAt with
    | none =>
      modifyScope fun s => { s with waited := process :: s.waited }
      return true
    | some signal =>
      setStatus (128 + signal)
      return false

/-- Waits for commands in the background, as long as no signal ends that. -/
def awaitJobs : List Nat → Eval Bool
  | [] => return true
  | process :: rest => do
    if ← awaitJob process then awaitJobs rest else return false

/-- Waits for the command in the background that a word names; false if a signal ended that. -/
def awaitNamed (name : Octets) (isOption : Bool) : Eval Bool := do
  let s ← get
  match (s.scope.job? name).bind s.job? with
  | some job =>
    if !(← awaitJob job.process) then return false
    match s.scope.dialect, signalText (job.status - 128) with
    | .plain, some text => emit 2 (octets (text ++ "\n"))
    | _, _ => pure ()
    setStatus job.status
  | none =>
    match name.head? == some '%', natural? name with
    | true, _ =>
      fails "wait" (2, octets "No such job: " ++ name) (127, name ++ octets ": no such job")
    | false, some _ =>
      match s.scope.dialect with
      | .plain => setStatus 127
      | .extended =>
        fails "wait" (127, [])
          (127, octets "pid " ++ name ++ octets " is not a child of this shell")
    | false, none =>
      if isOption then fails "wait" (2, octets "Illegal option " ++ name.take 2) (2, [])
      else
        fails "wait" (2, octets "Illegal number: " ++ name)
          (1, octets "\x60" ++ name ++ octets "': not a pid or valid job spec")
  return true

/-- Waits for all of the named commands, as long as no signal ends that. -/
def awaitAll (isOption : Octets → Bool) : List Octets → Eval Unit
  | [] => return
  | name :: rest => do
    if ← awaitNamed name (isOption name) then awaitAll isOption rest

/-- Waits for commands in the background. -/
def waitBuiltin (args : List Octets) : Eval Unit := do
  let s ← get
  let isOption (a : Octets) : Bool := a.head? == some '-' && a.length > 1
  let extended := s.scope.dialect = .extended
  match args.filter fun a => !(extended && isOption a) with
  | [] =>
    if extended && args.contains ['-', 'n'] then
      let unwaited := s.scope.jobs.filter fun process => !s.scope.waited.contains process
      let endless : Nat := total (s.jobs.map fun job => (job.endsAt.getD ⟨0⟩).nanos + 1)
      let ends (job : BackgroundJob) : Nat := (job.endsAt.map (·.nanos)).getD endless
      let ordered := (unwaited.filterMap s.job?).mergeSort fun a b => ends a ≤ ends b
      match ordered with
      | [] => setStatus 127
      | job :: _ => if ← awaitJob job.process then setStatus job.status
    else if ← awaitJobs s.scope.jobs then setStatus 0
  | names => awaitAll isOption names

/-! ## What runs at signals -/

/-- Shows what runs at signals. -/
def showTraps (scope : Scope) (shown : Nat → Bool) : Eval Unit := do
  let ordered := scope.traps.mergeSort fun a b => a.1 ≤ b.1
  (ordered.filter fun (n, _) => shown n).forM fun (n, action) => do
    let text := match scope.dialect with
      | .plain => plainShownValue action
      | .extended => shownValue action
    let name := match events.find? fun (k, _) => k == n with
      | some (_, name) => name
      | none =>
        let front := if scope.dialect = .extended && n ≠ 0 then "SIG" else ""
        front ++ (signalName scope.dialect n).getD ""
    emit 1 (octets "trap -- " ++ text ++ octets (" " ++ name ++ "\n"))

/-- Sets what runs at signals. -/
def trapBuiltin (args : List Octets) : Eval Unit := do
  let scope ← getScope
  setStatus 0
  let meant (names : List Octets) (act : Nat → Scope → Scope) : Eval Unit :=
    names.forM fun name => do
      match signal? scope.dialect name with
      | some n => modifyScope (act n)
      | none =>
        match scope.dialect with
        | .plain =>
          emit 2 (octets "trap: " ++ name ++ octets ": bad trap\n")
          setStatus 1
        | .extended => fails "trap" (1, []) (1, name ++ octets ": invalid signal specification")
  let without (n : Nat) (s : Scope) : Scope :=
    { s with traps := s.traps.filter fun (k, _) => k != n }
  let isOption (a : Octets) : Bool := a.head? == some '-' && a.length > 1 && a != ['-', '-']
  match args.find? isOption, scope.dialect with
  | some a, .plain =>
    if args.head? == some a then failsHard "trap" (octets "Illegal option " ++ a.take 2) (2, [])
  | _, _ => pure ()
  match args.filter fun a => a != ['-', '-'] with
  | [] => showTraps scope fun _ => true
  | ['-', 'l'] :: _ => emit 1 (signalList .extended)
  | ['-', 'p'] :: names =>
    let wanted := names.filterMap (signal? scope.dialect)
    showTraps scope fun n => names.isEmpty || wanted.contains n
  | [only] =>
    if (signal? scope.dialect only).isSome || scope.dialect = .plain then meant [only] without
    else
      emit 2 (octets "trap: usage: trap [-lp] [[arg] signal_spec ...]\n")
      setStatus 2
  | action :: names =>
    if (natural? action).isSome then meant (action :: names) without
    else meant names fun n s =>
      let s := without n s
      if action == ['-'] then s else { s with traps := s.traps ++ [(n, action)] }

/-! ## Rights and bounds -/

/-- Rights as letters. -/
def maskLetters (mask : Nat) : Octets :=
  let part (c : Char) (bits : Nat) : Octets :=
    c :: '=' :: [(4, 'r'), (2, 'w'), (1, 'x')].filterMap fun (bit, letter) =>
      if bits / bit % 2 = 0 then some letter else none
  Text.joinWith [','] [part 'u' (mask / 64 % 8), part 'g' (mask / 8 % 8), part 'o' (mask % 8)]

/-- Rights that are taken away, changed by one clause of letters. -/
def maskClause? (mask : Nat) (clause : Octets) : Option Nat :=
  let who := clause.takeWhile fun c => ['u', 'g', 'o', 'a'].contains c
  let who := if who.isEmpty || who.contains 'a' then ['u', 'g', 'o'] else who
  match clause.dropWhile fun c => ['u', 'g', 'o', 'a'].contains c with
  | sign :: letters =>
    if !(['+', '-', '='].contains sign) || !letters.all (['r', 'w', 'x'].contains ·) then none
    else
      let bits := total ([('r', 4), ('w', 2), ('x', 1)].map fun (c, bit) =>
        if letters.contains c then bit else 0)
      let change (c : Char) (old : Nat) : Nat :=
        if !who.contains c then old
        else match sign with
          | '=' => 7 - bits
          | '+' => old - (old &&& bits)
          | _ => old ||| bits
      some (change 'u' (mask / 64 % 8) * 64 + change 'g' (mask / 8 % 8) * 8 + change 'o' (mask % 8))
  | [] => none

/-- Sets the rights that new files do not get, or shows them. -/
def umaskBuiltin (args : List Octets) : Eval Unit := do
  let scope ← getScope
  let letters := args.any (· == ['-', 'S'])
  setStatus 0
  match args.filter fun a => a.head? != some '-' with
  | [] =>
    let digits := Nat.toDigits 8 scope.mask
    emit 1 ((if letters then maskLetters scope.mask
      else List.replicate (4 - digits.length) '0' ++ digits) ++ ['\n'])
  | text :: _ =>
    if text.head?.any Char.isDigit then
      let (mask, count) := leadingNumber 8 text.length text
      if count = text.length && mask < 4096 then modifyScope fun s => { s with mask := mask % 512 }
      else
        fails "umask" (2, octets "Illegal number: " ++ text)
          (1, text ++ octets ": octal number out of range")
    else match (Text.splitOn ',' text).foldlM maskClause? scope.mask with
      | some mask => modifyScope fun s => { s with mask := mask }
      | none =>
        fails "umask" (2, octets "Illegal mode: " ++ text)
          (1, octets "\x60" ++ text.take 1 ++ octets "': invalid symbolic mode operator")

/-- Tells how long the shell and its commands have worked. -/
def timesBuiltin (_ : List Octets) : Eval Unit := do
  let row := match (← getScope).dialect with
    | .plain => "0m0.000000s 0m0.000000s\n"
    | .extended => "0m0.000s 0m0.000s\n"
  emit 1 (octets (row ++ row))
  setStatus 0

/-- Looks for programs. -/
def hashBuiltin (args : List Octets) : Eval Unit := do
  let s ← get
  setStatus 0
  let names := args.filter fun a => a.head? != some '-'
  if args.isEmpty && s.scope.dialect = .extended then emit 1 (octets "hash: hash table empty\n")
  names.forM fun name => do
    match s.scope.program s.files name with
    | .unusable _ => fails "hash" (1, name ++ octets ": not found") (1, name ++ octets ": not found")
    | _ => pure ()

/-- Tells the bounds of the shell, of which there are none. -/
def ulimitBuiltin (args : List Octets) : Eval Unit := do
  let shows := args.all fun a => a.head? == some '-'
  if shows then emit 1 (octets "unlimited\n")
  setStatus 0

/-- How a command in the background stands, and its source if it is a single command. -/
def BackgroundJob.state (job : BackgroundJob) (dialect : Dialect) (clock : Duration) :
    String × Octets :=
  let source := match job.body with
    | .simple _ source .. | .pipeline _ [.simple _ source ..] => source
    | _ => []
  let isOver := job.endsAt.any fun ends => ends.nanos ≤ clock.nanos
  if !isOver then ("Running", source ++ octets " &")
  else if job.status = 0 then ("Done", source)
  else match signalText (job.status - 128), dialect with
    | some text, _ => (text, source)
    | none, .plain => ("Done(" ++ toString job.status ++ ")", source)
    | none, .extended => ("Exit " ++ toString job.status, source)

/-- Tells which commands are in the background, and once of each that it is over. -/
def jobsBuiltin (args : List Octets) : Eval Unit := do
  let s ← get
  setStatus 0
  let gone := match s.scope.dialect with
    | .plain => s.scope.told
    | .extended => s.scope.told ++ s.scope.waited
  let numbered := (s.scope.jobs.zipIdx.filter fun (process, _) => !gone.contains process)
  let current := (numbered.getLast?).map (·.1)
  let former := (numbered.dropLast.getLast?).map (·.1)
  let ordered := match s.scope.dialect with
    | .plain => numbered.reverse
    | .extended => numbered
  ordered.forM fun (process, i) => do
    match s.job? process with
    | none => return
    | some job =>
      if args.contains ['-', 'p'] then emit 1 (octets (toString process) ++ ['\n'])
      else
        let (state, source) := job.state s.scope.dialect s.clock
        let sign := if current = some process then '+' else if former = some process then '-' else ' '
        let padded (text : Octets) (n : Nat) : Octets := text ++ List.replicate (n - text.length) ' '
        let number := '[' :: octets (toString (i + 1)) ++ [']']
        emit 1 (match s.scope.dialect with
          | .plain => padded (number ++ [' ', sign, ' '] ++ octets state) 33 ++ ['\n']
          | .extended => number ++ [sign, ' ', ' '] ++ padded (octets state) 24 ++ source ++ ['\n'])
        if state != "Running" then modifyScope fun s => { s with told := process :: s.told }

end MatrixFlow.Script
