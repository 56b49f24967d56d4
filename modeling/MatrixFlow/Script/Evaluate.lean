import MatrixFlow.Script.Describe
import MatrixFlow.Script.Edit.Run
import MatrixFlow.Script.Find.Run
import MatrixFlow.Script.Launch
import MatrixFlow.Script.Pipeline
import MatrixFlow.Script.Read.Command
import MatrixFlow.Script.Record.Request
import MatrixFlow.Script.Regex

/-!
# Running scripts

* `evalScript`: runs a script, one complete command after the other.
* `evalNode`: runs a command. Where its end is `tested` by other commands, a failure does not end
  the shell.
* `runProgram`: runs a program in the surroundings of the shell.

Every function that calls itself takes fuel. When it is used up, the time is over too.
-/

namespace MatrixFlow.Script

/-! ## Parts of commands -/

/-- Success becomes failure, and failure success. -/
def negateStatus : Eval Unit := do
  setStatus (if (← getScope).status = 0 then 1 else 0)

/-- Runs something as a loop. -/
def inLoop (body : Eval Unit) : Eval Unit := do
  modifyScope fun s => { s with loops := s.loops + 1 }
  let result ← attempt body
  modifyScope fun s => { s with loops := s.loops - 1 }
  resume result

/-- Runs something as a script within a script. -/
def inDepth (body : Eval Unit) : Eval Unit := do
  modifyScope fun s => { s with depth := s.depth + 1 }
  let result ← attempt body
  modifyScope fun s => { s with depth := s.depth - 1 }
  resume result

/-- The names of the functions and the files of what is running, as variables. -/
def Scope.withCallers (s : Scope) (callers frames : List Octets) : Scope :=
  let s := { s with callers := callers, frames := frames }
  match s.dialect with
  | .plain => s
  | .extended =>
    if callers.all (· == octets "main") then
      (s.dropVariable "FUNCNAME").assignList "BASH_SOURCE" frames
    else (s.assignList "FUNCNAME" callers).assignList "BASH_SOURCE" frames

/-- Runs what a shell knows itself. Without a standard output, output is an error. -/
def runBuiltin (name : String) (run : Eval Unit) : Eval Unit := do
  let scope ← getScope
  if scope.writes then run
  else
    let buffer ← fresh
    modifyScope fun s => s.redirect 1 (.captured buffer)
    let result ← attempt run
    modifyScope fun s =>
      match scope.channel? 1 with
      | some channel => s.redirect 1 channel
      | none => s.close 1
    if !(← drain buffer).isEmpty then
      match scope.dialect with
      | .plain => complainAs name (octets name ++ octets ": I/O error")
      | .extended => complainAs name (octets "write error: Bad file descriptor")
      setStatus 1
    resume result

/-- Shows a command before it runs. -/
def trace (text : Octets) : Eval Unit := do
  let scope ← getScope
  if scope.options.traces then
    let sign := (scope.value? "PS4").getD []
    let front := match scope.dialect, sign with
      | .extended, c :: r => List.replicate scope.depth c ++ r
      | _, sign => sign
    emit 2 (front ++ text ++ ['\n'])

/-- Runs something without showing it. -/
def untraced (body : Eval Unit) : Eval Unit := do
  let traces := (← getScope).options.traces
  modifyScope fun s => { s with options := { s.options with traces := false } }
  let result ← attempt body
  modifyScope fun s => { s with options := { s.options with traces := traces } }
  resume result

/-- Words as a trace shows them. -/
def tracedWords (dialect : Dialect) (words : List Octets) : Octets :=
  let shown := words.map fun w =>
    match dialect with
    | .plain => w
    | .extended => if w.isEmpty then ['\x27', '\x27'] else barestValue w
  Text.joinWith [' '] shown

/-- Shows a command in the extended dialect. -/
def traceExtended (text : Octets) : Eval Unit := do
  if (← getScope).dialect = .extended then trace text

/-- The descriptors that redirections may change. -/
def touched (redirects : List Redirect) : List Nat :=
  redirects.flatMap fun r => match r.kind with
    | .both _ | .duplicate => [r.descriptor, 1, 2]
    | _ => [r.descriptor]

/-- Descriptors from here on stand for the outputs of scripts in words. -/
def processDescriptors : Nat := 40

/-- Lets descriptors lead where they did before. -/
def restoreChannels (saved : Scope) (descriptors : List Nat) : Eval Unit :=
  modifyScope fun s =>
    let kept := s.channels.filter fun (d, _) =>
      d < processDescriptors || (saved.channel? d).isSome
    descriptors.foldl (fun (s : Scope) d =>
      match saved.channel? d with
      | some channel => s.redirect d channel
      | none => s.close d) { s with channels := kept }

/-- An argument that is an assignment: what stands up to the equals sign, and the value. -/
def assignmentArgument? (dialect : Dialect) (word : Word) : Option (Octets × Word) :=
  match word with
  | .text false cs :: rest =>
    let name := nameHere cs
    let sign := match dialect, cs.drop name.length with
      | _, '=' :: _ => ['=']
      | .extended, '+' :: '=' :: _ => ['+', '=']
      | _, _ => []
    if name.isEmpty || sign.isEmpty then none
    else
      let value := cs.drop (name.length + sign.length)
      some (name ++ sign, if value.isEmpty then rest else .text false value :: rest)
  | _ => none

/-- The arguments of a command that declares variables. -/
def expandArguments (substitute : Substitute) (words : List Word) : Eval (List Octets) := do
  let fields ← words.mapM fun word => do
    match word, assignmentArgument? (← getScope).dialect word with
    | [.elements _ name _], _ => return [name]
    | _, some (front, value) => return [front ++ (← expandValue substitute value)]
    | _, none => expandFields substitute [word]
  return fields.flatten

/-- An expression as a condition gives it: quoted signs stand for themselves. -/
def expressionText (marks : List Marked) : Octets :=
  marks.flatMap fun m =>
    let special := "\\^$.[]|()*+?\x7b\x7d".toList.contains m.char
    if m.quoted && special then ['\\', m.char] else [m.char]

/-- Whether an expression matches a text, and its groups; 2 if it cannot be read. -/
def matchExpression (marks : List Marked) (cs : Octets) : Eval Nat := do
  match Regex.ofText .condition (expressionText marks) with
  | .error _ => return 2
  | .ok r =>
    match r.find? (← getScope).options.ignoresCase cs with
    | some (_, text, _, groups) =>
      let all := (List.range r.groupCount).map fun i =>
        ((groups.find? fun (n, _) => n == i + 1).map (·.2)).getD []
      modifyScope fun s => s.assignList "BASH_REMATCH" (text :: all)
      return 0
    | none =>
      modifyScope fun s => s.assignList "BASH_REMATCH" []
      return 1

/-- Traps that a copy of the shell keeps. -/
def keptTraps (scope : Scope) : List (Nat × Octets) :=
  scope.traps.filter fun (n, action) =>
    action.isEmpty || (n == failureEvent && scope.options.trapsInside)

/-- Traps that functions do not have. -/
def outerTraps (scope : Scope) : List (Nat × Octets) :=
  scope.traps.filter fun (n, _) =>
    (n == failureEvent && !scope.options.trapsInside) ||
      ((n == debugEvent || n == returnEvent) && !scope.options.isOn "functrace")

/-- The name under which a program is to run in the place of the shell, and its words. -/
def execName (dialect : Dialect) (args : List Octets) : Option Octets × List Octets :=
  match dialect, args with
  | .extended, ['-', 'a'] :: given :: rest => (some given, rest)
  | .extended, ['-', 'c'] :: rest | .extended, ['-', 'l'] :: rest | _, ['-', '-'] :: rest =>
    (none, rest)
  | _, rest => (none, rest)

/-- The numbered choices of a menu, in columns that are read downwards. -/
def menuText (items : List Octets) : Octets :=
  let count := items.length
  let digits (n : Nat) : Nat := (toString n).length
  let widest := (items.map (·.length)).foldl max 0 + digits count + 4
  let columns := max 1 (80 / widest)
  let rows := (count + columns - 1) / columns
  let columns := (count + rows - 1) / rows
  let (rows, columns) := if rows = 1 then (columns, 1) else (rows, columns)
  (List.range rows).flatMap fun row =>
    let cells := (List.range columns).filterMap fun column =>
      let place := row + column * rows
      items[place]?.map fun item =>
        let width := if column = 0 then digits rows else digits count
        let number := octets (toString (place + 1))
        let text := List.replicate (width - number.length) ' ' ++ number ++ octets ") " ++ item
        (column, text, decide (place + rows < count))
    (cells.flatMap fun (column, text, more) =>
      let offset := column * widest + text.length
      text ++ if more then indentation offset ((column + 1) * widest) 80 else []) ++ ['\n']
where
  /-- Tabs and blanks from one column to another. -/
  indentation (start goal : Nat) : (fuel : Nat) → Octets
    | 0 => []
    | fuel + 1 =>
      if goal ≤ start then []
      else if start / 8 < goal / 8 then '\t' :: indentation (start + 8 - start % 8) goal fuel
      else ' ' :: indentation (start + 1) goal fuel

/-- Tells how long something took. -/
def tellTime (portable : Bool) (took : Duration) : Eval Unit := do
  let thousandths := took.nanos / 1000000
  let fraction (n width : Nat) : String :=
    let digits := toString n
    "".pushn '0' (width - digits.length) ++ digits
  if portable then
    let text := toString (thousandths / 1000) ++ "." ++ fraction (thousandths % 1000 / 10) 2
    emit 2 (octets ("real " ++ text ++ "\nuser 0.00\nsys 0.00\n"))
  else
    let minutes := thousandths / 60000
    let text := toString minutes ++ "m" ++ toString (thousandths / 1000 % 60) ++ "." ++
      fraction (thousandths % 1000) 3 ++ "s"
    emit 2 (octets ("\nreal\t" ++ text ++ "\nuser\t0m0.000s\nsys\t0m0.000s\n"))

/-- Commands in the background that run longer than this are taken to have no end. -/
def jobHorizon : Duration := Duration.ofMillis 600000

/-! ## Loops -/

/-- A command that is to run in a subshell, which needs no other one. -/
def Node.unwrapped : Node → Node
  | .subshell body | .pipeline false [.subshell body] => body
  | node => node

/-- More rounds than there are commands to run. -/
def mostRounds : Nat := 10000000

/-- Runs rounds of a loop; each comes to what the next one begins with, if there is one. -/
def evalRounds {α : Type} (step : α → Eval (Option α)) : (rounds : Nat) → α → Eval Unit
  | 0, _ => runOut
  | rounds + 1, a => do
    match ← step a with
    | some next => evalRounds step rounds next
    | none => return

/-- Runs one round for each item, as long as the rounds ask for the next one. -/
def evalItems {α : Type} (step : α → Eval Bool) : List α → Eval Unit
  | [] => return
  | a :: rest => do
    if ← step a then evalItems step rest

/-- Whether a loop goes on behind its body. -/
def goesOn (body : Eval Unit) : Eval Bool := do
  match ← attempt body with
  | .ok () => return true
  | .error (.leave n) => if n ≤ 1 then return false else throw (.leave (n - 1))
  | .error (.again n) => if n ≤ 1 then return true else throw (.again (n - 1))
  | .error d => throw d

/-- The status of a truth. -/
def truthStatus (b : Bool) : Nat := if b then 0 else 1

mutual

/-- Runs a script that begins at a line. In messages, `reader` is what reads it. -/
def evalScript (fuel : Nat) (tested : Bool) (reader : Octets) (line : Nat) (source : Octets) :
    Eval Unit :=
  match fuel with
  | 0 => runOut
  | fuel + 1 => do
    let s ← get
    evalCommands fuel tested reader line source (.start s.scope.dialect line s.count source)

/-- Runs the commands from a place on. -/
def evalCommands (fuel : Nat) (tested : Bool) (reader : Octets) (line : Nat) (source : Octets)
    (cursor : Cursor) : Eval Unit :=
  match fuel with
  | 0 => runOut
  | fuel + 1 => do
    let s ← get
    let options := s.scope.options
    let aliases := if options.expandsAliases then s.scope.aliases else []
    let cursor := { cursor with count := s.count, groups := options.groups, aliases := aliases }
    match nextCommand cursor with
    | .error f => complainSyntax tested reader line source f
    | .ok (none, _) => return
    | .ok (some node, after) =>
      modify fun s => { s with
        count := after.count
        documents := after.documents ++ s.documents }
      warnUnended after.unended
      let read := cursor.rest.take (cursor.rest.length - after.rest.length)
      if s.scope.dialect = .extended && options.isOn "verbose" then
        emit 2 (if read.getLast? = some '\n' then read else read ++ ['\n'])
      if !options.isOn "noexec" then evalNode fuel tested node
      evalCommands fuel tested reader line source { after with documents := [], unended := [] }

/-- Runs a script in a copy of the shell and takes its output. -/
def capture (fuel : Nat) (line : Nat) (source : Octets) : Eval Octets :=
  match fuel with
  | 0 => runOut
  | fuel + 1 => do
    let buffer ← fresh
    let scope ← getScope
    let extended := scope.dialect = .extended
    evalCopy fuel (do
      modifyScope fun s =>
        let s := s.redirect 1 (.captured buffer)
        if extended then
          let stops := s.options.stopsOnFailure && s.options.isOn "inherit_errexit"
          { s with options := { s.options with stopsOnFailure := stops }, depth := s.depth + 1 }
        else s
      evalScript fuel false (octets "command substitution") (if extended then scope.line else line)
        source)
    modify fun s => { s with substituted := some s.scope.status }
    drain buffer

/-- Runs something in a copy of the shell. -/
def evalCopy (fuel : Nat) (body : Eval Unit) : Eval Unit :=
  match fuel with
  | 0 => runOut
  | fuel + 1 => do
    let saved ← getScope
    modifyScope fun s => { s with traps := keptTraps s, pending := [], jobs := [], self := 0 }
    let result ← attempt body
    let result ← farewell fuel result
    leaveCopy saved result
    receiveUntil (← get).clock

/-- Runs the commands in the background to which signals have come since they ran, or that have not
run yet. -/
def evalStale (fuel : Nat) : Eval Unit :=
  match fuel with
  | 0 => runOut
  | fuel + 1 => do
    match (← get).jobs.find? (·.stale) with
    | some job =>
      evalJob fuel job
      evalStale fuel
    | none => return

/-- Runs a command in the background from its start. What it has done before is taken back; where
the files have been changed since, they stay as they are. -/
def evalJob (fuel : Nat) (job : BackgroundJob) : Eval Unit :=
  match fuel with
  | 0 => runOut
  | fuel + 1 => do
    let s ← get
    let isOwn (owner : Nat) : Bool := job.process ≤ owner && owner < max job.next (job.process + 1)
    let same := s.files == job.after
    let signals : List Alarm := job.signals.map fun (time, signal) =>
      { time, signal, process := job.process, sender := s.owner }
    let kept : List Alarm := s.alarms.filter fun (a : Alarm) =>
      !isOwn a.sender && a.process != job.process
    set { s with
      scope := job.scope, clock := job.beganAt, owner := job.process
      limit := some (job.beganAt.add jobHorizon)
      files := if same then job.before else s.files
      outputs := s.outputs.filter fun o => !isOwn o.owner
      alarms := signals ++ kept
      jobs := { job with stale := false } ::
        s.jobs.filter fun (other : BackgroundJob) => !isOwn other.process }
    let result ← withHalf do
      let result ← attempt (evalNode fuel job.tested job.body)
      resume (← farewell fuel result)
    let t ← get
    let (endsAt, status) := match result with
      | .error .expired => (none, 0)
      | .error (.killed _ signal) => (some t.clock, 128 + signal)
      | _ => (some t.clock, t.scope.status)
    let done := { job with
      endsAt, status, next := t.count, stale := false
      after := if same then t.files else job.after }
    set { t with
      scope := s.scope, clock := s.clock, limit := s.limit, owner := s.owner
      files := if same then t.files else s.files
      alarms := t.alarms.filter fun (a : Alarm) => a.process != job.process
      jobs := t.jobs.map fun (other : BackgroundJob) =>
        if other.process = job.process then done else other }

/-- Runs what is to run when a shell ends. -/
def farewell (fuel : Nat) (result : Except Departure Unit) : Eval (Except Departure Unit) :=
  match fuel with
  | 0 => runOut
  | fuel + 1 => do
    let scope ← getScope
    let ends := match result with
      | .error (.killed _ _) | .error .expired => false
      | _ => true
    match scope.traps.find? fun (n, _) => n = 0 with
    | some (_, action) =>
      if !ends then return result
      modifyScope fun s => { s with traps := s.traps.filter fun (n, _) => n ≠ 0 }
      match ← attempt (evalScript fuel false (octets "exit trap") 1 action) with
      | .ok () =>
        setStatus scope.status
        return result
      | other => return other
    | none => return result

/-- Runs what is to run at a signal or an event; the status stays. -/
def evalTrap (fuel : Nat) (event : Nat) (reader : String) (line : Nat) : Eval Unit :=
  match fuel with
  | 0 => runOut
  | fuel + 1 => do
    let scope ← getScope
    match scope.traps.find? fun (k, _) => k == event with
    | some (_, action) =>
      modifyScope fun s => { s with inFailure := true }
      let result ← attempt (evalScript fuel false (octets reader) line action)
      modifyScope fun s => { s with inFailure := scope.inFailure }
      match result with
      | .ok () =>
        setStatus scope.status
        modifyScope fun s => { s with line := scope.line, command := scope.command }
      | .error d => throw d
    | none => return

/-- Runs what is to run at the signals that have come. -/
def evalPending (fuel : Nat) : Eval Unit :=
  match fuel with
  | 0 => runOut
  | fuel + 1 => do
    receiveUntil (← get).clock
    let scope ← getScope
    match scope.pending with
    | [] => return
    | n :: rest =>
      modifyScope fun s => { s with pending := rest }
      evalTrap fuel n "trap" 1
      evalPending fuel

/-- After a command: what is to run at its failure runs, and if nothing tests it a failure may end
the shell. -/
def finishCommand (fuel : Nat) (tested : Bool) : Eval Unit :=
  match fuel with
  | 0 => runOut
  | fuel + 1 => do
    let scope ← getScope
    if scope.status ≠ 0 && !tested then
      if !scope.inFailure && scope.traps.any fun (n, _) => n == failureEvent then
        evalTrap fuel failureEvent "error trap" scope.line
      if scope.options.stopsOnFailure then throw .exit

/-- The same for a command that is no pipeline. -/
def finishSingle (fuel : Nat) (tested : Bool) : Eval Unit :=
  match fuel with
  | 0 => runOut
  | fuel + 1 => do
    modifyScope fun s => { s with parts := [s.status] }
    finishCommand fuel tested

/-- Runs a command. -/
def evalNode (fuel : Nat) (tested : Bool) (node : Node) : Eval Unit :=
  match fuel with
  | 0 => runOut
  | fuel + 1 => do
    match node with
    | .simple line source assignments words redirects =>
      spend
      modifyScope fun s =>
        { s with line := line, command := if s.inFailure then s.command else source }
      let scope ← getScope
      if !scope.inFailure && scope.traps.any fun (n, _) => n == debugEvent then
        evalTrap fuel debugEvent "debug trap" line
      evalSimple fuel tested assignments words redirects
      restoreChannels scope []
      evalPending fuel
      finishSingle fuel tested
    | .redirected body redirects =>
      if !(← evalRedirected fuel redirects (evalNode fuel tested body)) then
        finishSingle fuel tested
    | .pipeline negated [only] =>
      evalNode fuel (tested || negated) only
      if negated then negateStatus
    | .pipeline negated parts =>
      let s ← get
      evalParts fuel (tested || negated) s.clock (s.scope.channel? 0) [] parts
      evalPending fuel
      if negated then negateStatus else finishCommand fuel tested
    | .both first second =>
      evalNode fuel true first
      if (← getScope).status = 0 then evalNode fuel tested second
    | .either first second =>
      evalNode fuel true first
      if (← getScope).status ≠ 0 then evalNode fuel tested second
    | .background body =>
      let process ← fresh
      let s ← get
      let scope := { s.scope.redirect 0 .nothing with
        self := process, traps := keptTraps s.scope, pending := [], jobs := [] }
      let job : BackgroundJob :=
        { process, body := body.unwrapped, tested, scope, before := s.files, after := s.files, beganAt := s.clock
          endsAt := none, status := 0, next := s.count, signals := [], stale := true }
      set { s with jobs := job :: s.jobs }
      evalStale fuel
      modifyScope fun t => { t with status := 0, parts := [0], jobs := t.jobs ++ [process] }
    | .sequence parts => evalSequence fuel tested parts
    | .subshell body =>
      evalCopy fuel (evalNode fuel tested body)
      evalPending fuel
      finishSingle fuel tested
    | .choice condition yes no =>
      evalNode fuel true condition
      if (← getScope).status = 0 then evalNode fuel tested yes
      else match no with
        | some no => evalNode fuel tested no
        | none => setStatus 0
    | .loop untilTrue condition body =>
      inLoop (evalLoop fuel tested untilTrue condition body)
    | .timed portable body =>
      let began := (← get).clock
      let result ← attempt (evalNode fuel tested body)
      let now := (← get).clock
      tellTime portable ⟨now.nanos - began.nanos⟩
      resume result
    | .each line chooses source name words body =>
      modifyScope fun s => { s with line := line }
      let items ← match words with
        | some words => expandFields (capture fuel) words
        | none => pure (← getScope).params
      setStatus 0
      if (← getScope).dialect = .extended && !isName (octets name) then
        complain (octets ("\x60" ++ name ++ "': not a valid identifier"))
        setStatus 1
        finishSingle fuel tested
      else
        let verb := if chooses then "select " else "for "
        let header := octets (verb ++ name ++ " in ") ++ source
        if chooses then
          traceExtended header
          if !items.isEmpty then
            emit 2 (menuText items)
            inLoop (evalMenu fuel tested name body items)
        else inLoop (evalEach fuel tested header name body items)
    | .counted line start condition step body =>
      modifyScope fun s => { s with line := line }
      match ← evalFormula fuel start with
      | some _ =>
        setStatus 0
        inLoop (evalCounted fuel tested line condition step body)
      | none => pure ()
    | .select line source word arms =>
      modifyScope fun s => { s with line := line }
      traceExtended (octets "case" ++ source ++ octets " in")
      let text ← expandText (capture fuel) word
      setStatus 0
      evalArms fuel tested false text arms
    | .function name body =>
      let cs := octets name
      if cs.any fun c => ['\x22', '\x27', '$', '\x60', '\\'].contains c then
        complain ('\x60' :: cs ++ octets "': not a valid identifier")
        setStatus 1
        finishSingle fuel tested
      else
        modifyScope fun s =>
          let file := s.frames.head?.getD (octets "environment")
          { s with functions := ⟨name, body, file⟩ :: s.functions.filter fun f => f.name != name }
        setStatus 0
    | .condition line c =>
      spend
      modifyScope fun s => { s with line := line }
      setStatus (← evalCondition fuel c)
      finishSingle fuel tested
    | .arithmetic line body =>
      spend
      modifyScope fun s => { s with line := line }
      match ← evalFormula fuel body with
      | some value => setStatus (truthStatus (value ≠ 0))
      | none => pure ()
      finishSingle fuel tested

/-- The value of a formula between brackets. -/
def evalFormula (fuel : Nat) (body : Word) : Eval (Option Int) :=
  match fuel with
  | 0 => runOut
  | fuel + 1 => do
    let text ← expandText (capture fuel) body
    let text := text.filter (· != '\x22')
    trace (octets "(( " ++ text ++ octets " ))")
    computeFor "((" text

/-- Runs commands one after the other. -/
def evalSequence (fuel : Nat) (tested : Bool) (parts : List Node) : Eval Unit :=
  match fuel with
  | 0 => runOut
  | fuel + 1 => do
    parts.forM (evalNode fuel tested)

/-- Runs the parts of a pipeline, each in a copy of the shell. All of them begin at one time, and
the pipeline is over when the last of them is. Of the parts that have run, the last one comes
first, with the input that its output has become. -/
def evalParts (fuel : Nat) (tested : Bool) (began : Duration) (input : Option Channel)
    (done : List (Nat × PartEnd)) (parts : List Node) : Eval Unit :=
  match fuel with
  | 0 => runOut
  | fuel + 1 => do
    match parts with
    | [] =>
      let s ← get
      let ended : List PartEnd := settlePipeline (done.map fun (slot, p) =>
        { p with
          unread := ((s.source? slot).map (·.rest.length)).getD 0
          ahead := ((s.source? slot).map (·.ahead)).getD 0 })
      let slots := done.map (·.1)
      set { s with
        clock := ⟨ended.foldl (fun n (p : PartEnd) => max n p.endsAt.nanos) began.nanos⟩
        sources := s.sources.filter fun i => !slots.contains i.slot }
      if ended.any (·.expired) then runOut
      let statuses := ended.map (·.status)
      let counts := s.scope.options.partsCount
      let failed := if counts then statuses.find? (· ≠ 0) else none
      setStatus (failed.getD (statuses.head?.getD 0))
      modifyScope fun s => { s with parts := statuses.reverse }
    | part :: rest =>
      let buffer ← fresh
      let saved ← getScope
      modify fun s => { s with clock := began }
      let isLast := rest.isEmpty
      let enter (s : Scope) : Scope :=
        let s := match input with
          | some channel => s.redirect 0 channel
          | none => s.close 0
        if isLast then s else s.redirect 1 (.captured buffer)
      let copied : Eval Unit := evalCopy fuel (do
        modifyScope enter
        evalNode fuel tested part)
      let result ←
        if isLast && saved.options.lastHere then do
          modifyScope enter
          let result ← attempt (evalNode fuel true part)
          restoreChannels saved [0]
          pure result
        else if isLast then attempt copied
        else withHalf copied
      let s ← get
      match result with
      | .error (.killed process signal) => throw (.killed process signal)
      | _ =>
        let writes := (s.written buffer).map fun o => (o.time, o.bytes.length)
        let slot ← fresh
        let output ← drain buffer
        modify fun s => { s with sources := ⟨slot, output, none, 0⟩ :: s.sources }
        let ended : PartEnd :=
          { status := s.scope.status, endsAt := s.clock, expired := result matches .error .expired
            writes, unread := 0, ahead := 0, gathers := part.gathers }
        evalParts fuel tested began (some (.source slot)) ((slot, ended) :: done) rest
        match result with
        | .ok () | .error .expired => return
        | .error d => throw d

/-- Runs a loop. It ends with the status of its last round. -/
def evalLoop (fuel : Nat) (tested untilTrue : Bool) (condition body : Node) : Eval Unit :=
  match fuel with
  | 0 => runOut
  | fuel + 1 =>
    evalRounds (fun status => do
      let result ← attempt (do
        evalNode fuel true condition
        if ((← getScope).status = 0) != untilTrue then
          evalNode fuel tested body
          return true
        else return false)
      let ended := (← getScope).status
      match result with
      | .ok true => return some ended
      | .ok false =>
        setStatus status
        return none
      | .error (.leave n) => if n ≤ 1 then return none else throw (.leave (n - 1))
      | .error (.again n) => if n ≤ 1 then return some ended else throw (.again (n - 1))
      | .error d => throw d) mostRounds 0

/-- Runs a loop that counts. -/
def evalCounted (fuel : Nat) (tested : Bool) (line : Nat) (condition step : Word) (body : Node) :
    Eval Unit :=
  match fuel with
  | 0 => runOut
  | fuel + 1 =>
    evalRounds (fun () => do
      let old := (← getScope).status
      modifyScope fun s => { s with line := line }
      match ← evalFormula fuel condition with
      | none => return none
      | some 0 =>
        setStatus old
        return none
      | some _ =>
        if ← goesOn (evalNode fuel tested body) then
          return (← evalFormula fuel step).map fun _ => ()
        else return none) mostRounds ()

/-- Runs a loop over items. -/
def evalEach (fuel : Nat) (tested : Bool) (source : Octets) (name : String) (body : Node)
    (items : List Octets) : Eval Unit :=
  match fuel with
  | 0 => runOut
  | fuel + 1 =>
    evalItems (fun item => do
      traceExtended source
      assignVariable name item
      goesOn (evalNode fuel tested body)) items

/-- Runs a loop over choices from a menu. -/
def evalMenu (fuel : Nat) (tested : Bool) (name : String) (body : Node) (items : List Octets) :
    Eval Unit :=
  match fuel with
  | 0 => runOut
  | fuel + 1 =>
    evalRounds (fun () => do
      emit 2 (((← getScope).value? "PS3").getD (octets "#? "))
      evalBuiltin fuel true "read" []
      let scope ← getScope
      let reply := (scope.value? "REPLY").getD []
      if scope.status ≠ 0 then
        emit 1 ['\n']
        setStatus 1
        return none
      else if reply.isEmpty then
        emit 2 (menuText items)
        return some ()
      else
        let chosen := (decimal? (trimBlank reply)).bind fun n =>
          if 1 ≤ n then items[n.toNat - 1]? else none
        assignVariable name (chosen.getD [])
        if !(← goesOn (evalNode fuel tested body)) then return none
        if ((← getScope).value? "REPLY").any (·.isEmpty) then emit 2 (menuText items)
        return some ()) mostRounds ()

/-- Runs the first arm one of whose patterns matches, or the first one at all if it `falls`. -/
def evalArms (fuel : Nat) (tested falls : Bool) (text : Octets)
    (arms : List (List Word × Node × ArmEnd)) : Eval Unit :=
  match fuel with
  | 0 => runOut
  | fuel + 1 => do
    match arms with
    | [] => return
    | (patterns, body, ending) :: rest =>
      if falls || (← matchesOne fuel text patterns) then
        evalNode fuel tested body
        match ending with
        | .stops => return
        | .fallsThrough => evalArms fuel tested true text rest
        | .looksOn => evalArms fuel tested false text rest
      else evalArms fuel tested false text rest

/-- One of the patterns matches a text. -/
def matchesOne (fuel : Nat) (text : Octets) (patterns : List Word) : Eval Bool :=
  match fuel with
  | 0 => runOut
  | fuel + 1 => do
    match patterns with
    | [] => return false
    | word :: rest =>
      let options := (← getScope).options
      let pattern ← expandPattern (capture fuel) options.groups word
      if pattern.matchesIn options.ignoresCase text then return true
      else matchesOne fuel text rest

/-- The status of a condition. -/
def evalCondition (fuel : Nat) (c : Condition) : Eval Nat :=
  match fuel with
  | 0 => runOut
  | fuel + 1 => do
    let shown (words : List Octets) : Eval Unit :=
      trace (octets "[[ " ++ Text.joinWith [' '] words ++ octets " ]]")
    match c with
    | .nonempty word =>
      let text ← expandText (capture fuel) word
      shown [['-', 'n'], text]
      return truthStatus !text.isEmpty
    | .unary op word =>
      let operand ← expandText (capture fuel) word
      shown [octets op, if operand.isEmpty then ['\x27', '\x27'] else operand]
      return truthStatus (unaryAnswer (← get).testFacts op operand)
    | .negated c =>
      let status ← evalCondition fuel c
      return if status = 0 then 1 else if status = 1 then 0 else status
    | .both a b =>
      let status ← evalCondition fuel a
      if status = 0 then evalCondition fuel b else return status
    | .either a b =>
      let status ← evalCondition fuel a
      if status = 0 then return 0 else evalCondition fuel b
    | .binary op left right =>
      let a ← expandText (capture fuel) left
      let marks ← expandMarks (capture fuel) right
      let b := marks.map (·.char)
      shown ([a, octets op, b].map fun w => if w.isEmpty then ['\x27', '\x27'] else w)
      match op with
      | "=" | "==" | "!=" =>
        let pattern := Pattern.ofMarked true marks
        let same := pattern.matchesIn (← getScope).options.ignoresCase a
        return truthStatus (same == (op != "!="))
      | "=~" => matchExpression marks a
      | "<" | ">" | "-nt" | "-ot" | "-ef" =>
        match binaryAnswer (← get).testFacts op a b with
        | .ok answer => return truthStatus answer
        | .error _ => return 1
      | _ =>
        match ← computeFor "[[" a with
        | none => return 1
        | some x =>
          match ← computeFor "[[" b with
          | none => return 1
          | some y =>
            match op with
            | "-eq" => return truthStatus (x = y)
            | "-ne" => return truthStatus (x ≠ y)
            | "-lt" => return truthStatus (x < y)
            | "-le" => return truthStatus (x ≤ y)
            | "-gt" => return truthStatus (x > y)
            | "-ge" => return truthStatus (x ≥ y)
            | _ => return 1

/-- Runs something with redirections; nothing runs if one of them fails, and the answer is false. -/
def evalRedirected (fuel : Nat) (redirects : List Redirect) (body : Eval Unit) : Eval Bool :=
  match fuel with
  | 0 => runOut
  | fuel + 1 => do
    if redirects.isEmpty then
      body
      return true
    let saved ← getScope
    if ← applyRedirects fuel redirects then
      let result ← attempt body
      restoreChannels saved (touched redirects)
      resume result
      return true
    else
      restoreChannels saved (touched redirects)
      return false

/-- Carries out redirections, up to the first one that fails. -/
def applyRedirects (fuel : Nat) (redirects : List Redirect) : Eval Bool :=
  match fuel with
  | 0 => runOut
  | fuel + 1 => do
    match redirects with
    | [] => return true
    | r :: rest =>
      let target ← match r.kind with
        | .document =>
          let word := ((← get).documents.find? fun (n, _) => n == r.number).map (·.2)
          pieceText <$> expandParts (capture fuel) (word.getD [])
        | .literal | .duplicate => expandText (capture fuel) r.target
        | _ =>
          match (← getScope).dialect with
          | .plain => expandText (capture fuel) r.target
          | .extended =>
            match ← expandFields (capture fuel) [r.target] with
            | [path] => pure path
            | _ => expandText (capture fuel) r.target
      if ← redirectTo r target then applyRedirects fuel rest else return false

/-- Assigns variables. -/
def evalAssignments (fuel : Nat) (assignments : List Assignment) : Eval Unit :=
  match fuel with
  | 0 => runOut
  | fuel + 1 => do
    match assignments with
    | [] => return
    | a :: rest =>
      assign (capture fuel) a
      let scope ← getScope
      if scope.options.traces then
        let sign := if a.appends then "+=" else "="
        let items := ((scope.binding? (scope.meant a.name)).map fun v => v.content.elements).getD []
        match a.value, a.index with
        | [.elements _ _ words], _ =>
          let own := (items.map (·.2)).drop (items.length - words.length)
          trace (octets (a.name ++ sign) ++ '(' :: tracedWords .extended own ++ [')'])
        | _, [] =>
          let value := (scope.value? (scope.meant a.name)).getD []
          let value := match scope.dialect with
            | .plain => value
            | .extended => barestValue value
          trace (octets (a.name ++ (if a.appends then "=" else sign)) ++ value)
        | value, _ => trace (octets (a.name ++ sign) ++ (← expandValue (capture fuel) value))
      evalAssignments fuel rest

/-- Runs something with variables that programs see meanwhile. -/
def evalAssigned (fuel : Nat) (assignments : List Assignment) (body : Eval Unit) :
    Eval Unit :=
  match fuel with
  | 0 => runOut
  | fuel + 1 => do
    if assignments.isEmpty then body
    else
      let scope ← getScope
      let old := assignments.map fun a => (a.name, scope.binding? a.name)
      evalAssignments fuel assignments
      assignments.forM fun a => modifyScope fun s => s.publish a.name
      modifyScope fun s => { s with passing := assignments.map (·.name) ++ s.passing }
      let result ← attempt body
      modifyScope fun s => { s with passing := scope.passing }
      restoreVariables old
      resume result

/-- Runs a simple command. -/
def evalSimple (fuel : Nat) (tested : Bool) (assignments : List Assignment)
    (words : List Word) (redirects : List Redirect) : Eval Unit :=
  match fuel with
  | 0 => runOut
  | fuel + 1 => do
    modify fun s => { s with substituted := none }
    let declares := match words.head?.bind plainText? with
      | some cs => declaringWords.contains (String.ofList cs)
      | none => false
    let fields ← if declares then expandArguments (capture fuel) words
      else expandFields (capture fuel) words
    modifyScope fun s => { s with lastWord := fields.getLast?.getD [] }
    match fields with
    | [] =>
      let _ ← evalRedirected fuel redirects (do
        let scope ← getScope
        if scope.dialect = .plain && scope.options.traces then
          let shown ← assignments.mapM fun a => do
            untraced (evalAssignments fuel [a])
            return octets a.name ++ '=' :: ((← getScope).value? a.name).getD []
          if !shown.isEmpty then trace (Text.joinWith [' '] shown)
        else evalAssignments fuel assignments
        setStatus ((← get).substituted.getD 0))
    | name :: args =>
      let scope ← getScope
      let text := plainString name
      let plain := scope.dialect = .plain
      if plain then
        if scope.options.traces && !assignments.isEmpty then
          let front ← assignments.mapM fun a => do
            return octets a.name ++ '=' :: (← expandValue (capture fuel) a.value)
          trace (tracedWords .plain (front ++ fields))
        else trace (tracedWords .plain fields)
      else trace (tracedWords .extended fields)
      let run (body : Eval Unit) : Eval Unit := do
        let _ ← evalRedirected fuel redirects (evalAssigned fuel assignments body)
      match scope.functions.find? fun f => f.name == text with
      | some f => run (callFunction fuel tested f args)
      | none =>
        if text = "exec" then
          if ← applyRedirects fuel redirects then
            setStatus 0
            if !args.isEmpty then
              evalAssigned fuel assignments (execProgram fuel args)
          else if plain then throw .exit
        else if isBuiltin scope.dialect text then
          let body := if declares && !plain then evalDeclaration fuel text args words
            else evalBuiltin fuel tested text args
          if isSpecial text && plain then
            untraced (evalAssignments fuel assignments)
            if !(← evalRedirected fuel redirects body) then throw .exit
          else run body
        else run (runProgram fuel name args)

/-- Declares variables, some of which are given elements. -/
def evalDeclaration (fuel : Nat) (name : String) (args : List Octets) (words : List Word) :
    Eval Unit :=
  match fuel with
  | 0 => runOut
  | fuel + 1 => do
    let listed := words.filterMap fun word => match word with
      | [.elements appends name items] => some (appends, plainString name, items)
      | _ => none
    let run (name : String) (args : List Octets) : Eval Unit :=
      match builtin? .extended name with
      | some run => runBuiltin name (run args)
      | none => setStatus 127
    if listed.isEmpty then run name args
    else
      let isOption (a : Octets) : Bool := a.head? == some '-' && a.length > 1
      let fixes := name == "readonly" || args.any fun a => isOption a && a.contains 'r'
      let own := args.map fun a => if isOption a then a.filter (· != 'r') else a
      let own := own.filter (· != ['-'])
      run (if name = "readonly" then "declare" else name) own
      listed.forM fun (appends, name, items) => assignItems (capture fuel) name appends items
      if fixes then
        listed.forM fun (_, name, _) => modifyScope fun s =>
          let name := s.meant name
          s.putVariable { s.bindingOrEmpty name with fixed := true }

/-- Calls a function. -/
def callFunction (fuel : Nat) (tested : Bool) (f : ShellFunction) (args : List Octets) :
    Eval Unit :=
  match fuel with
  | 0 => runOut
  | fuel + 1 => do
    let saved ← getScope
    let outer := outerTraps saved
    modifyScope fun s =>
      { s.withCallers (octets f.name :: s.callers) (f.file :: s.frames) with
        params := args, loops := 0, hidden := [] :: s.hidden
        traps := s.traps.filter fun (n, _) => !(outer.any fun (k, _) => k == n) }
    let result ← attempt (evalNode fuel tested f.body)
    match result with
    | .ok () | .error .back => evalTrap fuel returnEvent "return trap" (← getScope).line
    | _ => pure ()
    let frame := (← getScope).hidden.head?.getD []
    modifyScope fun s =>
      let missing := outer.filter fun (n, _) => !(s.traps.any fun (k, _) => k == n)
      { s.withCallers saved.callers saved.frames with
        params := saved.params, loops := saved.loops, hidden := saved.hidden
        traps := s.traps ++ missing }
    restoreVariables frame
    match result with
    | .ok () | .error .back => return
    | .error d => throw d

/-- Carries out a command that the shell knows itself. -/
def evalBuiltin (fuel : Nat) (tested : Bool) (name : String) (args : List Octets) : Eval Unit :=
  match fuel with
  | 0 => runOut
  | fuel + 1 => do
    let scope ← getScope
    match name with
    | "eval" =>
      setStatus 0
      modifyScope fun s => { s with source := some (octets "eval") }
      let line := if scope.dialect = .extended then scope.line else 1
      let result ← attempt (inDepth
        (evalScript fuel tested (octets "eval") line (Text.joinWith [' '] args)))
      modifyScope fun s => { s with source := scope.source, line := scope.line }
      resume result
    | "." | "source" =>
      match args with
      | [] =>
        if scope.dialect = .extended then
          complainAs name (octets "filename argument required")
          emit 2 (octets (name ++ ": usage: " ++ name ++ " filename [arguments]\n"))
          setStatus 2
      | path :: params => sourceFile fuel tested path params
    | "exec" => if args.isEmpty then setStatus 0 else execProgram fuel args
    | "builtin" =>
      match args with
      | [] => setStatus 0
      | word :: rest =>
        if isBuiltin scope.dialect (plainString word) then
          evalBuiltin fuel tested (plainString word) rest
        else
          complainAs "builtin" (word ++ octets ": not a shell builtin")
          setStatus 1
    | "type" => runBuiltin "type" (typeCommand args)
    | "command" =>
      let (options, words) := leadingOptions ['-'] args
      let letters := options.flatMap (·.2)
      match letters.find? fun c => !(['p', 'v', 'V'].contains c), words with
      | some c, _ =>
        fails "command" (2, octets "Illegal option -" ++ [c])
          (2, ['-', c] ++ octets
            ": invalid option\ncommand: usage: command [-pVv] command [arg ...]")
      | none, [] => setStatus 0
      | none, word :: rest =>
        if letters.contains 'V' then runBuiltin "command" (whichCommand true words)
        else if letters.contains 'v' then runBuiltin "command" (whichCommand false words)
        else if isBuiltin scope.dialect (plainString word) then
          evalBuiltin fuel tested (plainString word) rest
        else runProgram fuel word rest
    | _ =>
      match builtin? scope.dialect name with
      | some run =>
        runBuiltin name (run args)
        if name = "kill" then evalStale fuel
      | none => setStatus 127

/-- Runs the script in a file in the shell itself. -/
def sourceFile (fuel : Nat) (tested : Bool) (path : Octets) (params : List Octets) : Eval Unit :=
  match fuel with
  | 0 => runOut
  | fuel + 1 => do
    let s ← get
    let extended := s.scope.dialect = .extended
    let here := [path]
    let paths := if path.contains '/' then here
      else s.scope.candidates path ++ (if extended then here else [])
    let known := paths.findSome? fun p =>
      match s.files.read (s.scope.resolve p) with
      | .ok bytes => some (ofBytes bytes)
      | .error _ => none
    let found ← if (device? path).isSome then Except.toOption <$> readPath path else pure known
    match found with
    | some source =>
      let saved := s.scope
      let changes := extended && !params.isEmpty
      if changes then modifyScope fun s => { s with params := params }
      setStatus 0
      modifyScope fun s =>
        { s.withCallers (octets "source" :: s.callers) (path :: s.frames) with
          source := some path }
      let result ← attempt (inDepth (evalScript fuel tested path 1 source))
      modifyScope fun t =>
        { t.withCallers saved.callers saved.frames with source := saved.source, line := saved.line }
      if changes then modifyScope fun s => { s with params := saved.params }
      match result with
      | .ok () | .error .back => return
      | .error d => throw d
    | none =>
      let isDirectory := s.files.isDirectory (s.scope.resolve path)
      match s.scope.dialect with
      | .plain =>
        complainAs "." (if path.contains '/' then
            octets "cannot open " ++ path ++ octets ": No such file"
          else path ++ octets ": not found")
        setStatus 2
        throw .exit
      | .extended =>
        if isDirectory then complainAs "." (path ++ octets ": is a directory")
        else complain (path ++ octets ": No such file or directory")
        setStatus 1

/-- Puts a program in the place of the shell. -/
def execProgram (fuel : Nat) (args : List Octets) : Eval Unit :=
  match fuel with
  | 0 => runOut
  | fuel + 1 => do
    let s ← get
    let (given, args) := execName s.scope.dialect args
    match args with
    | [] => return
    | name :: rest =>
      match s.scope.program s.files name with
      | .unusable f =>
        complainAs "exec" (name ++ octets (match f, s.scope.dialect, name.contains '/' with
          | .missing, .extended, true => ": No such file or directory"
          | .missing, _, _ => ": not found"
          | .isDirectory, .plain, _ => ": Permission denied"
          | f, _, _ => ": " ++ f.text))
        setStatus (if f = .missing then 127 else 126)
        throw .exit
      | found =>
        modifyScope fun s => { s with traps := [] }
        runFound fuel found (given.getD name) rest
        throw .exit

/-- Runs a program. -/
def runProgram (fuel : Nat) (name : Octets) (args : List Octets) : Eval Unit :=
  match fuel with
  | 0 => runOut
  | fuel + 1 => do
    let s ← get
    runFound fuel (s.scope.program s.files name) name args

/-- Runs a program that has been looked up. -/
def runFound (fuel : Nat) (found : Program) (name : Octets) (args : List Octets) : Eval Unit :=
  match fuel with
  | 0 => runOut
  | fuel + 1 => do
    match found with
    | .unusable f => complainProgram name f
    | .tool path _ | .script path _ =>
      let saved ← getScope
      if !saved.ordered then modifyScope fun s => s.forProgram path
      let result ← attempt (runProper fuel found name args)
      modifyScope fun s => { s with vars := saved.vars, ordered := saved.ordered }
      resume result

/-- Runs a program in its surroundings. -/
def runProper (fuel : Nat) (found : Program) (name : Octets) (args : List Octets) : Eval Unit :=
  match fuel with
  | 0 => runOut
  | fuel + 1 => do
    match found with
    | .unusable f => complainProgram name f
    | .tool _ tool =>
      match tool? tool with
      | some t => runTool t name args
      | none => launch fuel tool name args
    | .script path bytes =>
      let s ← get
      match requested? bytes with
      | none => runShell fuel s.scope.dialect path (.file path) Options.none args
      | some (program, argument) =>
        match programAt s.files program (s.scope.resolve program) with
        | .tool whole tool =>
          runFound fuel (.tool whole tool) program (argument.toList ++ path :: args)
        | _ =>
          match s.scope.dialect with
          | .plain => complainProgram name .missing
          | .extended =>
            complain (name ++ octets ": cannot execute: required file not found")
            setStatus 127

/-- Runs a program that runs other programs. -/
def launch (fuel : Nat) (tool : String) (name : Octets) (args : List Octets) : Eval Unit :=
  match fuel with
  | 0 => runOut
  | fuel + 1 => do
    match tool with
    | "sh" | "dash" | "bash" =>
      let dialect : Dialect := if tool = "bash" then .extended else .plain
      if dialect = .extended && args.head? == some (octets "--version") then
        emit 1 (octets "GNU bash, version 5.2.15(1)-release (x86_64-pc-linux-gnu)\n")
        setStatus 0
      else match shellTask dialect Options.none false args with
        | .error f => complainTask dialect name f
        | .ok start =>
          runShell fuel dialect (start.name.getD name) start.task start.options start.params
    | "env" =>
      match envRequest name args with
      | .error message => failLaunch message 125
      | .ok r => runWithEnvironment fuel name r
    | "timeout" =>
      match limitRequest name args with
      | .error message => failLaunch message 125
      | .ok r => runLimited fuel name r
    | "xargs" =>
      match argsRequest name args with
      | .error message => failLaunch message 1
      | .ok r =>
        let input ← peekInput
        leaveInput []
        let s ← get
        let input := match r.file.map fun f => s.files.read (s.scope.resolve f) with
          | some (.ok bytes) => ofBytes bytes
          | _ => input
        match r.commands input with
        | .error mark =>
          emit 2 (name ++ octets (": unmatched " ++ (if mark == '\x22' then "double" else "single") ++
            " quote; by default quotes are special to xargs unless you use the -0 option\n"))
          setStatus 1
        | .ok commands =>
          let saved ← getScope
          modifyScope fun s => s.redirect 0 .nothing
          let result ← attempt (runEach fuel name r.shows 0 commands)
          restoreChannels saved [0]
          resume result
    | "sed" | "find" | "awk" | "mawk" =>
      let run : ProgramRunner := fun words =>
        runProgram fuel (words.head?.getD []) (words.drop 1)
      match tool with
      | "sed" => editProgram run name args
      | "find" => findProgram run name args
      | _ => Record.recordProgram run name args
    | "which" =>
      let s ← get
      let names := args.filter fun a => a.head? != some '-'
      let found := names.map fun n =>
        (s.scope.candidates n).filterMap fun path =>
          match programAt s.files path (s.scope.resolve path) with
          | .tool .. | .script .. => some path
          | .unusable _ => none
      let all := args.contains ['-', 'a']
      found.forM fun paths =>
        (if all then paths else paths.take 1).forM fun p => emit 1 (p ++ ['\n'])
      setStatus (if names.isEmpty || found.any (·.isEmpty) then 1 else 0)
    | _ =>
      match wrapSpec? tool with
      | none => setStatus 127
      | some spec =>
        match readLaunch spec.options name args with
        | .error message => failLaunch message spec.code
        | .ok o =>
          match o.rest with
          | [] =>
            if tool = "nice" then
              emit 1 (octets "0\n")
              setStatus 0
            else failLaunch (launchMessage name (octets "missing operand")) spec.code
          | program :: rest => runOrRefuse fuel name spec.complaint program rest

/-- Runs a program, or says why it cannot be run. -/
def runOrRefuse (fuel : Nat) (name : Octets) (complaint : Octets → Octets) (program : Octets)
    (args : List Octets) : Eval Unit :=
  match fuel with
  | 0 => runOut
  | fuel + 1 => do
    let s ← get
    match s.scope.program s.files program with
    | .unusable f =>
      emit 2 (name ++ [':', ' '] ++ complaint program ++ octets (": " ++ f.text ++ "\n"))
      setStatus (if f = .missing then 127 else 126)
    | found => runFound fuel found program args

/-- Writes a message and fails. -/
def failLaunch (message : Octets) (status : Nat) : Eval Unit := do
  emit 2 message
  setStatus status

/-- Runs a program for a limited time. -/
def runLimited (fuel : Nat) (name : Octets) (r : LimitRequest) : Eval Unit :=
  match fuel with
  | 0 => runOut
  | fuel + 1 => do
    let s ← get
    let own := s.clock.add r.limit
    let limited := r.limit.nanos > 0 && s.limit.all fun limit => own.nanos < limit.nanos
    if limited then modify fun s => { s with limit := some own }
    let saved ← getScope
    let result ← withHalf (runOrRefuse fuel name
      (fun n => octets "failed to run command \x27" ++ n ++ ['\x27'])
      (r.command.head?.getD []) (r.command.drop 1))
    modify fun t => { t with limit := s.limit }
    match result with
    | .error .expired =>
      if !limited then throw .expired
      modifyScope fun _ => saved
      if r.signal = 9 then
        if saved.dialect = .plain then emit 2 (octets "Killed\n")
        setStatus 137
      else setStatus (if r.keepsStatus then 128 + r.signal else 124)
    | result => resume result

/-- Runs commands one after the other; the status tells of those that failed. -/
def runEach (fuel : Nat) (name : Octets) (shows : Bool) (failed : Nat)
    (commands : List (List Octets)) : Eval Unit :=
  match fuel with
  | 0 => runOut
  | fuel + 1 => do
    match commands with
    | [] => setStatus failed
    | command :: rest =>
      if shows then emit 2 (Text.joinWith [' '] command ++ ['\n'])
      let program := command.head?.getD []
      let s ← get
      match s.scope.program s.files program with
      | .unusable f =>
        emit 2 (name ++ [':', ' '] ++ program ++ octets (": " ++ f.text ++ "\n"))
        setStatus (if f = .missing then 127 else 126)
      | found =>
        runFound fuel found program (command.drop 1)
        let status := (← getScope).status
        if status = 255 then
          emit 2 (name ++ [':', ' '] ++ program ++ octets ": exited with status 255; aborting\n")
          setStatus 124
        else runEach fuel name shows (if status = 0 then failed else 123) rest

/-- Runs a program in a changed environment, or shows that environment. -/
def runWithEnvironment (fuel : Nat) (name : Octets) (r : EnvRequest) : Eval Unit :=
  match fuel with
  | 0 => runOut
  | fuel + 1 => do
    let saved ← getScope
    let scope := r.apply saved
    match r.command with
    | [] =>
      let ending := if r.zeros then '\x00' else '\n'
      scope.environment.forM fun (k, v) => emit 1 (octets k ++ '=' :: v ++ [ending])
      setStatus 0
    | program :: rest =>
      let scope := if (scope.value? "PATH").isSome then scope
        else scope.assign "PATH" standardPath
      let scope := match r.directory with
        | some path => { scope with directory := scope.resolve path }
        | none => scope
      modifyScope fun _ => scope
      let result ← attempt
        (runOrRefuse fuel name (fun n => '\x27' :: n ++ ['\x27']) program rest)
      leaveCopy saved result

/-- Runs a shell of its own. -/
def runShell (fuel : Nat) (dialect : Dialect) (name : Octets) (task : ShellTask)
    (options : Options) (params : List Octets) : Eval Unit :=
  match fuel with
  | 0 => runOut
  | fuel + 1 => do
    let saved ← getScope
    let process ← fresh
    let scope := Scope.start dialect name process saved.directory saved.channels saved.environment
    let options := { options with expandsAliases := options.expandsAliases || dialect = .plain }
    let result ← runScope fuel { scope with options := options, params := params } task
    match result with
    | .error (.killed p signal) =>
      if p = process then
        modifyScope fun _ => { saved with status := 128 + signal }
        match saved.dialect, signalText signal with
        | .plain, some text => emit 2 (octets (text ++ "\n"))
        | _, _ => return
      else
        modifyScope fun _ => saved
        throw (.killed p signal)
    | _ => leaveCopy saved result

/-- Runs a task in the place of the shell, to the end of what is to run then. -/
def runScope (fuel : Nat) (scope : Scope) (task : ShellTask) : Eval (Except Departure Unit) :=
  match fuel with
  | 0 => runOut
  | fuel + 1 => do
    modifyScope fun _ => scope
    let result ← attempt (runTask fuel task)
    farewell fuel result

/-- Runs what a shell was asked to run. -/
def runTask (fuel : Nat) (task : ShellTask) : Eval Unit :=
  match fuel with
  | 0 => runOut
  | fuel + 1 => do
    match task with
    | .script source =>
      modifyScope fun s => { s with inline := true }
      evalScript fuel false (octets "-c") 1 source
    | .input =>
      let source ← peekInput
      leaveInput []
      evalScript fuel false (← getScope).name 1 source
    | .file path =>
      let s ← get
      match s.files.read (s.scope.resolve path) with
      | .ok bytes =>
        modifyScope fun s => s.withCallers [octets "main"] [path]
        evalScript fuel false path 1 (ofBytes bytes)
      | .error e =>
        match s.scope.dialect with
        | .plain =>
          let text := if e = .missing then "No such file" else e.text
          emit 2 (octets "sh: 0: cannot open " ++ path ++ octets (": " ++ text ++ "\n"))
          setStatus 2
        | .extended =>
          emit 2 (octets "bash: " ++ path ++ octets (": " ++ e.text ++ "\n"))
          setStatus (if e = .missing then 127 else 126)

end

end MatrixFlow.Script
