import MatrixFlow.Script.Channel
import MatrixFlow.Script.Start
import MatrixFlow.Script.Tool

/-!
# Programs that run other programs

What their arguments ask for. Running is left to the evaluator.

* `readLaunch`: options in front of a command.
* `EnvRequest`, `envRequest`: a changed environment.
* `ArgsRequest`, `argsRequest`: commands with arguments from the input.
* `LimitRequest`, `limitRequest`: a command with a limit of time.
* `runTool`: runs a tool in the surroundings of the shell.
-/

namespace MatrixFlow.Script

/-! ## Tools -/

/-- What is written to a channel gets somewhere. -/
def Channel.takesOutput : Channel → Bool
  | .source _ => false
  | _ => true

/-- What is written to the standard output gets somewhere. -/
def Scope.writes (scope : Scope) : Bool :=
  (scope.channel? 1).any (·.takesOutput)

/-- Runs a tool in the surroundings of the shell. -/
def runTool (tool : Tool) (name : Octets) (args : List Octets) : Eval Unit := do
  let s ← get
  let input ← peekInput
  let size := match s.scope.channel 0 with
    | .source slot => (s.source? slot).bind (·.size)
    | _ => none
  let call : ToolCall :=
    { name, args, input, inputSize := size, readable := s.readable
      directory := s.scope.directory, environment := s.scope.environment }
  let (status, done) := (tool.run call).run ⟨s.files, [], Duration.zero, none, 0⟩
  modify fun s => { s with files := done.files }
  done.left.forM fun cs => leaveIn 0 cs done.ahead
  done.writes.reverse.forM fun (descriptor, bytes) => emit descriptor bytes
  let lost := !s.scope.writes && done.writes.any fun (d, bytes) => d == 1 && !bytes.isEmpty
  if lost then
    let last := (name.reverse.takeWhile (· != '/')).reverse
    emit 2 (name ++ octets (if last == octets "cat" then ": standard output: Bad file descriptor\n"
      else ": write error: Bad file descriptor\n"))
  setStatus (if lost then 1 else status)
  passTime done.pause

/-! ## Options -/

/-- What is wrong, as a program says it. -/
def launchMessage (name message : Octets) : Octets :=
  name ++ [':', ' '] ++ message ++ octets "\nTry '" ++ name ++
    octets " \x2d\x2dhelp' for more information.\n"

/-- The options in front of a command and its words, or a message. -/
def readLaunch (spec : OptionSpec) (name : Octets) (args : List Octets) :
    Except Octets ToolOptions :=
  let o := ToolOptions.read { spec with mixes := false } none args
  match o.fault with
  | some f => .error (launchMessage name f.text)
  | none => .ok o

/-! ## Environments -/

/-- A command in a changed environment. -/
structure EnvRequest where
  /-- Nothing of the old environment stays. -/
  clears : Bool
  dropped : List String
  bindings : List (String × Octets)
  directory : Option Octets
  /-- Bindings are shown with a zero byte behind each. -/
  zeros : Bool
  command : List Octets

/-- Splits words at blanks; quotation marks keep them together. -/
def splitWords : (fuel : Nat) → (word : Option Octets) → Octets → List Octets
  | 0, word, _ => word.toList.map List.reverse
  | _, word, [] => word.toList.map List.reverse
  | fuel + 1, word, c :: r =>
    if c == ' ' || c == '\t' || c == '\n' then
      word.toList.map List.reverse ++ splitWords fuel none r
    else if c == '\x27' || c == '\x22' then
      let inner := r.takeWhile (· != c)
      splitWords fuel (some (inner.reverse ++ word.getD [])) (r.drop (inner.length + 1))
    else if c == '\\' then
      match r with
      | d :: r => splitWords fuel (some (d :: word.getD [])) r
      | [] => splitWords fuel (some (c :: word.getD [])) r
    else splitWords fuel (some (c :: word.getD [])) r

/-- Bindings in front of a command, and the command. -/
def takeBindings : List Octets → List (String × Octets) × List Octets
  | [] => ([], [])
  | word :: rest =>
    match splitBinding word with
    | (name, some value) =>
      let (bindings, command) := takeBindings rest
      ((plainString name, value) :: bindings, command)
    | _ => ([], word :: rest)

/-- The options of the program that changes environments. -/
def envOptions : OptionSpec :=
  ⟨"i0v", "uCS", "", [("ignore-environment", "i"), ("unset", "u"), ("chdir", "C"), ("null", "0"),
    ("split-string", "S"), ("debug", "v")], false, 125⟩

/-- What the arguments ask for. -/
def envRequest (name : Octets) (args : List Octets) : Except Octets EnvRequest := do
  let o ← readLaunch envOptions name args
  let clears := o.has 'i' || o.rest.head? == some ['-']
  let rest := if o.rest.head? == some ['-'] then o.rest.drop 1 else o.rest
  let rest := (o.values 'S').flatMap (fun cs => splitWords (cs.length + 1) none cs) ++ rest
  let (bindings, command) := takeBindings rest
  if o.has '0' && !command.isEmpty then
    throw (launchMessage name (octets "cannot specify \x2d\x2dnull (-0) with command"))
  return ⟨clears, (o.values 'u').map plainString, bindings, o.value? 'C', o.has '0', command⟩

/-- The scope that a request leads to. -/
def EnvRequest.apply (r : EnvRequest) (scope : Scope) : Scope :=
  let kept := if r.clears then [] else scope.vars.filter fun v =>
    v.exported && !r.dropped.contains v.name
  r.bindings.foldl (fun (s : Scope) (k, v) => s.putVariable (.shared k v))
    { scope with vars := kept }

/-! ## Arguments from the input -/

/-- How a command gets arguments from the input. -/
structure ArgsRequest where
  command : List Octets
  /-- What the item stands in for. -/
  mark : Option Octets
  /-- How many items a command gets at most. -/
  size : Option Nat
  /-- How many lines a command gets at most. -/
  lines : Option Nat
  /-- What items are separated by, if not by blanks. -/
  delimiter : Option Char
  /-- The item that ends the input. -/
  ending : Option Octets
  /-- Nothing runs without items. -/
  needsItems : Bool
  /-- Commands are shown. -/
  shows : Bool
  /-- A file in the place of the input. -/
  file : Option Octets

/-- The options of the program that takes arguments from the input. -/
def argsOptions : OptionSpec :=
  ⟨"0rtpxo", "nILdPsEa", "iel", [("max-args", "n"), ("replace", "i"), ("max-lines", "l"),
    ("delimiter", "d"), ("max-procs", "P"), ("max-chars", "s"), ("eof", "e"), ("arg-file", "a"),
    ("null", "0"), ("no-run-if-empty", "r"), ("verbose", "t"), ("interactive", "p"),
    ("exit", "x")], false, 1⟩

/-- What the arguments ask for. -/
def argsRequest (name : Octets) (args : List Octets) : Except Octets ArgsRequest := do
  let o ← readLaunch argsOptions name args
  let mark := (o.value? 'I').or ((o.value? 'i').map fun m => if m.isEmpty then ['\x7b', '\x7d'] else m)
  let delimiter := if o.has '0' then some '\x00' else (o.value? 'd').bind fun d =>
    (EscapeRules.toolEcho.apply d).1.head?
  let lines := ((o.value? 'L').or ((o.value? 'l').map fun n => if n.isEmpty then ['1'] else n)).bind
    natural?
  let size := (o.value? 'n').bind natural?
  match (o.value? 'n').filter fun n => (natural? n).all (· = 0) with
  | some n =>
    throw (name ++ octets ": " ++ (if (natural? n).isSome then
        octets "value " ++ n ++ octets " for -n option should be >= 1\n"
      else octets "invalid number \x22" ++ n ++ octets "\x22 for -n option\n"))
  | none => pure ()
  return ⟨if o.rest.isEmpty then [octets "echo"] else o.rest, mark, size, lines, delimiter,
    (o.value? 'E').or ((o.value? 'e').filter (! ·.isEmpty)), o.has 'r', o.has 't' || o.has 'p',
    o.value? 'a'⟩

/-- The items of a text, each with the number of its line; a quotation mark that is not closed is
an error. In `whole` lines, only line endings separate. -/
def quotedItems (whole : Bool) : (fuel : Nat) → (line : Nat) → (item : Option Octets) → Octets →
    Except Char (List (Nat × Octets))
  | 0, _, _, _ => .ok []
  | _, line, item, [] => .ok (item.toList.map fun cs => (line, cs.reverse))
  | fuel + 1, line, item, c :: r =>
    let own := item.toList.map fun cs => (line, cs.reverse)
    if c == '\n' then
      (quotedItems whole fuel (line + 1) none r).map (own ++ ·)
    else if c == ' ' || c == '\t' then
      if whole then
        match item with
        | none => quotedItems whole fuel line none r
        | some cs => quotedItems whole fuel line (some (c :: cs)) r
      else if r.head? == some '\n' then
        (quotedItems whole fuel line none (r.drop 1)).map (own ++ ·)
      else (quotedItems whole fuel line none r).map (own ++ ·)
    else if c == '\x27' || c == '\x22' then
      let inner := r.takeWhile fun d => d != c && d != '\n'
      match r.drop inner.length with
      | d :: rest =>
        if d == c then quotedItems whole fuel line (some (inner.reverse ++ item.getD [])) rest
        else .error c
      | [] => .error c
    else if c == '\\' then
      match r with
      | d :: r => quotedItems whole fuel line (some (d :: item.getD [])) r
      | [] => quotedItems whole fuel line item []
    else quotedItems whole fuel line (some (c :: item.getD [])) r

/-- Splits a list into parts of a size. -/
def chunks {α : Type} (size : Nat) : (fuel : Nat) → List α → List (List α)
  | 0, _ => []
  | fuel + 1, xs => if xs.isEmpty then [] else xs.take size :: chunks size fuel (xs.drop size)

/-- Items in groups of so many lines. -/
def lineGroups (lines : Nat) (items : List (Nat × Octets)) : List (List Octets) :=
  let numbers := (items.map (·.1)).eraseDups
  (chunks (max 1 lines) numbers.length numbers).map fun group =>
    (items.filter fun (n, _) => group.contains n).map (·.2)

/-- The commands that a request and a text come to, or the quotation mark that is not closed. -/
def ArgsRequest.commands (r : ArgsRequest) (input : Octets) :
    Except Char (List (List Octets)) := do
  let items ← match r.delimiter with
    | some d =>
      let pieces := Text.splitOn d input
      let pieces := if pieces.getLast? == some [] then pieces.dropLast else pieces
      pure (pieces.zipIdx.map fun (p, i) => (i, p))
    | none => quotedItems r.mark.isSome (input.length + 1) 0 none input
  let items := match r.ending with
    | some e => items.takeWhile fun (_, p) => p != e
    | none => items
  match r.mark with
  | some mark =>
    return items.map fun (_, item) => r.command.map fun w => replaceAll mark item (w.length + 1) w
  | none =>
    let groups := match r.lines, r.size with
      | some n, none => lineGroups n items
      | _, some n => chunks n items.length (items.map (·.2))
      | none, none => if items.isEmpty then [] else [items.map (·.2)]
    let groups := if groups.isEmpty && !r.needsItems then [[]] else groups
    return groups.map fun group => r.command ++ group
where
  /-- A word in which the item stands in for the mark. -/
  replaceAll (mark item : Octets) : (fuel : Nat) → Octets → Octets
    | 0, w => w
    | fuel + 1, w =>
      match Text.cut? mark w with
      | some (before, after) => before ++ item ++ replaceAll mark item fuel after
      | none => w

/-! ## Limits of time -/

/-- A command with a limit of time. -/
structure LimitRequest where
  limit : Duration
  signal : Nat
  /-- The status is that of the command. -/
  keepsStatus : Bool
  command : List Octets

/-- The options of the program that limits time. -/
def limitOptions : OptionSpec :=
  ⟨"v", "ks", "", [("kill-after", "k"), ("signal", "s"), ("preserve-status", "keep"),
    ("foreground", "fore"), ("verbose", "v")], false, 125⟩

/-- What the arguments ask for. -/
def limitRequest (name : Octets) (args : List Octets) : Except Octets LimitRequest := do
  let o ← readLaunch limitOptions name args
  let invalid (text : Octets) : Except Octets LimitRequest :=
    .error (launchMessage name (octets "invalid time interval \x27" ++ text ++ ['\x27']))
  let signal := match o.value? 's' with
    | some s => signal? .extended s
    | none => some 15
  match signal, o.rest with
  | none, _ =>
    throw (launchMessage name (((o.value? 's').getD []) ++ octets ": invalid signal"))
  | some signal, time :: program :: more =>
    match sleepTime? time with
    | some limit => return ⟨limit, signal, o.hasName "keep", program :: more⟩
    | none => invalid time
  | _, _ =>
    throw (octets "Try '" ++ name ++ octets " \x2d\x2dhelp' for more information.\n")

/-! ## Programs that change little -/

/-- How a program that only runs another one is asked: its options, and what it says of a command
that cannot be run. -/
structure WrapSpec where
  options : OptionSpec
  complaint : Octets → Octets
  code : Nat

/-- The programs that only run another one. -/
def wrapSpec? : String → Option WrapSpec
  | "nohup" => some ⟨.of "" "" [], fun n => octets "failed to run command \x27" ++ n ++ ['\x27'], 125⟩
  | "nice" => some ⟨.of "0123456789" "n" [("adjustment", "n")], fun n => '\x27' :: n ++ ['\x27'], 125⟩
  | "setsid" => some ⟨.of "cfw" "" [], fun n => octets "failed to execute " ++ n, 1⟩
  | "stdbuf" => some ⟨.of "" "ioe" [("input", "i"), ("output", "o"), ("error", "e")],
      fun n => octets "failed to run command \x27" ++ n ++ ['\x27'], 125⟩
  | _ => none

end MatrixFlow.Script
