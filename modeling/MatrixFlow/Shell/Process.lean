import MatrixFlow.Run.Command
import MatrixFlow.Env
import MatrixFlow.Script.Evaluate

/-!
# Processes

* `ProcessCall`: a program to start, with all that it can see.
* `ProcessCall.run`: what it leaves behind, or why it cannot be started.
* `runCommand`: the same for a command line, as a collaborator tells it.
-/

namespace MatrixFlow

open Script

/-- A program to start, with all that it can see. -/
structure ProcessCall where
  program : String
  args : List String
  env : Env
  directory : String
  /-- When it is stopped. -/
  limit : Option Duration

/-- Why a process cannot be started. -/
inductive SpawnFault where
  | file (fault : FileFault)
  /-- A text cannot be passed on, because it holds a zero byte. -/
  | zeroByte
deriving DecidableEq, Repr

/-- The fault in words. -/
def SpawnFault.text : SpawnFault → String
  | file fault => fault.numberedText
  | zeroByte => "nul byte found in provided data"

/-- How a process ended. -/
inductive ProcessEnd where
  | exited (code : Nat)
  | signalled
  | expired
deriving DecidableEq, Repr

/-- What a process leaves behind. -/
structure ProcessResult where
  ending : ProcessEnd
  stdout : List UInt8
  stderr : List UInt8
  /-- The time that it took. -/
  time : Duration
  files : FileTree

/-- How long outputs stay open for what still runs in the background. -/
def outputGrace : Duration := Duration.ofMillis 250

/-- How deep the commands of scripts may stand within each other. -/
def scriptFuel : Nat := 20000

/-- More commands than scripts run that end. -/
def scriptWork : Nat := 300000

namespace ProcessCall

/-- The texts that the process is given. -/
def texts (call : ProcessCall) : List String :=
  call.program :: call.directory :: call.args ++ call.env.vars.flatMap fun (k, v) => [k, v]

/-- The directories of programs where the environment names none. -/
def standardPath : String := "/bin:/usr/bin"

/-- The paths at which the program may stand. -/
def candidates (call : ProcessCall) : List String :=
  if call.program.toList.contains '/' then [call.program]
  else if call.program.isEmpty then []
  else (((call.env.get? "PATH").getD standardPath).piecesBy ':').map fun directory =>
    if directory.isEmpty then call.program else directory ++ "/" ++ call.program

/-- The program among the files, from a directory on. -/
def find (call : ProcessCall) (files : FileTree) (directory : List String) :
    Except FileFault Script.Program :=
  let found := call.candidates.map fun path =>
    let parts := if Path.isAbsolute path then Path.parts path
      else Path.partsFrom directory.reverse (path.piecesBy '/')
    programAt files (octets path) parts
  let usable := found.find? fun p => match p with | .unusable _ => false | _ => true
  let denied := found.any fun p => match p with
    | .unusable .denied | .unusable .isDirectory => true
    | _ => false
  match usable with
  | some p => .ok p
  | none =>
    if denied then .error .denied
    else match found.getLast? with
      | some (.unusable f) => .error f
      | _ => .error .missing

/-- The surroundings in which the process starts. -/
def session (call : ProcessCall) (files : FileTree) (directory : List String) : Session :=
  let environment := call.env.vars.map fun (k, v) => (k, octets v)
  let channels := [(0, Channel.nothing), (1, .captured 1), (2, .captured 2)]
  let scope := Scope.start .plain (octets call.program) 3 directory channels environment
  { scope := { scope with vars := environment.map fun (k, v) => Variable.shared k v }
    files := files, outputs := [], sources := [], count := 4, clock := Duration.zero
    limit := call.limit, documents := [], substituted := none, jobs := [], alarms := []
    owner := 0, work := scriptWork }

/-- Runs a shell as the process itself. -/
def runShell (dialect : Dialect) (name : Octets) (args : List Octets) : Eval Unit := do
  let scope ← getScope
  match shellTask dialect Options.none false args with
  | .error f => complainTask dialect name f
  | .ok start =>
    let own := Scope.start dialect (start.name.getD name) scope.process scope.directory
      scope.channels scope.environment
    let options := { start.options with
      expandsAliases := start.options.expandsAliases || dialect = .plain }
    resume (← runScope scriptFuel { own with options := options, params := start.params }
      start.task)

/-- Runs a program of the system as the process itself. -/
def runSystemProgram (tool : String) (name : Octets) (args : List Octets) : Eval Unit :=
  match tool, tool? tool with
  | _, some t => runTool t name args
  | "bash", none => runShell .extended name args
  | "sh", none | "dash", none => runShell .plain name args
  | _, none => launch scriptFuel tool name args

/-- Runs a program as the process itself. -/
def runProcess (call : ProcessCall) (program : Script.Program) : Eval Unit := do
  let name := octets call.program
  let args := call.args.map octets
  match program with
  | .unusable f => complainProgram name f
  | .tool _ tool => runSystemProgram tool name args
  | .script path bytes =>
    match requested? bytes with
    | none => runShell .plain name (path :: args)
    | some (interpreter, argument) =>
      let s ← get
      match programAt s.files interpreter (s.scope.resolve interpreter) with
      | .tool _ tool => runSystemProgram tool interpreter (argument.toList ++ path :: args)
      | _ => setStatus 127

/-- Starts the process and waits for it. Its directory may be named from the directory `here`. -/
def run (call : ProcessCall) (files : FileTree) (here : List String) :
    Except SpawnFault ProcessResult := do
  if call.texts.any fun s => s.toList.contains '\x00' then throw .zeroByte
  let directory ← (files.follow here call.directory).mapError SpawnFault.file
  match files.find directory with
  | .error f => throw (.file f)
  | .ok .directory => pure ()
  | .ok _ => throw (.file .notDirectory)
  let program ← (call.find files directory).mapError SpawnFault.file
  let (ending, s) := match call.runProcess program (call.session files directory) with
    | .error (.killed _ _) s => (ProcessEnd.signalled, s)
    | .error .expired s => (.expired, s)
    | .ok _ s | .error _ s => (.exited (s.scope.status % 256), s)
  let kept (buffer : Nat) (latest : Duration) : List UInt8 :=
    bytesOf (((s.written buffer).filter fun o => o.time.nanos ≤ latest.nanos).flatMap (·.bytes))
  let first := s.clock.add outputGrace
  return ⟨ending, kept 1 first, kept 2 (first.add outputGrace), s.clock, s.files⟩

end ProcessCall

/-- The text of an output: one line feed at its end goes. -/
def outputText (bytes : List UInt8) : String :=
  let joined := dropReturns (Text.decodeLossy bytes)
  String.ofList (if joined.getLast? = some '\n' then joined.dropLast else joined)
where
  /-- A carriage return before a line feed goes. -/
  dropReturns : List Char → List Char
    | '\r' :: '\n' :: r => '\n' :: dropReturns r
    | c :: r => c :: dropReturns r
    | [] => []

/-- The output of a process; one that ran out of time says so. -/
def ProcessResult.output (r : ProcessResult) (limit : Option Duration) : CommandOutput :=
  let stdout := outputText r.stdout
  let stderr := outputText r.stderr
  match r.ending with
  | .exited code => ⟨some code, stdout, stderr, false⟩
  | .signalled => ⟨none, stdout, stderr, false⟩
  | .expired =>
    let note := "process timed out after " ++ (limit.getD Duration.zero).exactText
    ⟨none, stdout, if stderr.isEmpty then note else stderr ++ "\n" ++ note, true⟩

/-- The program of a command line and its arguments. The preferred shell stands in for the default
one. -/
def CommandLine.invocation (preferred : Shell) : CommandLine → String × List String
  | script shell body =>
    let shell := if shell = .default then preferred else shell
    (shell.invocation.1, shell.invocation.2 ++ [body])
  | program name args => (name, args)

/-- Runs a command line: the files and the time afterwards, and what a collaborator says. -/
def runCommand (preferred : Shell) (files : FileTree) (here : List String) (line : CommandLine)
    (env : Env) (directory : String) (limit : Option Duration) :
    FileTree × Duration × Except CollaboratorError CommandOutput :=
  let (program, args) := line.invocation preferred
  match (ProcessCall.mk program args env directory limit).run files here with
  | .error f =>
    let text := "failed to spawn '" ++ line.executable ++ "': " ++ f.text
    (files, Duration.zero, .error ⟨line.executable, text⟩)
  | .ok r => (r.files, r.time, .ok (r.output limit))

end MatrixFlow
