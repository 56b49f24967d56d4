import MatrixFlow.Files.Tree
import MatrixFlow.Number.Binary64
import MatrixFlow.Script.Cursor
import MatrixFlow.Script.Variable
import MatrixFlow.Time.Duration

/-!
# Sessions

* `Scope`: what belongs to one shell; a subshell has a copy of it.
* `Session`: a shell in its surroundings: files, outputs, inputs and the clock.
* `Departure`: why commands stop before their end.
* `Eval`: what a command does to a session.
-/

namespace MatrixFlow.Script

/-! ## Texts and bytes -/

/-- The bytes of a text, as characters. -/
def octets (s : String) : Octets :=
  (Text.encode s.toList).map fun b => Char.ofNat b.toNat

/-- The bytes that characters stand for. -/
def bytesOf (cs : Octets) : List UInt8 :=
  cs.map fun c => c.toNat.toUInt8

/-- Characters that stand for bytes. -/
def ofBytes (bytes : List UInt8) : Octets :=
  bytes.map fun b => Char.ofNat b.toNat

/-- The text of the bytes. -/
def plainString (cs : Octets) : String :=
  String.ofList (Text.decodeLossy (bytesOf cs))

/-! ## Scopes -/

/-- Where a descriptor leads. -/
inductive Channel where
  | nothing
  /-- To a buffer that is read later. -/
  | captured (buffer : Nat)
  /-- To the end of a file. -/
  | file (path : List String)
  /-- From what is left of an input. -/
  | source (slot : Nat)
deriving DecidableEq, Repr

/-- A function: its name, its body, and the file that defines it, as messages name it. -/
structure ShellFunction where
  name : String
  body : Node
  file : Octets

/-- What belongs to one shell. -/
structure Scope where
  dialect : Dialect
  /-- The name that it goes by. -/
  name : Octets
  /-- The command or file that it is reading commands for, if it was told to. -/
  source : Option Octets
  /-- The commands come from an argument. -/
  inline : Bool
  /-- The process that signals come to; a subshell gets none. -/
  self : Nat
  /-- The files of what is running, the innermost first. -/
  frames : List Octets
  /-- How deep scripts run within scripts. -/
  depth : Nat
  process : Nat
  vars : List Variable
  functions : List ShellFunction
  aliases : List (String × Octets)
  params : List Octets
  /-- How many loops are running. -/
  loops : Nat
  /-- What local variables hide, for each function that is running. -/
  hidden : List (List (String × Option Variable))
  /-- The functions that are running, the innermost first. -/
  callers : List Octets
  options : Options
  /-- How the last command ended. -/
  status : Nat
  /-- How the parts of the last pipeline ended. -/
  parts : List Nat
  directory : List String
  /-- The directories to go back to. -/
  directories : List (List String)
  channels : List (Nat × Channel)
  /-- The processes of the commands in the background. -/
  jobs : List Nat
  /-- Those that have been waited for. -/
  waited : List Nat
  /-- Those of which it has been told that they are over. -/
  told : List Nat
  /-- What runs at a signal, and at the end, which has the number zero. -/
  traps : List (Nat × Octets)
  /-- Signals that have come and wait for what runs at them. -/
  pending : List Nat
  /-- What runs at a failure is running. -/
  inFailure : Bool
  line : Nat
  /-- The command that is running, as it is written. -/
  command : Octets
  /-- The last word of the last command. -/
  lastWord : Octets
  /-- The rights that new files do not get. -/
  mask : Nat
  /-- How many letters of the current word of options have been read. -/
  lettersRead : Nat
  /-- Variables that stand in front of the command that is running. -/
  passing : List String
  /-- The variables are those of a program, in its order. -/
  ordered : Bool

/-- A command in the background. It runs ahead of the shell that starts it, and runs again from its
start when a signal comes to it. -/
structure BackgroundJob where
  process : Nat
  body : Node
  tested : Bool
  /-- The shell at the start, in a copy of its own. -/
  scope : Scope
  /-- The files at the start. -/
  before : FileTree
  /-- The files at the end. -/
  after : FileTree
  beganAt : Duration
  /-- When it is over, if it ever is. -/
  endsAt : Option Duration
  status : Nat
  /-- Numbers from here on were free when it had run. -/
  next : Nat
  /-- The signals that come to it, with their times. -/
  signals : List (Duration × Nat)
  /-- A signal has come since it ran. -/
  stale : Bool

/-- A signal that comes to a process at a time. -/
structure Alarm where
  time : Duration
  process : Nat
  signal : Nat
  /-- The command in the background that sends it, or zero. -/
  sender : Nat
deriving DecidableEq, Repr

/-- Bytes that were written to a buffer at a time. -/
structure Output where
  buffer : Nat
  time : Duration
  bytes : Octets
  /-- The command in the background that wrote them, or zero. -/
  owner : Nat
deriving Repr

/-- What is left of an input. -/
structure Source where
  slot : Nat
  rest : Octets
  /-- The size of the file, if the input is one. -/
  size : Option Nat
  /-- How much was read last without need. -/
  ahead : Nat
deriving Repr

/-- A shell in its surroundings. -/
structure Session where
  scope : Scope
  files : FileTree
  /-- What has been written, the last first. -/
  outputs : List Output
  /-- What is left of each input. -/
  sources : List Source
  /-- Numbers from here on are free for buffers, inputs, documents and processes. -/
  count : Nat
  clock : Duration
  /-- When everything is stopped. -/
  limit : Option Duration
  documents : List (Nat × Word)
  /-- How the last command in a word ended, if there was one. -/
  substituted : Option Nat
  jobs : List BackgroundJob
  alarms : List Alarm
  /-- The command in the background that is running, or zero. -/
  owner : Nat
  /-- How many more commands may run before all are taken to run without an end. -/
  work : Nat

/-- Why commands stop before their end. -/
inductive Departure where
  /-- The shell ends. -/
  | exit
  /-- The function ends. -/
  | back
  /-- So many loops end. -/
  | leave (loops : Nat)
  /-- The outermost of so many loops goes on with its next round. -/
  | again (loops : Nat)
  /-- A process is ended by a signal. -/
  | killed (process signal : Nat)
  /-- The time is over. -/
  | expired
deriving DecidableEq, Repr

/-- What a command does to a session. -/
abbrev Eval := EStateM Departure Session

/-- Runs a command to its end, whatever that is. -/
def attempt {α : Type} (m : Eval α) : Eval (Except Departure α) := fun s =>
  match m s with
  | .ok a s => .ok (.ok a) s
  | .error d s => .ok (.error d) s

/-- Goes on as a command ended. -/
def resume {α : Type} : Except Departure α → Eval α
  | .ok a => return a
  | .error d => throw d

/-! ## Reading and changing a scope -/

/-- The scope of the shell. -/
def getScope : Eval Scope := do
  return (← get).scope

/-- Changes the scope. -/
def modifyScope (f : Scope → Scope) : Eval Unit :=
  modify fun s => { s with scope := f s.scope }

/-- How the last command ended. -/
def setStatus (status : Nat) : Eval Unit :=
  modifyScope fun scope => { scope with status := status }

/-- A number that has not been used. -/
def fresh : Eval Nat := do
  let s ← get
  set { s with count := s.count + 1 }
  return s.count

namespace Scope

/-- The statuses of the last pipeline, as a variable. -/
def partsVariable (scope : Scope) : Variable :=
  let items := scope.parts.zipIdx.map fun (n, i) => (i, octets (toString n))
  { Variable.empty "PIPESTATUS" with content := .numbered items }

/-- A variable by its name. -/
def binding? (scope : Scope) (name : String) : Option Variable :=
  match scope.vars.find? fun v => v.name == name with
  | some v => some v
  | none =>
    if name = "PIPESTATUS" && scope.dialect = .extended then some scope.partsVariable else none

/-- The text of a variable. -/
def value? (scope : Scope) (name : String) : Option Octets :=
  (scope.binding? name).bind (·.value)

/-- Puts a variable in the place of the one of the same name. -/
def putVariable (scope : Scope) (v : Variable) : Scope :=
  if (scope.binding? v.name).isSome then
    { scope with vars := scope.vars.map fun w => if w.name == v.name then v else w }
  else { scope with vars := scope.vars ++ [v] }

/-- Takes a variable away. -/
def dropVariable (scope : Scope) (name : String) : Scope :=
  { scope with vars := scope.vars.filter fun v => v.name != name }

/-- The variable of a name, or one that holds nothing yet. -/
def bindingOrEmpty (scope : Scope) (name : String) : Variable :=
  (scope.binding? name).getD (.empty name)

/-- Gives a variable a value. -/
def assign (scope : Scope) (name : String) (value : Octets) : Scope :=
  scope.putVariable ((scope.bindingOrEmpty name).withText value)

/-- Gives a variable numbered elements. -/
def assignList (scope : Scope) (name : String) (values : List Octets) : Scope :=
  let items := values.zipIdx.map fun (v, i) => (i, v)
  scope.putVariable { scope.bindingOrEmpty name with content := .numbered items }

/-- Programs see a variable from now on. -/
def publish (scope : Scope) (name : String) : Scope :=
  scope.putVariable { scope.bindingOrEmpty name with exported := true }

/-- The variables that programs see, in their order. A program keeps the order that it is given; a
shell goes by the slots of the names. In the plain dialect older variables of a slot come first, in
the other one newer ones, and those in front of the command come before all others. -/
def environment (scope : Scope) : List (String × Octets) :=
  let seen := scope.vars.filterMap fun v =>
    match v.content with
    | .text cs => if v.exported then some (v.name, cs) else none
    | _ => none
  let bySlots (slot : Octets → Nat) (items : List (String × Octets)) : List (String × Octets) :=
    items.mergeSort fun a b => slot (octets a.1) ≤ slot (octets b.1)
  if scope.ordered then seen
  else match scope.dialect with
    | .plain =>
      let (first, rest) := seen.partition fun (name, _) => name == "PATH"
      bySlots plainSlot (first ++ rest)
    | .extended =>
      let (own, rest) := seen.reverse.partition fun (name, _) => scope.passing.contains name
      bySlots (fun cs => nameSlot cs % 4) own ++ bySlots nameSlot rest

/-- The surroundings of a program at a path, as the shell gives them to it. -/
def forProgram (scope : Scope) (path : Octets) : Scope :=
  let given := scope.environment
  let given := match scope.dialect with
    | .plain => given
    | .extended =>
      if given.any fun (name, _) => name == "_" then
        given.map fun (name, v) => (name, if name == "_" then path else v)
      else given ++ [("_", path)]
  { scope with vars := given.map fun (name, v) => Variable.shared name v, ordered := true }

/-- Where a descriptor leads, if it is open. -/
def channel? (scope : Scope) (descriptor : Nat) : Option Channel :=
  (scope.channels.find? fun (d, _) => d == descriptor).map (·.2)

/-- Where a descriptor leads; a closed one leads nowhere. -/
def channel (scope : Scope) (descriptor : Nat) : Channel :=
  (scope.channel? descriptor).getD .nothing

/-- Closes a descriptor. -/
def close (scope : Scope) (descriptor : Nat) : Scope :=
  { scope with channels := scope.channels.filter fun (d, _) => d != descriptor }

/-- Lets a descriptor lead somewhere else. -/
def redirect (scope : Scope) (descriptor : Nat) (channel : Channel) : Scope :=
  { scope with
    channels := (descriptor, channel) :: scope.channels.filter fun (d, _) => d != descriptor }

end Scope

/-! ## Output and input -/

/-- Writes to a descriptor. -/
def emit (descriptor : Nat) (bytes : Octets) : Eval Unit :=
  modify fun s =>
    match s.scope.channel descriptor with
    | .captured buffer =>
      if bytes.isEmpty then s else { s with outputs := ⟨buffer, s.clock, bytes, s.owner⟩ :: s.outputs }
    | .file path =>
      match s.files.append path (bytesOf bytes) with
      | .ok files => { s with files := files }
      | .error _ => s
    | _ => s

/-- What the shell goes by in messages: the file of what is running, or its name. -/
def Scope.speakerName (scope : Scope) : Octets :=
  match scope.dialect with
  | .plain => scope.name
  | .extended => scope.frames.head?.getD scope.name

/-- The shell in front of the messages of its commands. -/
def Scope.speaker (scope : Scope) (line : Nat) : Octets :=
  let before := match scope.dialect with
    | .plain => ": "
    | .extended => ": line "
  scope.speakerName ++ octets (before ++ toString line ++ ": ")

/-- The shell in front of its own messages, with the file that it is reading. -/
def Scope.reader (scope : Scope) (line : Nat) : Octets :=
  match scope.dialect, scope.source with
  | .plain, some file => scope.speaker line ++ file ++ [':', ' ']
  | _, _ => scope.speaker line

/-- A message of the shell. -/
def complain (text : Octets) : Eval Unit := do
  let scope ← getScope
  emit 2 (scope.reader scope.line ++ text ++ ['\n'])

/-- A message under the name of a command. -/
def complainAs (name : String) (text : Octets) : Eval Unit := do
  let scope ← getScope
  emit 2 (scope.speaker scope.line ++ octets (name ++ ": ") ++ text ++ ['\n'])

/-- What has been written to a buffer, in order of time. -/
def Session.written (s : Session) (buffer : Nat) : List Output :=
  (s.outputs.reverse.filter fun o => o.buffer == buffer).mergeSort fun a b =>
    a.time.nanos ≤ b.time.nanos

/-- Takes away what has been written to a buffer. -/
def drain (buffer : Nat) : Eval Octets := do
  let s ← get
  set { s with outputs := s.outputs.filter fun o => o.buffer != buffer }
  return (s.written buffer).flatMap (·.bytes)

/-- An input by its slot. -/
def Session.source? (s : Session) (slot : Nat) : Option Source :=
  s.sources.find? fun i => i.slot == slot

/-- A new input. -/
def newSource (cs : Octets) (size : Option Nat) : Eval Channel := do
  let slot ← fresh
  modify fun s => { s with sources := ⟨slot, cs, size, 0⟩ :: s.sources }
  return .source slot

/-- What can be read from a descriptor. -/
def Session.readable (s : Session) (descriptor : Nat) : Octets :=
  match s.scope.channel descriptor with
  | .source slot => ((s.source? slot).map (·.rest)).getD []
  | _ => []

/-- What is left of an input. -/
def peekFrom (descriptor : Nat) : Eval Octets := do
  return (← get).readable descriptor

/-- Leaves so much of an input, of which so much was read without need. -/
def leaveIn (descriptor : Nat) (cs : Octets) (ahead : Nat) : Eval Unit := do
  match (← getScope).channel descriptor with
  | .source slot =>
    modify fun s => { s with sources := s.sources.map fun i =>
      if i.slot == slot then { i with rest := cs, ahead := ahead } else i }
  | _ => return

/-- What is left of the standard input. -/
def peekInput : Eval Octets := peekFrom 0

/-- Leaves so much of the standard input. -/
def leaveInput (cs : Octets) : Eval Unit := leaveIn 0 cs 0

/-- Leaves what lies behind the next block of the standard input, of which only so much was
needed. -/
def leaveBlocks (input : Octets) (used block : Nat) : Eval Unit :=
  let read := min input.length (roundedUp used block)
  leaveIn 0 (input.drop read) (read - used)

/-! ## Paths -/

/-- The names on the way to a path from the directory of the shell. -/
def Scope.resolve (scope : Scope) (path : Octets) : List String :=
  let text := plainString path
  if Path.isAbsolute text then Path.parts text
  else Path.partsFrom scope.directory.reverse (text.piecesBy '/')

/-- A directory as a path. -/
def pathText (parts : List String) : Octets :=
  octets ("/" ++ "/".intercalate parts)

end MatrixFlow.Script
