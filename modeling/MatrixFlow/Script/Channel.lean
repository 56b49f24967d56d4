import MatrixFlow.Script.Fault

/-!
# Where descriptors lead

* `openInput`, `openOutput`: channels to files.
* `redirectTo`: carries out a redirection.
* `ProgramRunner`: runs a program with its arguments. Some programs read, write and run other
  programs as they go on.
* `captured`, `fed`: something with another output or input.
* `readPath`: the contents of a file or of the input.
-/

namespace MatrixFlow.Script

/-- The descriptor that a path stands for. -/
def device? (path : Octets) : Option Nat :=
  match plainString path with
  | "/dev/stdin" => some 0
  | "/dev/stdout" => some 1
  | "/dev/stderr" => some 2
  | s => (s.afterStart? "/dev/fd/").bind String.toNat?

/-- A file that is there may not be written over. -/
def isKept (scope : Scope) (files : FileTree) (path : Octets) : Bool :=
  scope.options.keepsFiles &&
    match files.get? (scope.resolve path) with
    | some (.file ..) => true
    | _ => false

/-- Opens a file for output. -/
def openOutput (path : Octets) (clears keeps : Bool) : Eval (Option Channel) := do
  let s ← get
  match device? path with
  | some n => return some (s.scope.channel n)
  | none => pure ()
  let parts := s.scope.resolve path
  if path.isEmpty then
    complainRedirect path false .missing
    return none
  else if keeps && isKept s.scope s.files path then
    match s.scope.dialect with
    | .plain => complainRedirect path false .present
    | .extended =>
      complain (path ++ octets ": cannot overwrite existing file")
      setStatus 1
    return none
  else
    match if clears then s.files.write parts [] else s.files.append parts [] with
    | .ok files =>
      set { s with files := files }
      return some (.file parts)
    | .error e =>
      complainRedirect path false e
      return none

/-- Opens a file for input. -/
def openInput (path : Octets) : Eval (Option Channel) := do
  let s ← get
  match device? path with
  | some n => return some (s.scope.channel n)
  | none => pure ()
  if path.isEmpty then
    complainRedirect path true .missing
    return none
  match s.files.read (s.scope.resolve path) with
  | .ok bytes =>
    let size := match s.files.get? (s.scope.resolve path) with
      | some (.file ..) => some bytes.length
      | _ => none
    return some (← newSource (ofBytes bytes) size)
  | .error .isDirectory => return some .nothing
  | .error e =>
    complainRedirect path true e
    return none

/-- Lets both outputs lead to a channel. -/
def redirectBoth (channel : Option Channel) : Eval Bool := do
  match channel with
  | some channel =>
    modifyScope fun s => (s.redirect 1 channel).redirect 2 channel
    return true
  | none => return false

/-- Lets a descriptor lead to where another one does. In the plain dialect, a message is lost if the
descriptor is the one for messages. -/
def duplicateTo (descriptor : Nat) (target : Octets) (n : Nat) : Eval Bool := do
  let scope ← getScope
  match scope.channel? n with
  | some channel =>
    modifyScope fun s => s.redirect descriptor channel
    return true
  | none =>
    let plain := scope.dialect = .plain
    if !(plain && descriptor = 2) then complain (target ++ octets ": Bad file descriptor")
    setStatus (if plain then 2 else 1)
    return false

/-- Fails at the number of a descriptor. -/
def badDescriptor : Eval Bool := do
  complain (octets "Syntax error: Bad fd number")
  setStatus 2
  throw .exit

/-- Lets both outputs lead to a file. The plain dialect knows no such thing. -/
def redirectByName (path : Octets) : Eval Bool := do
  match (← getScope).dialect with
  | .plain => badDescriptor
  | .extended => redirectBoth (← openOutput path true true)

/-- Carries out a redirection whose target has been expanded; false if that fails. -/
def redirectTo (r : Redirect) (target : Octets) : Eval Bool := do
  let put (channel : Option Channel) : Eval Bool := do
    match channel with
    | some channel =>
      modifyScope fun s => s.redirect r.descriptor channel
      return true
    | none => return false
  match r.kind with
  | .read => put (← openInput target)
  | .write => put (← openOutput target true true)
  | .overwrite => put (← openOutput target true false)
  | .append => put (← openOutput target false false)
  | .both appends => redirectBoth (← openOutput target (!appends) (!appends))
  | .document => put (some (← newSource target none))
  | .literal => put (some (← newSource (target ++ ['\n']) none))
  | .duplicate =>
    if target == ['-'] then
      modifyScope fun s => s.close r.descriptor
      return true
    else match natural? target, target.reverse with
      | some n, _ =>
        if (← getScope).dialect = .plain && n > 9 then badDescriptor
        else duplicateTo r.descriptor target n
      | none, '-' :: digits =>
        match natural? digits.reverse with
        | some n =>
          let done ← duplicateTo r.descriptor digits.reverse n
          if done then modifyScope fun s => s.close n
          return done
        | none => redirectByName target
      | none, _ => redirectByName target

/-! ## Programs in the surroundings of the shell -/

/-- Runs a program with its arguments. -/
abbrev ProgramRunner := List Octets → Eval Unit

/-- Runs a script in a shell. -/
def ProgramRunner.script (run : ProgramRunner) (source : Octets) : Eval Nat := do
  run [octets "sh", octets "-c", source]
  return (← getScope).status

/-- Does something with other channels. -/
def withChannels {α : Type} (change : Scope → Scope) (body : Eval α) : Eval α := do
  let saved := (← getScope).channels
  modifyScope change
  let result ← attempt body
  modifyScope fun s => { s with channels := saved }
  resume result

/-- Does something and takes what it writes to the standard output. -/
def captured {α : Type} (body : Eval α) : Eval (α × Octets) := do
  let buffer ← fresh
  let a ← withChannels (fun s => s.redirect 1 (.captured buffer)) body
  return (a, ← drain buffer)

/-- Does something with an input of its own. -/
def fed {α : Type} (input : Octets) (body : Eval α) : Eval α := do
  let channel ← newSource input none
  withChannels (fun s => s.redirect 0 channel) body

/-- The whole standard input. -/
def takeInput : Eval Octets := do
  let input ← peekInput
  leaveInput []
  return input

/-- The contents of a file; a dash is the input. -/
def readPath (path : Octets) : Eval (Except FileFault Octets) := do
  if path == ['-'] then return .ok (← takeInput)
  match device? path with
  | some 0 => return .ok (← takeInput)
  | some n => return .ok (← peekFrom n)
  | none =>
    let s ← get
    return (s.files.read (s.scope.resolve path)).map ofBytes

/-- Writes a file, or adds to it. -/
def writePath (path : Octets) (adds : Bool) (bytes : Octets) : Eval (Except FileFault Unit) := do
  match device? path with
  | some n =>
    emit n bytes
    return .ok ()
  | none =>
    let s ← get
    let parts := s.scope.resolve path
    match if adds then s.files.append parts (bytesOf bytes)
      else s.files.write parts (bytesOf bytes) with
    | .ok files =>
      set { s with files := files }
      return .ok ()
    | .error e => return .error e

/-- A message under the name of a program. -/
def warnAs (name text : Octets) : Eval Unit :=
  emit 2 (name ++ [':', ' '] ++ text ++ ['\n'])

end MatrixFlow.Script
