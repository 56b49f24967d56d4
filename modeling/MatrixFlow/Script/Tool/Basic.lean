import MatrixFlow.Script.Escape
import MatrixFlow.Script.Session

/-!
# Tools

A tool is a program of the system. It reads its whole input, writes, and can change files.

* `ToolCall`: how a tool is started.
* `ToolState`: the files, and what has been written.
* `Tool`: what a tool does; it comes to the exit code.
-/

namespace MatrixFlow.Script

/-- How many bytes of a stream without an end there are before nobody reads it any more. -/
def streamSize : Nat := 400000

/-- How a tool is started. -/
structure ToolCall where
  name : Octets
  args : List Octets
  input : Octets
  /-- The size of the file that the input is, if it is one. -/
  inputSize : Option Nat
  /-- What can be read from other descriptors. -/
  readable : Nat → Octets
  directory : List String
  environment : List (String × Octets)

/-- The files, and what a tool has written so far. -/
structure ToolState where
  files : FileTree
  /-- Descriptors with bytes, the last first. -/
  writes : List (Nat × Octets)
  /-- The time that the tool takes. -/
  pause : Duration
  /-- What is left of the input, once something of it has been read. -/
  left : Option Octets
  /-- How much of the input was read without need. -/
  ahead : Nat

/-- A part of what a tool does. -/
abbrev ToolM := ReaderT ToolCall (StateM ToolState)

/-- What a tool does; it comes to the exit code. -/
abbrev Tool := ToolM Nat

namespace ToolM

/-- Writes to the standard output. -/
def say (cs : Octets) : ToolM Unit :=
  modify fun s => { s with writes := (1, cs) :: s.writes }

/-- Writes a line to the standard output. -/
def sayLine (cs : Octets) : ToolM Unit :=
  say (cs ++ ['\n'])

/-- Writes a message under the name of the tool. -/
def warn (text : Octets) : ToolM Unit := do
  let name := (← read).name
  modify fun s => { s with writes := (2, name ++ [':', ' '] ++ text ++ ['\n']) :: s.writes }

/-- The names on the way to a path. -/
def resolve (path : Octets) : ToolM (List String) := do
  let text := plainString path
  if Path.isAbsolute text then return Path.parts text
  else return Path.partsFrom (← read).directory.reverse (text.piecesBy '/')

/-- The whole input, or what is left of it. -/
def standardInput : ToolM Octets := do
  let s ← get
  set { s with left := some [], ahead := 0 }
  return s.left.getD (← read).input

/-- The path stands for the input. -/
def isInputPath (path : Octets) : Bool :=
  path == ['-'] || path == octets "/dev/stdin" || path == octets "/dev/fd/0"

/-- Of a text that was read from a path, only so many bytes were used. If it is the input, the rest
of it stays there: in a file exactly, otherwise from the next block on. -/
def leaveBehind (path text : Octets) (used block : Nat) : ToolM Unit := do
  if isInputPath path then
    let isFile := (← read).inputSize.isSome
    let taken := min text.length (if isFile then used else roundedUp used block)
    modify fun s => { s with left := some (text.drop taken), ahead := taken - used }

/-- The contents of a file; a dash is the input. -/
def contents (path : Octets) : ToolM (Except FileFault Octets) := do
  if isInputPath path then return .ok (← standardInput)
  match Text.stripStart? (octets "/dev/fd/") path with
  | some digits =>
    match (String.ofList digits).toNat? with
    | some n => return .ok ((← read).readable n)
    | none => return .error .missing
  | none => return ((← get).files.read (← resolve path)).map ofBytes

/-- The contents of files, or the input if there are none. Those that cannot be read are named in
a message, and count. -/
def inputs (paths : List Octets) (message : Octets → FileFault → Octets) :
    ToolM (List (Octets × Octets) × Nat) := do
  let paths := if paths.isEmpty then [['-']] else paths
  let found ← paths.mapM fun path => do
    match ← contents path with
    | .ok cs => return some (path, cs)
    | .error e =>
      warn (message path e)
      return none
  return (found.filterMap id, (found.filter Option.isNone).length)

/-- Does something with the contents of each file, or of the input if there are none. Those that
cannot be read are named in a message; the answer is how many that are. -/
def forInputs (paths : List Octets) (message : Octets → FileFault → Octets)
    (act : Octets → Octets → ToolM Unit) : ToolM Nat := do
  let paths := if paths.isEmpty then [['-']] else paths
  let lost ← paths.mapM fun path => do
    match ← contents path with
    | .ok cs =>
      act path cs
      return 0
    | .error e =>
      warn (message path e)
      return 1
  return total lost

/-- The usual message about a file. -/
def fileMessage (path : Octets) (e : FileFault) : Octets :=
  path ++ [':', ' '] ++ octets e.text

/-- A message about a file that cannot be opened. -/
def openMessage (path : Octets) (e : FileFault) : Octets :=
  octets "cannot open \x27" ++ path ++ octets "\x27 for reading: " ++ octets e.text

end ToolM

/-! ## Options -/

/-- The options that a tool knows. -/
structure OptionSpec where
  /-- Letters. -/
  flags : String
  /-- Letters that take the rest of their word or the next word. -/
  valued : String
  /-- Letters that take the rest of their word, if there is one. -/
  optional : String
  /-- Long names, each with the letter that it stands for, or with a name of its own. Such a name
  ends in an equals sign if the option takes a value. -/
  long : List (String × String)
  /-- Options may stand behind other arguments. -/
  mixes : Bool
  /-- The exit code where options are wrong. -/
  code : Nat

/-- Options that are letters and long names for them. -/
def OptionSpec.of (flags valued : String) (long : List (String × String)) : OptionSpec :=
  ⟨flags, valued, "", long, true, 1⟩

/-- An option with this letter or name takes a value. -/
def OptionSpec.takesValue (spec : OptionSpec) (name : String) : Bool :=
  match name.toList with
  | [c] => spec.valued.toList.contains c
  | _ => name.endsWith "="

/-- What is wrong with options. -/
inductive OptionFault where
  | unknownLetter (c : Char)
  | unknownName (name : Octets)
  | ambiguous (name : Octets) (options : List String)
  | letterNeedsValue (c : Char)
  | nameNeedsValue (name : String)
  | takesNoValue (name : String)
deriving DecidableEq, Repr

/-- The fault in words. -/
def OptionFault.text : OptionFault → Octets
  | unknownLetter c => octets "invalid option -- '" ++ [c, '\x27']
  | unknownName name => octets "unrecognized option '\x2d\x2d" ++ name ++ ['\x27']
  | ambiguous name options =>
    octets "option '\x2d\x2d" ++ name ++ octets "' is ambiguous; possibilities:" ++
      options.flatMap fun o => octets (" '\x2d\x2d" ++ o ++ "'")
  | letterNeedsValue c => octets "option requires an argument -- '" ++ [c, '\x27']
  | nameNeedsValue name => octets ("option '\x2d\x2d" ++ name ++ "' requires an argument")
  | takesNoValue name => octets ("option '\x2d\x2d" ++ name ++ "' doesn't allow an argument")

/-- The options that were given, by their letters or names, and the other arguments. -/
structure ToolOptions where
  given : List (String × Octets)
  rest : List Octets
  fault : Option OptionFault

namespace ToolOptions

/-- The option is on. -/
def has (o : ToolOptions) (c : Char) : Bool :=
  o.given.any fun (k, _) => k == c.toString

/-- The option with a name is on. -/
def hasName (o : ToolOptions) (name : String) : Bool :=
  o.given.any fun (k, _) => k == name

/-- The last value of an option. -/
def value? (o : ToolOptions) (c : Char) : Option Octets :=
  (o.given.reverse.find? fun (k, _) => k == c.toString).map (·.2)

/-- The last value of an option with a name. -/
def valueOf? (o : ToolOptions) (name : String) : Option Octets :=
  (o.given.reverse.find? fun (k, _) => k == name).map (·.2)

/-- All values of an option. -/
def values (o : ToolOptions) (c : Char) : List Octets :=
  (o.given.filter fun (k, _) => k == c.toString).map (·.2)

/-- The last one of some letters that was given. -/
def last? (o : ToolOptions) (letters : List Char) : Option Char :=
  o.given.reverse.findSome? fun (k, _) => letters.find? fun c => c.toString == k

/-- Puts options in front. -/
def add (options : List (String × Octets)) (o : ToolOptions) : ToolOptions :=
  { o with given := options ++ o.given }

/-- Only a fault. -/
def faulty (f : OptionFault) : ToolOptions := ⟨[], [], some f⟩

/-- Reads the letters of one word; the last one may need the next word. -/
def readLetters (spec : OptionSpec) :
    Octets → Except OptionFault (List (String × Octets) × Option Char)
  | [] => .ok ([], none)
  | c :: r =>
    if spec.valued.toList.contains c then
      if r.isEmpty then .ok ([], some c) else .ok ([(c.toString, r)], none)
    else if spec.optional.toList.contains c then .ok ([(c.toString, r)], none)
    else if spec.flags.toList.contains c then
      (readLetters spec r).map fun (options, lacking) => ((c.toString, []) :: options, lacking)
    else .error (.unknownLetter c)

/-- The long option that a name or its beginning stands for. -/
def longOption (spec : OptionSpec) (name : Octets) : Except OptionFault (String × String) :=
  let text := plainString name
  match spec.long.find? fun (k, _) => k == text with
  | some found => .ok found
  | none =>
    let found := spec.long.filter fun (k, _) => k.startsWith text
    match found with
    | [] => .error (.unknownName name)
    | first :: more =>
      if more.all fun (_, v) => v == first.2 then .ok first
      else .error (.ambiguous name (found.map (·.1)))

/-- Reads options; `pending` is one that takes the next word. -/
def read (spec : OptionSpec) (pending : Option (String × OptionFault)) :
    List Octets → ToolOptions
  | [] => ⟨[], [], pending.map (·.2)⟩
  | word :: rest =>
    match pending, word with
    | some (name, _), _ => (read spec none rest).add [(name, word)]
    | none, ['-', '-'] => ⟨[], rest, none⟩
    | none, '-' :: '-' :: text =>
      let (name, value) := match Text.cut? ['='] text with
        | some (name, value) => (name, some value)
        | none => (text, none)
      match longOption spec name with
      | .error f => faulty f
      | .ok (long, key) =>
        match spec.takesValue key, value with
        | true, some value => (read spec none rest).add [(key, value)]
        | true, none => read spec (some (key, .nameNeedsValue long)) rest
        | false, none => (read spec none rest).add [(key, [])]
        | false, some value =>
          if key.toList.any spec.optional.toList.contains then
            (read spec none rest).add [(key, value)]
          else faulty (.takesNoValue long)
    | none, '-' :: c :: r =>
      match readLetters spec (c :: r) with
      | .error f => faulty f
      | .ok (options, lacking) =>
        (read spec (lacking.map fun c => (c.toString, .letterNeedsValue c)) rest).add options
    | none, _ =>
      if spec.mixes then
        let o := read spec none rest
        { o with rest := word :: o.rest }
      else ⟨[], word :: rest, none⟩

end ToolOptions

/-- Reads the options of the call, and stops with a message if they are wrong. -/
def ToolM.withOptions (spec : OptionSpec) (body : ToolOptions → Tool) : Tool := do
  let call ← read
  let o := ToolOptions.read spec none call.args
  match o.fault with
  | some f =>
    ToolM.warn (f.text ++ octets "\nTry '" ++ call.name ++
      octets " \x2d\x2dhelp' for more information.")
    return spec.code
  | none => body o

/-- A number as bytes. -/
def numberOctets (n : Nat) : Octets := Nat.toDigits 10 n

end MatrixFlow.Script
