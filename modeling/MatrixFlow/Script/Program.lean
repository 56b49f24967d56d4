import MatrixFlow.Script.Expand

/-!
# Programs by their names

* `Program`: what a command name stands for among the files.
* `Scope.program`: looks a command name up.
* `fails`, `failsHard`: messages under the name of a command.
-/

namespace MatrixFlow.Script

/-- What a command name stands for among the files. -/
inductive Program where
  /-- A program of the system. -/
  | tool (path : Octets) (name : String)
  /-- A file with a script in it. -/
  | script (path : Octets) (bytes : Octets)
  | unusable (fault : FileFault)
deriving Repr

/-- What stands at a path. -/
def programAt (files : FileTree) (path : Octets) (parts : List String) : Program :=
  match files.find parts with
  | .ok .program => .tool path (parts.getLast?.getD "")
  | .ok (.file bytes true) => .script path (ofBytes bytes)
  | .ok .directory => .unusable .isDirectory
  | .ok _ => .unusable .denied
  | .error e => .unusable e

/-- The paths at which a command name may stand. -/
def Scope.candidates (scope : Scope) (name : Octets) : List Octets :=
  if name.contains '/' then [name]
  else (Text.splitOn ':' ((scope.value? "PATH").getD [])).map fun directory =>
    if directory.isEmpty then name else directory ++ '/' :: name

/-- What a command name stands for: the first of its paths at which there is a program. -/
def Scope.program (scope : Scope) (files : FileTree) (name : Octets) : Program :=
  let found := (scope.candidates name).map fun path => programAt files path (scope.resolve path)
  let usable := found.find? fun p => match p with | .unusable _ => false | _ => true
  let denied := found.find? fun p => match p with | .unusable .denied => true | _ => false
  match usable, denied, found with
  | some p, _, _ => p
  | none, some p, _ => p
  | none, none, p :: _ => if name.contains '/' then p else .unusable .missing
  | none, none, [] => .unusable .missing

/-! ## Messages -/

/-- A message under the name of a command, and the status for it in each dialect. -/
def fails (name : String) (plain : Nat × Octets) (extended : Nat × Octets) : Eval Unit := do
  match (← getScope).dialect with
  | .plain =>
    complainAs name plain.2
    setStatus plain.1
  | .extended =>
    complainAs name extended.2
    setStatus extended.1

/-- The same, where the plain dialect ends the shell. -/
def failsHard (name : String) (plain : Octets) (extended : Nat × Octets) : Eval Unit := do
  fails name (2, plain) extended
  if (← getScope).dialect = .plain then throw .exit

/-! ## Words of commands -/

/-- The text is a name. -/
def isName (cs : Octets) : Bool :=
  match cs with
  | c :: r => isNameStart c && r.all isNameRest
  | [] => false

/-- Splits a text at its first equals sign. -/
def splitBinding (cs : Octets) : Octets × Option Octets :=
  match Text.cut? ['='] cs with
  | some (name, value) => (name, some value)
  | none => (cs, none)

/-- Leading words of options, without their signs, and the other words. Two dashes end the
options. -/
def leadingOptions (signs : Octets) : List Octets → List (Char × Octets) × List Octets
  | ['-', '-'] :: rest => ([], rest)
  | (sign :: c :: r) :: rest =>
    if signs.contains sign then
      let (options, others) := leadingOptions signs rest
      ((sign, c :: r) :: options, others)
    else ([], (sign :: c :: r) :: rest)
  | rest => ([], rest)

/-- The place that a word names: a variable, or one of its elements. -/
def placeOf? (text : Octets) : Eval (Option (String × Option Octets)) := do
  let name := text.takeWhile isNameRest
  if !isName name then return none
  match text.drop name.length with
  | [] => return some (plainString name, none)
  | '[' :: r =>
    match takeIndex 0 r with
    | some (inner, []) => return some (plainString name, some inner)
    | _ => return none
  | _ => return none

/-- The place of a variable, or of an element by the text of its index. -/
def placeAt (name : String) (index : Option Octets) : Eval Place := do
  match index with
  | none => return ⟨name, none⟩
  | some text => return ⟨name, some (← keyOf name text)⟩

end MatrixFlow.Script
