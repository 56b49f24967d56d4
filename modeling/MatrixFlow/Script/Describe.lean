import MatrixFlow.Script.Builtin
import MatrixFlow.Script.Read.Command

/-!
# What command names stand for

* `CommandKind`: what a command name stands for.
* `Session.commandKinds`: all that a name stands for, what would run first.
* `typeCommand`, `whichCommand`: the commands that tell it.
-/

namespace MatrixFlow.Script

/-- What a command name stands for. -/
inductive CommandKind where
  | alias (text : Octets)
  | keyword
  | function
  | builtin
  | program (path : Octets)

/-- The word for a kind. -/
def CommandKind.word : CommandKind → String
  | .alias _ => "alias"
  | keyword => "keyword"
  | function => "function"
  | builtin => "builtin"
  | program _ => "file"

/-- All that a name stands for, what would run first. -/
def Session.commandKinds (s : Session) (name : Octets) : List CommandKind :=
  let scope := s.scope
  let text := plainString name
  let extended := scope.dialect = .extended
  let words := if extended then plainWords ++ extendedWords ++ ["]]", "in"] else plainWords
  let aliases := if scope.options.expandsAliases then
      scope.aliases.filterMap fun (k, v) => if k == text then some (CommandKind.alias v) else none
    else []
  let keywords := if words.contains text then [CommandKind.keyword] else []
  let functions := if scope.functions.any fun f => f.name == text then [CommandKind.function]
    else []
  let builtins := if isBuiltin scope.dialect text then [CommandKind.builtin] else []
  let programs := (scope.candidates name).filterMap fun path =>
    match programAt s.files path (scope.resolve path) with
    | .tool .. | .script .. => some (CommandKind.program path)
    | .unusable _ => none
  if extended then aliases ++ keywords ++ functions ++ builtins ++ programs
  else keywords ++ aliases ++ functions ++ builtins ++ programs

/-- A kind in words. -/
def CommandKind.text (dialect : Dialect) (name : Octets) : CommandKind → Octets
  | .alias text =>
    match dialect with
    | .plain => octets " is an alias for " ++ text
    | .extended => octets " is aliased to \x60" ++ text ++ ['\x27']
  | keyword => octets " is a shell keyword"
  | function => octets (match dialect with
    | .plain => " is a shell function"
    | .extended => " is a function")
  | builtin => octets (if isSpecial (plainString name) && dialect = .plain then
      " is a special shell builtin" else " is a shell builtin")
  | program path => octets " is " ++ path

/-- A kind as the shortest word that stands for it. -/
def CommandKind.shortText (dialect : Dialect) (name : Octets) : CommandKind → Octets
  | .alias text =>
    match dialect with
    | .plain => octets "alias " ++ name ++ '=' :: plainShownValue text
    | .extended => octets "alias " ++ name ++ '=' :: shownValue text
  | program path => path
  | _ => name

/-- Tells what one name stands for, in words or in short. -/
def describeOne (inWords : Bool) (name : Octets) : Eval Unit := do
  let s ← get
  let dialect := s.scope.dialect
  match s.commandKinds name with
  | kind :: _ =>
    emit 1 ((if inWords then name ++ kind.text dialect name
      else kind.shortText dialect name) ++ ['\n'])
  | [] =>
    match dialect with
    | .plain =>
      if inWords then emit 1 (name ++ octets ": not found\n")
      setStatus 127
    | .extended =>
      if inWords then complainAs "command" (name ++ octets ": not found")
      setStatus 1

/-- Tells what names stand for. -/
def whichCommand (inWords : Bool) (names : List Octets) : Eval Unit := do
  setStatus 0
  match (← getScope).dialect with
  | .plain => (names.take 1).forM (describeOne inWords)
  | .extended =>
    let found ← names.mapM fun name => do
      return !((← get).commandKinds name).isEmpty
    names.forM (describeOne inWords)
    setStatus (if found.any id then 0 else 1)

/-- Tells what names stand for, in words, or as options ask. -/
def typeCommand (args : List Octets) : Eval Unit := do
  let s ← get
  let dialect := s.scope.dialect
  let (options, names) := match dialect with
    | .plain => ([], args)
    | .extended => leadingOptions ['-'] args
  let letters := options.flatMap (·.2)
  setStatus 0
  names.forM fun name => do
    let kinds := s.commandKinds name
    let kinds := if letters.contains 'f' then
        kinds.filter fun k => match k with | .function => false | _ => true
      else kinds
    let paths := kinds.filterMap fun k => match k with | .program path => some path | _ => none
    let all := letters.contains 'a'
    let shown := if all then kinds else kinds.take 1
    let first := match kinds with | .program path :: _ => [path] | _ => []
    if letters.contains 't' then
      shown.forM fun k => emit 1 (octets (k.word ++ "\n"))
      if kinds.isEmpty then setStatus 1
    else if letters.contains 'P' then
      (if all then paths else paths.take 1).forM fun p => emit 1 (p ++ ['\n'])
      if paths.isEmpty then setStatus 1
    else if letters.contains 'p' then
      (if all then paths else first).forM fun p => emit 1 (p ++ ['\n'])
      if kinds.isEmpty then setStatus 1
    else if kinds.isEmpty then
      match dialect with
      | .plain =>
        emit 1 (name ++ octets ": not found\n")
        setStatus 127
      | .extended =>
        complainAs "type" (name ++ octets ": not found")
        setStatus 1
    else shown.forM fun k => emit 1 (name ++ k.text dialect name ++ ['\n'])

end MatrixFlow.Script
