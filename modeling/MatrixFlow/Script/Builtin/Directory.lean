import MatrixFlow.Script.Program

/-!
# Commands for the directory

`cdBuiltin`, `pwdBuiltin`, and the commands that keep directories to go back to.
-/

namespace MatrixFlow.Script

/-- Moves the shell to a directory; false if that fails. -/
def enterDirectory (name : String) (path : Octets) : Eval Bool := do
  let scope ← getScope
  let parts := if path.isEmpty then scope.directory else scope.resolve path
  match (← get).files.find parts with
  | .ok .directory =>
    let old := pathText scope.directory
    modifyScope fun s =>
      (({ s with directory := parts }.assign "OLDPWD" old).publish "OLDPWD").assign "PWD"
        (pathText parts)
    return true
  | .ok _ =>
    fails name (2, octets "can't cd to " ++ path) (1, path ++ octets ": Not a directory")
    return false
  | .error e =>
    fails name (2, octets "can't cd to " ++ path) (1, path ++ octets ": " ++ octets e.text)
    return false

/-- The directory below one of those in a list of paths, if there is one. -/
def searchedDirectory? (scope : Scope) (files : FileTree) (path : Octets) : Option Octets :=
  let isPlain := path.head? != some '/' && !Text.startsWith ['.', '/'] path &&
    !Text.startsWith ['.', '.', '/'] path && path != ['.'] && path != ['.', '.']
  match isPlain, scope.value? "CDPATH" with
  | true, some list =>
    let paths := (Text.splitOn ':' list).map fun d => if d.isEmpty then path else d ++ '/' :: path
    paths.find? fun p => files.isDirectory (scope.resolve p)
  | _, _ => none

/-- Changes the directory. -/
def cdBuiltin (args : List Octets) : Eval Unit := do
  let scope ← getScope
  let (_, args) := leadingOptions ['-'] args
  let back := args.head? == some ['-']
  let target := match args with
    | [] => scope.value? "HOME"
    | a :: _ => if back then scope.value? "OLDPWD" else some a
  if args.length > 1 && scope.dialect = .extended then
    fails "cd" (2, []) (1, octets "too many arguments")
    return
  match target with
  | none =>
    match scope.dialect with
    | .plain =>
      if back then emit 1 (pathText scope.directory ++ ['\n'])
      setStatus 0
    | .extended =>
      fails "cd" (2, []) (1, octets (if back then "OLDPWD not set" else "HOME not set"))
  | some path =>
    let searched := searchedDirectory? scope (← get).files path
    if ← enterDirectory "cd" (searched.getD path) then
      let shown := back || searched.any (· != path)
      if shown then emit 1 (pathText (← getScope).directory ++ ['\n'])
      setStatus 0

/-- Shows the directory. -/
def pwdBuiltin (_ : List Octets) : Eval Unit := do
  emit 1 (pathText (← getScope).directory ++ ['\n'])
  setStatus 0

/-- A directory with a tilde in the place of the home directory. -/
def shortDirectory (scope : Scope) (parts : List String) : Octets :=
  let text := pathText parts
  match scope.value? "HOME" with
  | some home =>
    if text == home then ['~']
    else if Text.startsWith (home ++ ['/']) text then '~' :: text.drop home.length
    else text
  | none => text

/-- Shows the directories to go back to, the present one in front. -/
def dirsBuiltin (args : List Octets) : Eval Unit := do
  let scope ← getScope
  let all := scope.directory :: scope.directories
  let letters := (leadingOptions ['-'] args).1.flatMap (·.2)
  if letters.contains 'c' then modifyScope fun s => { s with directories := [] }
  else
    let write := if letters.contains 'l' then pathText else shortDirectory scope
    let shown := all.map write
    if letters.contains 'v' then
      shown.zipIdx.forM fun (d, i) => emit 1 (octets (" " ++ toString i ++ "  ") ++ d ++ ['\n'])
    else if letters.contains 'p' then shown.forM fun d => emit 1 (d ++ ['\n'])
    else emit 1 (Text.joinWith [' '] shown ++ ['\n'])
  setStatus 0

/-- Changes the directory and keeps the old one. -/
def pushdBuiltin (args : List Octets) : Eval Unit := do
  let scope ← getScope
  match args, scope.directories with
  | [], [] => fails "pushd" (2, []) (1, octets "no other directory")
  | [], d :: rest =>
    modifyScope fun s => { s with directories := scope.directory :: rest }
    if ← enterDirectory "pushd" (pathText d) then dirsBuiltin []
  | path :: _, kept =>
    if ← enterDirectory "pushd" path then
      modifyScope fun s => { s with directories := scope.directory :: kept }
      dirsBuiltin []

/-- Goes back to the last directory that was kept. -/
def popdBuiltin (_ : List Octets) : Eval Unit := do
  match (← getScope).directories with
  | [] => fails "popd" (2, []) (1, octets "directory stack empty")
  | d :: rest =>
    modifyScope fun s => { s with directories := rest }
    if ← enterDirectory "popd" (pathText d) then dirsBuiltin []

end MatrixFlow.Script
