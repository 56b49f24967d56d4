import MatrixFlow.Script.Fault

/-!
# Starting shells

* `Scope.start`: a shell that has just been started.
* `shellTask`: what the arguments of a shell ask for.
* `requested?`: the program that a script file asks for.
-/

namespace MatrixFlow.Script

/-- The directories of programs where none are named. -/
def standardPath : Octets :=
  octets "/usr/local/sbin:/usr/local/bin:/usr/sbin:/usr/bin:/sbin:/bin"

/-- The version that shells of the extended dialect tell. -/
def extendedVersion : List Octets :=
  [octets "5", octets "2", octets "15", octets "1", octets "release",
    octets "x86_64-pc-linux-gnu"]

/-- A shell that has just been started. -/
def Scope.start (dialect : Dialect) (name : Octets) (process : Nat) (directory : List String)
    (channels : List (Nat × Channel)) (environment : List (String × Octets)) : Scope :=
  let named := environment.filter fun (k, _) => isName k.toList
  let scope : Scope :=
    { dialect, name, process, directory, channels
      source := none, inline := false, self := process, frames := [], depth := 1
      vars := named.map fun (k, v) => Variable.shared k v
      functions := [], aliases := [], params := [], loops := 0, hidden := [], callers := []
      options := { Options.none with expandsAliases := dialect = .plain }
      status := 0, parts := [], directories := [], jobs := [], waited := [], told := []
      traps := [], pending := [], inFailure := false, line := 1, command := [], lastWord := name, mask := 18
      lettersRead := 0, passing := [], ordered := false }
  let scope := if (scope.value? "PATH").isSome then scope else scope.assign "PATH" standardPath
  let scope := (scope.assign "PWD" (pathText directory)).publish "PWD"
  let scope := scope.assign "IFS" [' ', '\t', '\n']
  let scope := scope.assign "OPTIND" ['1']
  match dialect with
  | .plain =>
    ((scope.assign "PS1" (octets "# ")).assign "PS2" (octets "> ")).assign "PS4" (octets "+ ")
  | .extended =>
    let level := ((scope.value? "SHLVL").bind fun cs => decimal? (trimBlank cs)).getD 0
    let scope := scope.assign "BASH_VERSION" (octets "5.2.15(1)-release")
    let scope := scope.assignList "BASH_VERSINFO" extendedVersion
    let scope := scope.assign "BASH" (octets "/usr/bin/bash")
    let scope := scope.assign "PS4" (octets "+ ")
    let scope := if (scope.binding? "OLDPWD").isSome then scope
      else scope.publish "OLDPWD"
    let scope := if (scope.binding? "SHELL").isSome then scope
      else scope.assign "SHELL" (octets "/bin/bash")
    let scope := [("HOSTTYPE", "x86_64"), ("MACHTYPE", "x86_64-pc-linux-gnu"),
      ("OSTYPE", "linux-gnu"), ("EUID", "0"), ("UID", "0"), ("OPTERR", "1")].foldl
        (fun (s : Scope) (k, v) => s.assign k (octets v)) scope
    (scope.assign "SHLVL" (octets (toString (max 0 (level + 1))))).publish "SHLVL"

/-- How a shell is asked to run something. -/
inductive ShellTask where
  /-- A script in the arguments. -/
  | script (source : Octets)
  /-- A script in a file. -/
  | file (path : Octets)
  /-- A script in the input. -/
  | input
deriving Repr

/-- What is wrong with the arguments of a shell. -/
inductive ShellTaskFault where
  | scriptMissing
  | badOption (word : Octets)
  | badName (name : Octets)
deriving DecidableEq, Repr

/-- What a shell is started for: its options, its task, its name if it is given one, and its
parameters. -/
structure ShellStart where
  options : Options
  task : ShellTask
  name : Option Octets
  params : List Octets

/-- The long options of the extended dialect that change nothing here, without their dashes. -/
def idleLongOptions : List String :=
  ["norc", "noprofile", "login", "posix", "noediting", "restricted", "verbose", "debugger"]

/-- What the arguments of a shell ask for. -/
def shellTask (dialect : Dialect) (options : Options) (asks : Bool) :
    List Octets → Except ShellTaskFault ShellStart
  | [] => if asks then .error .scriptMissing else .ok ⟨options, .input, none, []⟩
  | word :: rest =>
    let finish (words : List Octets) : Except ShellTaskFault ShellStart :=
      match asks, words with
      | true, script :: words => .ok ⟨options, .script script, words.head?, words.drop 1⟩
      | true, [] => .error .scriptMissing
      | false, path :: words => .ok ⟨options, .file path, some path, words⟩
      | false, [] => .ok ⟨options, .input, none, []⟩
    match word with
    | ['-'] | ['-', '-'] => finish rest
    | '-' :: '-' :: name =>
      if dialect = .extended && idleLongOptions.contains (plainString name) then
        shellTask dialect options asks rest
      else .error (.badOption (if dialect = .plain then ['-', '-'] else word))
    | sign :: c :: r =>
      if sign == '-' || sign == '+' then
        let on := sign == '-'
        let asks := asks || (on && (c :: r).contains 'c')
        if on && (c :: r).contains 's' then
          .ok ⟨options, .input, none, rest⟩
        else
          let idle := if dialect = .extended then "coilsrDO" else "coils"
          let letters := (c :: r).filter fun c => !idle.toList.contains c
          match letters.foldlM (setLetter dialect on) options with
          | none => .error (.badOption (sign :: ((letters.find? fun c =>
              (setLetter dialect on options c).isNone).toList)))
          | some options =>
            if (c :: r).contains 'o' then
              match rest with
              | name :: rest =>
                match setNamed dialect on options (plainString name) with
                | some options => shellTask dialect options asks rest
                | none => .error (.badName name)
              | [] => .error (.badOption word)
            else if dialect = .extended && (c :: r).contains 'O' then
              match rest with
              | name :: rest =>
                if habits.contains (plainString name) then
                  shellTask dialect (options.turn on (plainString name)) asks rest
                else .error (.badName name)
              | [] => .error (.badOption word)
            else shellTask dialect options asks rest
      else finish (word :: rest)
    | _ => finish (word :: rest)

/-- How shells of the extended dialect are used. -/
def shellUsage : String :=
  "Usage:\tbash [GNU long option] [option] ...\n" ++
    "\tbash [GNU long option] [option] script-file ...\nGNU long options:\n" ++
    String.join (["debug", "debugger", "dump-po-strings", "dump-strings", "help", "init-file",
      "login", "noediting", "noprofile", "norc", "posix", "pretty-print", "rcfile", "restricted",
      "verbose", "version"].map fun s => "\t\x2d\x2d" ++ s ++ "\n") ++
    "Shell options:\n\t-ilrsD or -c command or -O shopt_option\t\t(invocation only)\n" ++
    "\t-abefhkmnptuvxBCEHPT or -o option\n"

/-- Tells what is wrong with the arguments of a shell. -/
def complainTask (dialect : Dialect) (name : Octets) (f : ShellTaskFault) : Eval Unit := do
  setStatus 2
  match dialect, f with
  | .plain, f =>
    emit 2 (name ++ octets ": 0: " ++ (match f with
      | .scriptMissing => octets "-c requires an argument"
      | .badOption word => octets "Illegal option " ++ word
      | .badName word => octets "Illegal option -o " ++ word) ++ ['\n'])
  | .extended, .scriptMissing => emit 2 (name ++ octets ": -c: option requires an argument\n")
  | .extended, .badOption word =>
    emit 2 (name ++ [':', ' '] ++ word ++ octets (": invalid option\n" ++ shellUsage))
  | .extended, .badName word =>
    emit 2 (name ++ octets ": line 0: " ++ name ++ [':', ' '] ++ word ++
      octets ": invalid option name\n")

/-- The program that a script file asks for in its first line, with an argument for it. -/
def requested? (bytes : Octets) : Option (Octets × Option Octets) :=
  match bytes with
  | '#' :: '!' :: r =>
    let line := trimBlank (r.takeWhile (· != '\n'))
    let program := line.takeWhile fun c => c != ' ' && c != '\t'
    let argument := trimBlank (line.drop program.length)
    some (program, if argument.isEmpty then none else some argument)
  | _ => none

/-- A subshell that has ended leaves its status behind, and nothing else. -/
def leaveCopy (saved : Scope) (result : Except Departure Unit) : Eval Unit := do
  let status := (← getScope).status
  modifyScope fun _ => { saved with status := status }
  match result with
  | .error (.killed process signal) => throw (.killed process signal)
  | .error .expired => throw .expired
  | _ => return

/-- Puts variables back. -/
def restoreVariables (old : List (String × Option Variable)) : Eval Unit :=
  old.forM fun (name, v) =>
    modifyScope fun s =>
      match v with
      | some v => s.putVariable v
      | none => s.dropVariable name

end MatrixFlow.Script
