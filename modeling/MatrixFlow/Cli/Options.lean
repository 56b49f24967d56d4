import MatrixFlow.Env
import MatrixFlow.Number.Binary64
import MatrixFlow.Report
import MatrixFlow.Shell.Kind

/-!
# Arguments of the command line

* `OptionRule`: an option, whether it takes a value, and which values it accepts.
* `readWords`: sorts words into options and others.
* `CliRequest`: what the arguments ask for; `CliRequest.ofArgs` reads them.
-/

namespace MatrixFlow

/-- An option. -/
structure OptionRule where
  name : String
  letter : Option Char
  takesValue : Bool
  /-- It may be given more than once. -/
  repeats : Bool
  /-- The values that it accepts. -/
  accepts : String → Bool

/-- Why the reading of arguments stops. -/
inductive ArgStop where
  | help
  | version
  | misuse
deriving DecidableEq, Repr

/-- Words sorted into options with their values and others. -/
structure SortedWords where
  options : List (String × String)
  others : List String
deriving Repr

namespace SortedWords

/-- The value of an option. -/
def value? (w : SortedWords) (name : String) : Option String :=
  (w.options.find? fun (k, _) => k == name).map (·.2)

/-- All values of an option. -/
def values (w : SortedWords) (name : String) : List String :=
  (w.options.filter fun (k, _) => k == name).map (·.2)

/-- The option is given. -/
def has (w : SortedWords) (name : String) : Bool :=
  (w.value? name).isSome

/-- Adds an option. One that does not repeat is given once, and its value has to be accepted. -/
def add (w : SortedWords) (rule : OptionRule) (value : String) : Except ArgStop SortedWords :=
  if (w.has rule.name && !rule.repeats) || !rule.accepts value then .error .misuse
  else .ok { w with options := w.options ++ [(rule.name, value)] }

/-- Adds the one other word that there can be, which is a path. -/
def addOther (w : SortedWords) (word : String) : Except ArgStop SortedWords :=
  if !w.others.isEmpty || word.isEmpty then .error .misuse
  else .ok { w with others := w.others ++ [word] }

end SortedWords

/-- The word cannot be a value or stand by itself. -/
def looksLikeOption (word : String) : Bool :=
  match word.toList with
  | '-' :: _ :: _ => true
  | _ => false

/-- Reads a word that begins with two dashes: the option that still needs a value, if it does. -/
def readLong (rules : List OptionRule) (w : SortedWords) (body : String) :
    Except ArgStop (SortedWords × Option OptionRule) :=
  let (name, value) := match body.cutAt? "=" with
    | some (name, value) => (name, some value)
    | none => (body, none)
  if name = "help" then .error (if value.isSome then .misuse else .help)
  else match rules.find? (·.name == name), value with
    | none, _ => .error .misuse
    | some rule, some value =>
      if rule.takesValue then (w.add rule value).map (·, none) else .error .misuse
    | some rule, none =>
      if rule.takesValue then .ok (w, some rule) else (w.add rule "").map (·, none)

/-- Reads the letters of a word behind one dash: the option that still needs a value, if one
does. -/
def readLetters (rules : List OptionRule) (w : SortedWords) :
    List Char → Except ArgStop (SortedWords × Option OptionRule)
  | [] => .ok (w, none)
  | c :: r =>
    if c = 'h' then .error .help
    else match rules.find? (·.letter == some c) with
      | none => .error .misuse
      | some rule =>
        if rule.takesValue then
          match r with
          | [] => .ok (w, some rule)
          | '=' :: value => (w.add rule (String.ofList value)).map (·, none)
          | value => (w.add rule (String.ofList value)).map (·, none)
        else do
          let w ← w.add rule ""
          readLetters rules w r

/-- Sorts words; `pending` is the option that needs the next one as its value. -/
def readWords (rules : List OptionRule) (pending : Option OptionRule) (w : SortedWords) :
    List String → Except ArgStop SortedWords
  | [] => if pending.isSome then .error .misuse else .ok w
  | word :: rest =>
    match pending with
    | some rule =>
      if looksLikeOption word then .error .misuse
      else do
        let w ← w.add rule word
        readWords rules none w rest
    | none =>
      if word = "--" then rest.foldlM SortedWords.addOther w
      else match word.toList with
        | '-' :: '-' :: body => do
          let (w, next) ← readLong rules w (String.ofList body)
          readWords rules next w rest
        | '-' :: c :: r => do
          let (w, next) ← readLetters rules w (c :: r)
          readWords rules next w rest
        | _ => do
          let w ← w.addOther word
          readWords rules none w rest

/-! ## Commands -/

/-- The options of a run. -/
structure RunOptions where
  workflow : String
  event : String
  workdir : Option String
  job : Option String
  noFailFast : Bool
  maxParallel : Option Nat
  /-- In minutes. -/
  stepTimeout : Option Nat
  noInheritEnv : Bool
  vars : List String
  shell : Option Shell
  report : ReportFormat
deriving Repr

/-- What the program is to do. -/
inductive CliCommand where
  | run (options : RunOptions)
  | validate (workflow : String)
  | matrix (workflow : String) (job : Option String) (json : Bool)
deriving Repr

/-- What the arguments ask for. -/
inductive CliRequest where
  | command (c : CliCommand)
  | help
  | version
  | misuse
deriving Repr

/-- The natural number below a limit that a text is; a plus sign may stand in front. -/
def boundedNat? (limit : Nat) (s : String) : Option Nat :=
  let digits := match s.toList with
    | '+' :: r => r
    | r => r
  if digits.isEmpty || !digits.all Char.isDigit then none
  else
    let n := digits.foldl (fun n c => n * 10 + (c.toNat - '0'.toNat)) 0
    if n < limit then some n else none

namespace OptionRule

/-- An option with a value. -/
def valued (name : String) (accepts : String → Bool) : OptionRule :=
  ⟨name, none, true, false, accepts⟩

/-- An option without a value. -/
def flag (name : String) : OptionRule :=
  ⟨name, none, false, false, fun _ => true⟩

/-- The options of a run. -/
def ofRun : List OptionRule :=
  [valued "event" fun _ => true,
    { valued "workdir" (! ·.isEmpty) with letter := some 'w' },
    valued "job" fun _ => true,
    flag "no-fail-fast",
    valued "max-parallel" fun s => (boundedNat? (pow2 64) s).isSome,
    valued "step-timeout" fun s => (boundedNat? (pow2 64) s).isSome,
    flag "no-inherit-env",
    { valued "var" (fun _ => true) with letter := some 'v', repeats := true },
    valued "shell" fun s => (Shell.ofName? s).isSome,
    valued "report" fun s => (ReportFormat.ofName? s).isSome]

/-- The options for showing instances. -/
def ofMatrix : List OptionRule :=
  [valued "job" fun _ => true, flag "json"]

end OptionRule

/-- The options of a run from its words. The event may also come from the environment. -/
def RunOptions.ofWords (env : Env) (workflow : String) (w : SortedWords) : RunOptions where
  workflow := workflow
  event := (w.value? "event").getD ((env.get? "GANTRY_EVENT").getD "push")
  workdir := w.value? "workdir"
  job := w.value? "job"
  noFailFast := w.has "no-fail-fast"
  maxParallel := (w.value? "max-parallel").bind (boundedNat? (pow2 64))
  stepTimeout := (w.value? "step-timeout").bind (boundedNat? (pow2 64))
  noInheritEnv := w.has "no-inherit-env"
  vars := w.values "var"
  shell := (w.value? "shell").bind Shell.ofName?
  report := ((w.value? "report").bind ReportFormat.ofName?).getD .standard

namespace CliRequest

/-- The request for which reading stops. -/
def ofStop : ArgStop → CliRequest
  | .help => help
  | .version => version
  | .misuse => misuse

/-- The request of a command with the workflow that it needs. -/
def withWorkflow (rules : List OptionRule) (args : List String)
    (make : String → SortedWords → CliCommand) : CliRequest :=
  match readWords rules none ⟨[], []⟩ args with
  | .error stop => ofStop stop
  | .ok w =>
    match w.others with
    | [workflow] => command (make workflow w)
    | _ => misuse

/-- The names of the commands. -/
def commandNames : List String := ["run", "validate", "matrix", "help"]

/-- What arguments ask for. -/
def ofArgs (env : Env) : List String → CliRequest
  | "run" :: rest =>
    withWorkflow OptionRule.ofRun rest fun workflow w => .run (RunOptions.ofWords env workflow w)
  | "validate" :: rest => withWorkflow [] rest fun workflow _ => .validate workflow
  | "matrix" :: rest =>
    withWorkflow OptionRule.ofMatrix rest fun workflow w =>
      .matrix workflow (w.value? "job") (w.has "json")
  | "help" :: rest =>
    match rest with
    | [] => help
    | [name] => if commandNames.contains name then help else misuse
    | _ => misuse
  | word :: _ =>
    match word.toList with
    | '-' :: 'h' :: _ => help
    | '-' :: 'V' :: _ => version
    | _ => if word = "--help" then help else if word = "--version" then version else misuse
  | [] => misuse

end CliRequest

end MatrixFlow
