import MatrixFlow.Script.Printf
import MatrixFlow.Script.Test
import MatrixFlow.Script.Tool.Basic

/-!
# Tools that print

Tools whose output follows from their arguments alone, and tests.
-/

namespace MatrixFlow.Script

open ToolM

/-- The options of echo in front of its arguments: whether the line ends, and whether escapes
count. -/
def echoOptions (endsLine escapes : Bool) : List Octets → Bool × Bool × List Octets
  | [] => (endsLine, escapes, [])
  | word :: rest =>
    match word with
    | '-' :: c :: r =>
      if (c :: r).all fun d => d == 'n' || d == 'e' || d == 'E' then
        let escapes := (c :: r).foldl
          (fun on d => if d == 'e' then true else if d == 'E' then false else on) escapes
        echoOptions (endsLine && !(c :: r).contains 'n') escapes rest
      else (endsLine, escapes, word :: rest)
    | _ => (endsLine, escapes, word :: rest)

/-- What echo prints where escapes count only on request. -/
def echoText (rules : EscapeRules) (args : List Octets) : Octets :=
  let (endsLine, escapes, words) := echoOptions true false args
  let text := Text.joinWith [' '] words
  let (text, ended) := if escapes then rules.apply text else (text, false)
  if endsLine && !ended then text ++ ['\n'] else text

/-- What echo prints where escapes always count. -/
def loudEchoText (args : List Octets) : Octets :=
  let (endsLine, words) := match args with
    | ['-', 'n'] :: rest => (false, rest)
    | _ => (true, args)
  let (text, ended) := EscapeRules.loudEcho.apply (Text.joinWith [' '] words)
  if endsLine && !ended then text ++ ['\n'] else text

/-- The tool `echo`. -/
def echoTool : Tool := do
  say (echoText .toolEcho (← read).args)
  return 0

/-- The tool `printf`. -/
def printfTool : Tool := do
  match (← read).args with
  | [] =>
    warn (octets "missing operand\nTry 'printf --help' for more information.")
    return 1
  | format :: args =>
    let (text, faults) := formatted .tool format args
    say text
    faults.forM fun
      | .notNumber t => warn (octets "'" ++ t ++ octets "': expected a numeric value")
      | .partly t => warn (octets "'" ++ t ++ octets "': value not completely converted")
      | .tooLarge t => warn (octets "'" ++ t ++ octets "': Numerical result out of range")
      | .badDirective t | .unfinished t => warn (t ++ octets ": invalid conversion specification")
    return if faults.isEmpty then 0 else 1

/-- What tests see of the files. -/
def ToolM.testFacts : ToolM TestFacts := do
  let call ← read
  let files := (← get).files
  let parts (path : Octets) : List String :=
    let text := plainString path
    if Path.isAbsolute text then Path.parts text
    else Path.partsFrom call.directory.reverse (text.piecesBy '/')
  return {
    entry? := fun path => if path.isEmpty then none else files.get? (parts path)
    isLink := fun path => (files.entry? (files.place (parts path))).any (·.isLink)
    isSame := fun a b =>
      (files.get? (parts a)).isSome && files.settle (parts a) == files.settle (parts b)
    isSet := fun _ => false
    isOn := fun _ => false
    missingIsOld := true }

/-- The tools `test` and `[`. -/
def testTool : Tool := do
  let call ← read
  let facts ← testFacts
  match testWords call.name call.args >>= extendedTest facts with
  | .ok true => return 0
  | .ok false => return 1
  | .error e =>
    warn (match e with
      | .missingBracket => octets "missing ']'"
      | .notNumber t => octets "invalid integer '" ++ t ++ ['\x27']
      | .unaryExpected t =>
        if isWideUnaryTest t then octets "'" ++ t ++ octets "': unary operator expected"
        else octets "missing argument after '" ++ (call.args.getLast?.getD []) ++ ['\x27']
      | .binaryExpected t => octets "'" ++ t ++ octets "': binary operator expected"
      | .operandMissing _ | .unclosed none =>
        octets "missing argument after '" ++ (call.args.getLast?.getD []) ++ ['\x27']
      | .unclosed (some t) => octets "')' expected, found " ++ t
      | .leftOver t => octets "extra argument '" ++ t ++ ['\x27'])
    return 2

/-- The tool `yes`. -/
def yesTool : Tool := do
  let args := (← read).args
  let line := if args.isEmpty then ['y'] else Text.joinWith [' '] args
  say (List.replicate (streamSize / (line.length + 1) + 1) (line ++ ['\n'])).flatten
  return 141

/-- The time that a text of seconds, minutes, hours or days stands for. -/
def sleepTime? (text : Octets) : Option Duration :=
  let (digits, scale) := match text.getLast? with
    | some 's' => (text.dropLast, 1)
    | some 'm' => (text.dropLast, 60)
    | some 'h' => (text.dropLast, 3600)
    | some 'd' => (text.dropLast, 86400)
    | _ => (text, 1)
  match quantity? digits with
  | some (.finite false num den, n) =>
    if n = digits.length then some ⟨num * scale * 1000000000 / den⟩ else none
  | some (.infinite false, n) =>
    if n = digits.length then some (Duration.ofSeconds (pow10 12)) else none
  | _ => none

/-- The tool `sleep`. -/
def sleepTool : Tool := do
  let args := (← read).args
  if args.isEmpty then
    warn (octets "missing operand\nTry 'sleep --help' for more information.")
    return 1
  match args.find? fun a => (sleepTime? a).isNone with
  | some a =>
    warn (octets "invalid time interval '" ++ a ++
      octets "'\nTry 'sleep --help' for more information.")
    return 1
  | none =>
    let total := (args.filterMap sleepTime?).foldl Duration.add Duration.zero
    modify fun s => { s with pause := total }
    return 0

/-- The last name of a path, without an ending unless it is all of the name. -/
def baseName (ending path : Octets) : Octets :=
  let kept := (path.reverse.dropWhile (· == '/')).reverse
  let name := (kept.reverse.takeWhile (· != '/')).reverse
  let name := if name.isEmpty then path.take 1 else name
  match Text.stripEnd? ending name with
  | some [] | none => name
  | some short => short

/-- What stands in front of the last name of a path. -/
def pathAbove (path : Octets) : Octets :=
  let kept := (path.reverse.dropWhile (· == '/')).dropWhile (· != '/')
  let above := (kept.dropWhile (· == '/')).reverse
  if !above.isEmpty then above else if path.head? = some '/' then ['/'] else ['.']

/-- The tool `basename`. -/
def basenameTool : Tool :=
  withOptions ⟨"az", "s", "", [("multiple", "a"), ("suffix", "s"), ("zero", "z")], false, 1⟩
    fun o => do
    let help := octets "\nTry '" ++ (← read).name ++ octets " \x2d\x2dhelp' for more information."
    let ending := if o.has 'z' then ['\x00'] else ['\n']
    match o.rest with
    | [] =>
      warn (octets "missing operand" ++ help)
      return 1
    | paths =>
      if o.has 'a' || o.has 's' then
        paths.forM fun path => say (baseName ((o.value? 's').getD []) path ++ ending)
        return 0
      else match paths.drop 2 with
        | extra :: _ =>
          warn (octets "extra operand '" ++ extra ++ ['\x27'] ++ help)
          return 1
        | [] =>
          say (baseName ((paths.drop 1).headD []) (paths.headD []) ++ ending)
          return 0

/-- The tool `dirname`. -/
def dirnameTool : Tool :=
  withOptions ⟨"z", "", "", [("zero", "z")], false, 1⟩ fun o => do
    let ending := if o.has 'z' then ['\x00'] else ['\n']
    if o.rest.isEmpty then
      warn (octets "missing operand\nTry '" ++ (← read).name ++
        octets " \x2d\x2dhelp' for more information.")
      return 1
    else
      o.rest.forM fun path => say (pathAbove path ++ ending)
      return 0

/-- The tool `printenv`. -/
def printenvTool : Tool := do
  let call ← read
  match call.args with
  | [] =>
    call.environment.forM fun (name, value) => sayLine (octets name ++ '=' :: value)
    return 0
  | names =>
    let found ← names.mapM fun name => do
      match call.environment.find? fun (k, _) => octets k == name with
      | some (_, value) =>
        sayLine value
        return true
      | none => return false
    return if found.all id then 0 else 1

end MatrixFlow.Script
