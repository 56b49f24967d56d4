import MatrixFlow.Script.Builtin.Input
import MatrixFlow.Script.Tool.Print

/-!
# Commands that print and test

`echoBuiltin`, `printfBuiltin`, `testBuiltin` and `letBuiltin`.
-/

namespace MatrixFlow.Script

/-- Prints words. -/
def echoBuiltin (args : List Octets) : Eval Unit := do
  let scope ← getScope
  emit 1 (match scope.dialect with
    | .plain => loudEchoText args
    | .extended =>
      let args := if scope.options.isOn "xpg_echo" then
          match args with
          | ['-', 'n'] :: _ | ['-', 'e'] :: _ | ['-', 'E'] :: _ => args
          | _ => octets "-e" :: args
        else args
      echoText .echo args)
  setStatus 0

/-- What is wrong with a directive or its argument, with its status in each dialect. -/
def complainPrint : PrintFault → Eval Unit
  | .notNumber t =>
    fails "printf" (1, t ++ octets ": expected numeric value")
      (1, t ++ octets ": invalid number")
  | .partly t =>
    fails "printf" (1, t ++ octets ": not completely converted")
      (1, t ++ octets ": invalid number")
  | .tooLarge t => do
    let status := (← getScope).status
    fails "printf" (1, t ++ octets ": Numerical result out of range")
      (status, octets "warning: " ++ t ++ octets ": Numerical result out of range")
  | .badDirective t =>
    fails "printf" (2, t ++ octets ": invalid directive")
      (1, octets "\x60" ++ t.drop (t.length - 1) ++ octets "': invalid format character")
  | .unfinished t =>
    fails "printf" (2, octets "missing format character")
      (1, octets "\x60" ++ t ++ octets "': missing format character")

/-- Prints a format. -/
def printfBuiltin (args : List Octets) : Eval Unit := do
  let dialect := (← getScope).dialect
  let usage := "printf: usage: printf [-v var] format [arguments]"
  match letterOptions "" (if dialect = .extended then "v" else "") args with
  | .error e =>
    fails "printf" (2, octets "Illegal option " ++ e.take 2) (2, withUsage e usage)
  | .ok (given, words) =>
    match words with
    | [] =>
      match dialect with
      | .plain => fails "printf" (2, octets "usage: printf format [arg ...]") (2, [])
      | .extended =>
        emit 2 (octets (usage ++ "\n"))
        setStatus 2
    | format :: args =>
      let target := givenValue? given 'v'
      match ← (target.getD ['_', 'v'] |> placeOf?) with
      | none =>
        fails "printf" (2, []) (2, octets "\x60" ++ (target.getD []) ++
          octets "': not a valid identifier")
      | some (name, index) =>
        let rules := if dialect = .extended then PrintRules.extended else PrintRules.plain
        let (text, faults) := formatted rules format args
        setStatus 0
        faults.forM complainPrint
        match target with
        | some _ => assignPlace (← placeAt name index) false text
        | none => emit 1 text

/-- What tests see. -/
def Session.testFacts (s : Session) : TestFacts where
  missingIsOld := s.scope.dialect = .extended
  entry? path := if path.isEmpty then none else s.files.get? (s.scope.resolve path)
  isLink path := (s.files.entry? (s.files.place (s.scope.resolve path))).any (·.isLink)
  isSame a b :=
    let p := s.scope.resolve a
    (s.files.get? p).isSome && s.files.settle p == s.files.settle (s.scope.resolve b)
  isSet text :=
    let name := text.takeWhile isNameRest
    let v := s.scope.binding? (s.scope.meant (plainString name))
    match text.drop name.length with
    | [] =>
      if name.all Char.isDigit then (s.scope.parameter? (plainString name)).isSome
      else (v.bind (·.value)).isSome
    | _ :: r =>
      let inner := (takeIndex 0 r).elim [] (·.1)
      if inner == ['@'] || inner == ['*'] then v.any fun v => !v.content.elements.isEmpty
      else
        let key := if s.scope.isNamed (plainString name) then Key.name inner
          else .number ((decimal? inner).getD 0)
        (v.bind fun v => v.content.element? key).isSome
  isOn name := s.scope.options.isOn (plainString name)

/-- Tells why a test has no answer. -/
def complainTest (name : String) (e : TestFault) : Eval Unit :=
  match e with
  | .missingBracket => fails name (2, octets "missing ]") (2, octets "missing \x60]'")
  | .notNumber t =>
    fails name (2, octets "Illegal number: " ++ t)
      (2, t ++ octets ": integer expression expected")
  | .unaryExpected t =>
    fails name (2, t ++ octets ": unexpected operator") (2, t ++ octets ": unary operator expected")
  | .binaryExpected t =>
    fails name (2, t ++ octets ": unexpected operator")
      (2, t ++ octets ": binary operator expected")
  | .operandMissing t =>
    fails name (2, t ++ octets ": argument expected") (2, octets "argument expected")
  | .unclosed found =>
    fails name (2, octets "closing paren expected") (2, match found with
      | none => octets "\x60)' expected"
      | some t => octets "\x60)' expected, found " ++ t)
  | .leftOver t =>
    fails name (2, t ++ octets ": unexpected operator")
      (2, if t.head? == some '-' then octets "syntax error: \x60" ++ t ++ octets "' unexpected"
        else octets "too many arguments")

/-- Carries out a test. -/
def testBuiltin (name : String) (args : List Octets) : Eval Unit := do
  let facts := (← get).testFacts
  let answer := match (← getScope).dialect with
    | .plain => plainTest facts
    | .extended => extendedTest facts
  match testWords name.toList args >>= answer with
  | .ok answer => setStatus (if answer then 0 else 1)
  | .error e => complainTest name e

/-- Computes formulas; the last one is the answer. -/
def letBuiltin (args : List Octets) : Eval Unit := do
  if args.isEmpty then fails "let" (2, []) (1, octets "expression expected")
  else go args
where
  /-- Computes one after the other, as long as they have values. -/
  go : List Octets → Eval Unit
    | [] => return
    | formula :: rest => do
      match ← computeFor "let" formula with
      | none => return
      | some value =>
        setStatus (if value = 0 then 1 else 0)
        go rest

end MatrixFlow.Script
