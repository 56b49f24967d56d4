import MatrixFlow.Script.Record.Run

/-!
# Starting record programs

* `RecordRequest`: what the arguments ask for.
* `recordProgram`: the program `awk`.
-/

namespace MatrixFlow.Script.Record

/-- What the arguments ask for. -/
structure RecordRequest where
  separator : Option Octets
  /-- Variables and the texts that they are given first. -/
  assignments : List (String × Octets)
  /-- Files that the program is read from. -/
  files : List Octets
  /-- The arguments behind the options. -/
  rest : List Octets

/-- The arguments are asked for something that there is not. -/
inductive RequestFault where
  | badAssignment (text : Octets)
  | unknownOption (text : Octets)
  | missing (option : Char)
deriving DecidableEq, Repr

/-- The fault in words. -/
def RequestFault.text : RequestFault → Octets
  | badAssignment text => octets "improper assignment: -v " ++ text
  | unknownOption text => octets "not an option: " ++ text
  | missing option => octets "option requires an argument \x2d\x2d \x27" ++ [option, '\x27']

namespace RecordRequest

/-- Takes an option with its value. -/
def withOption (r : RecordRequest) (option : Char) (value : Octets) :
    Except RequestFault RecordRequest :=
  match option with
  | 'F' => .ok { r with separator := some value }
  | 'f' => .ok { r with files := r.files ++ [value] }
  | _ =>
    match argumentAssignment? value with
    | some a => .ok { r with assignments := r.assignments ++ [a] }
    | none => .error (.badAssignment value)

/-- What arguments ask for, beyond what has been asked for before. -/
def readFrom (r : RecordRequest) : List Octets → Except RequestFault RecordRequest
  | [] => .ok r
  | word :: rest =>
    match word with
    | ['-', '-'] => .ok { r with rest := rest }
    | ['-', c] =>
      if c == 'F' || c == 'f' || c == 'v' then
        match rest with
        | [] => .error (.missing c)
        | value :: rest => do (← r.withOption c value).readFrom rest
      else .error (.unknownOption word)
    | '-' :: c :: value =>
      if c == 'F' || c == 'f' || c == 'v' then do (← r.withOption c value).readFrom rest
      else if c == 'W' then r.readFrom rest
      else .error (.unknownOption word)
    | _ => .ok { r with rest := word :: rest }

/-- What arguments ask for. -/
def read (args : List Octets) : Except RequestFault RecordRequest :=
  readFrom ⟨none, [], [], []⟩ args

/-- What is wrong with the separator of fields, if that is an expression. -/
def separatorFault? (r : RecordRequest) : Option ProgramFault :=
  match r.separator with
  | none => none
  | some cs =>
    let cs := unescaped cs
    match Regex.ofText .record cs with
    | .error f => if cs.length < 2 then none else some (.badRegex f cs)
    | .ok _ => none

end RecordRequest

/-- The text of a program, or the fault of a file that cannot be read, and the arguments of the
program. -/
def programText (r : RecordRequest) : Eval (Except RunFault (Option Octets × List Octets)) := do
  if r.files.isEmpty then return .ok (r.rest.head?, r.rest.drop 1)
  let texts ← r.files.mapM fun path => do
    match ← readPath path with
    | .ok cs => return (.ok cs : Except RunFault Octets)
    | .error .isDirectory => return .error .directory
    | .error e => return .error (.unreadable path e.text)
  return (texts.mapM id).map fun texts => (some (Text.joinWith ['\n'] texts), r.rest)

/-- The state in front of the first rule. -/
def RecordState.start (program : Program) (args : List Octets)
    (environment : List (String × Octets)) : RecordState :=
  let specials : List (Nat × Value) :=
    [(Special.recordCount, .number 0.0), (Special.fileRecordCount, .number 0.0),
      (Special.fieldSeparator, .text [' ']), (Special.outputSeparator, .text [' ']),
      (Special.recordSeparator, .text ['\n']), (Special.outputEnding, .text ['\n']),
      (Special.keySeparator, .text ['\x1c']), (Special.matchStart, .number 0.0),
      (Special.matchLength, .number (-1.0)), (Special.printForm, .text (octets "%.6g")),
      (Special.textForm, .text (octets "%.6g")),
      (Special.argumentCount, .number (Float.ofNat args.length))]
  let cells := specials.foldl (fun (cells : Array Cell) (i, v) => cells.setIfInBounds i (.value v))
    (Array.replicate program.names.size default)
  let cells := cells.setIfInBounds Special.environment (.table 0)
  let cells := cells.setIfInBounds Special.arguments (.table 1)
  let known := environment.foldl
    (fun (t : Table) (name, value) => t.insert ⟨octets name, none⟩ (.input value)) .empty
  let given := args.zipIdx.foldl
    (fun (t : Table) (a, i) => t.insert ⟨Nat.toDigits 10 i, some i⟩ (.input a)) .empty
  { shared := cells, own := #[], tables := #[known, given], record := [], stale := false
    fields := #[], divided := true, output := [], outputs := [], inputs := [], main := none
    argument := 1, hasInput := false, active := [], random := nextRandom 0
    seed := .number 0.0, code := 0, regexes := [] }

/-- Runs a program with its arguments. -/
def runProgram (setting : Setting) (r : RecordRequest) (args : List Octets) : Eval Unit := do
  let environment := (← getScope).environment
  let start := RecordState.start setting.program (setting.name :: args) environment
  let body : Work Unit := do
    match r.separator with
    | some cs => assignName "FS" (.text (unescaped cs))
    | none => pure ()
    r.assignments.forM fun (name, value) => assignName name (.input (unescaped value))
    runRules
  let input ← peekInput
  let (_, s) ← ((body.run setting).run).run start
  -- What has not been read of the input stays there, from the next block on.
  if let some left := s.main then
    if !input.isEmpty && (← peekInput).isEmpty then
      leaveBlocks input (input.length - left.length) 65536
  setStatus s.code

/-- The program `awk`. -/
def recordProgram (run : ProgramRunner) (name : Octets) (args : List Octets) : Eval Unit := do
  match RecordRequest.read args with
  | .error f =>
    warnAs name f.text
    setStatus 2
  | .ok r =>
    match ← programText r with
    | .error f =>
      warnAs name (f.message [])
      setStatus 2
    | .ok (none, _) => setStatus 2
    | .ok (some text, operands) =>
      match Program.ofText text with
      | .error (line, f) =>
        (f.messages line).forM (warnAs name)
        setStatus 2
      | .ok program =>
        match r.separatorFault? with
        | some f =>
          (f.messages 0).forM (warnAs name)
          setStatus 2
        | none => runProgram ⟨program, name, run⟩ r operands

end MatrixFlow.Script.Record
