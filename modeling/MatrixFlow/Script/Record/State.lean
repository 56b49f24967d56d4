import MatrixFlow.Script.Channel
import MatrixFlow.Script.Record.Format
import MatrixFlow.Script.Record.Lexeme
import MatrixFlow.Script.Record.Split
import MatrixFlow.Script.Record.Syntax
import MatrixFlow.Script.Record.Value

/-!
# Runs of record programs

* `RecordState`: the variables, the record, and what is open.
* `Work`: something that happens in a run.
* `Spot`: a place whose keys have been computed; `load` and `store` read and change it.
* `nextRecord`: the next record of the input.
-/

namespace MatrixFlow.Script.Record

/-- What a variable holds. -/
inductive Cell where
  | value (v : Value)
  | table (number : Nat)

instance : Inhabited Cell := ⟨.value .unset⟩

/-- Something that is written to. -/
structure OpenOutput where
  name : Octets
  /-- It is the input of a command. -/
  command : Bool
  /-- What the command will read, the last first. -/
  waiting : List Octets

/-- Something that is read from. -/
structure OpenInput where
  name : Octets
  /-- It is the output of a command. -/
  command : Bool
  rest : Octets
  status : Nat

/-- The state of a run. -/
structure RecordState where
  shared : Array Cell
  own : Array Cell
  tables : Array Table
  /-- The record, unless fields have been changed since. -/
  record : Octets
  stale : Bool
  /-- The fields of the record, if it has been `divided`. -/
  fields : Array Value
  divided : Bool
  /-- What is printed later, the last first. -/
  output : List Octets
  outputs : List OpenOutput
  inputs : List OpenInput
  /-- What is left of the file that is read. -/
  main : Option Octets
  /-- The number of the next argument. -/
  argument : Nat
  /-- A file has been named, or the standard input taken. -/
  hasInput : Bool
  /-- The rules whose last record has not come yet. -/
  active : List Nat
  random : UInt64
  seed : Value
  code : Nat
  /-- Expressions that have been read. -/
  regexes : List (Octets × Regex)

/-- Why statements stop before their end. -/
inductive Halt where
  /-- The next record is read. -/
  | next
  | nextFile
  /-- No more records are read. -/
  | exit
  | fault

/-- What stays the same in a run. -/
structure Setting where
  program : Program
  name : Octets
  run : ProgramRunner

/-- Something that happens in a run. -/
abbrev Work := ReaderT Setting (ExceptT Halt (StateT RecordState Eval))

/-- Something from the surroundings. -/
def outside {α : Type} (m : Eval α) : Work α := fun _ => ExceptT.mk fun s => do
  return (.ok (← m), s)

/-! ## Variables -/

/-- The content of a variable. -/
def cell (v : Slot) : Work Cell := do
  let s ← get
  return match v with
    | .shared i => s.shared.getD i default
    | .own i => s.own.getD i default

/-- Sets the content of a variable. -/
def setCell (v : Slot) (c : Cell) : Work Unit :=
  modify fun s =>
    match v with
    | .shared i => { s with shared := s.shared.setIfInBounds i c }
    | .own i => { s with own := s.own.setIfInBounds i c }

/-- The value of a variable with a meaning. -/
def special (i : Nat) : Work Value := do
  return match (← get).shared.getD i default with
    | .value v => v
    | .table _ => .unset

/-- The form in which numbers become texts. -/
def textForm : Work Octets := do
  return (← special Special.textForm).toText (octets "%.6g")

/-- A value as a text. -/
def textOf (v : Value) : Work Octets := do
  match v with
  | .number x =>
    match integer? x with
    | some n => return integerText n
    | none => return fractionText (← textForm) x
  | v => return v.toText []

/-- A variable with a meaning, as a text. -/
def specialText (i : Nat) : Work Octets := do
  textOf (← special i)

/-- The table that a variable holds. -/
def tableOf (v : Slot) : Work Nat := do
  match ← cell v with
  | .table n => return n
  | .value _ =>
    let n := (← get).tables.size
    modify fun s => { s with tables := s.tables.push .empty }
    setCell v (.table n)
    return n

/-- Changes a table. -/
def modifyTable (n : Nat) (f : Table → Table) : Work Unit :=
  modify fun s => { s with tables := s.tables.modify n f }

/-! ## Faults -/

/-- How far the input has been read, behind a message. -/
def position : Work Octets := do
  let file ← specialText Special.fileName
  let fileCount ← specialText Special.fileRecordCount
  let count ← specialText Special.recordCount
  return octets "\n\tFILENAME=\x22" ++ file ++ octets "\x22 FNR=" ++ fileCount ++ octets " NR=" ++
    count

/-- Stops the run because of a fault. -/
def fail {α : Type} (f : RunFault) : Work α := do
  let message := f.message (← position)
  outside (warnAs (← read).name message)
  modify fun s => { s with code := 2 }
  throw .fault

/-! ## Expressions that texts are matched against -/

/-- How many expressions are kept. -/
def keptRegexes : Nat := 8

/-- The expression that a text is. -/
def regexFor (cs : Octets) : Work Regex := do
  match (← get).regexes.find? fun (k, _) => k == cs with
  | some (_, r) => return r
  | none =>
    match Regex.ofText .record cs with
    | .ok r =>
      modify fun s => { s with regexes := ((cs, r) :: s.regexes).take keptRegexes }
      return r
    | .error f => fail (.badRegex f cs)

/-- What a text stands for as a separator of fields. -/
def separatorFor (cs : Octets) : Work Separator := do
  match cs with
  | [] => return .nothing
  | [' '] => return .blanks
  | [c] => return .char c
  | _ => return .regex (← regexFor cs)

/-- What ends records. -/
def currentEnding : Work Ending := do
  match ← specialText Special.recordSeparator with
  | [] => return .paragraph
  | [c] => return .char c
  | cs => return .regex (← regexFor cs)

/-! ## The record -/

/-- Divides the record into fields, unless that has been done. -/
def divide : Work Unit := do
  if !(← get).divided then
    let separator ← separatorFor (← specialText Special.fieldSeparator)
    modify fun s => { s with
      fields := ((separator.split s.record).map .input).toArray, divided := true }

/-- The text of the record. -/
def recordText : Work Octets := do
  if (← get).stale then
    let separator ← specialText Special.outputSeparator
    let texts ← (← get).fields.toList.mapM textOf
    let record := Text.joinWith separator texts
    modify fun s => { s with record := record, stale := false }
  return (← get).record

/-- Puts a new record in place. -/
def setRecord (cs : Octets) : Work Unit :=
  modify fun s => { s with record := cs, stale := false, divided := false }

/-- A field; the record itself is number zero. -/
def field (n : Nat) : Work Value := do
  if n = 0 then return .input (← recordText)
  divide
  return (← get).fields.getD (n - 1) .unset

/-- Fields up to a number; those that are missing are empty. -/
def filled (fields : Array Value) (n : Nat) : Array Value :=
  fields ++ Array.replicate (n - fields.size) .unset

/-- Changes a field. -/
def setField (n : Nat) (v : Value) : Work Unit := do
  if n = 0 then setRecord (← textOf v)
  else
    divide
    modify fun s => { s with
      fields := (filled s.fields n).setIfInBounds (n - 1) v, stale := true }

/-- Changes the count of fields. -/
def setFieldCount (v : Value) : Work Unit := do
  divide
  let n := clampedInteger v.toNumber
  if n < 0 then fail .negativeCount
  modify fun s => { s with fields := (filled s.fields n.toNat).take n.toNat, stale := true }

/-- The value of a variable. -/
def loadVariable (v : Slot) : Work Value := do
  if v = .shared Special.fieldCount then
    divide
    return .number (Float.ofNat (← get).fields.size)
  match ← cell v with
  | .value v => return v
  | .table _ => return .unset

/-- Gives a variable a value. A record is divided by what separated fields when it was read. -/
def storeVariable (v : Slot) (value : Value) : Work Unit := do
  if v = .shared Special.fieldCount then setFieldCount value
  else
    if v = .shared Special.fieldSeparator then divide
    setCell v (.value value)

/-- Gives a variable of the program a value by its name. -/
def assignName (name : String) (value : Value) : Work Unit := do
  match (← read).program.names.findIdx? (· == name) with
  | some i =>
    match ← cell (.shared i) with
    | .value _ => storeVariable (.shared i) value
    | .table _ => return
  | none => return

/-! ## Places -/

/-- A place whose keys have been computed. -/
inductive Spot where
  | variable (v : Slot)
  | element (table : Nat) (key : Key)
  | field (n : Nat)

/-- The value in a place. An element that is asked for is there from then on. -/
def load : Spot → Work Value
  | .variable v => loadVariable v
  | .element n key => do
    match ((← get).tables.getD n .empty).get? key with
    | some v =>
      if key.number.isNone then modifyTable n (·.insert key v)
      return v
    | none =>
      modifyTable n (·.insert key .unset)
      return .unset
  | .field n => field n

/-- Gives a place a value. -/
def store (spot : Spot) (value : Value) : Work Unit :=
  match spot with
  | .variable v => storeVariable v value
  | .element n key => modifyTable n (·.insert key value)
  | .field n => setField n value

/-- The key that values make up. -/
def keyOf (values : List Value) : Work Key := do
  match values with
  | [v] => return .ofValue (← textForm) v
  | values =>
    let separator ← specialText Special.keySeparator
    return ⟨Text.joinWith separator (← values.mapM textOf), none⟩

/-! ## Output -/

/-- Hands over what has been printed. -/
def flush : Work Unit := do
  let s ← get
  set { s with output := [] }
  outside (emit 1 (s.output.reverse.flatMap id))

/-- Prints to the standard output. -/
def say (cs : Octets) : Work Unit :=
  modify fun s => { s with output := cs :: s.output }

/-- Opens something for output. -/
def openOutput (name : Octets) (command adds : Bool) : Work Unit := do
  if command then flush
  else if name.isEmpty then fail (.unwritable name FileFault.missing.text)
  else
    match ← outside (writePath name adds []) with
    | .ok () => pure ()
    | .error e => fail (.unwritable name e.text)
  modify fun s => { s with outputs := ⟨name, command, []⟩ :: s.outputs }

/-- Writes to a file or the input of a command, which is opened at the first time. -/
def sayTo (name : Octets) (command adds : Bool) (cs : Octets) : Work Unit := do
  if !command && (name == ['-'] || name == octets "/dev/stdout") then say cs
  else if !command && name == octets "/dev/stderr" then outside (emit 2 cs)
  else
    let same (o : OpenOutput) : Bool := o.name == name && o.command == command
    if !(← get).outputs.any same then openOutput name command adds
    if command then
      modify fun s =>
        match s.outputs.find? same with
        | some o => { s with
            outputs := { o with waiting := cs :: o.waiting } ::
              s.outputs.filter fun o => !same o }
        | none => s
    else
      let _ ← outside (writePath name true cs)

/-- Closes an output; a command reads what has been written to it, and ends with a status. -/
def closeOutput (o : OpenOutput) : Work Nat := do
  if !o.command then return 0
  let run := (← read).run
  outside (fed (o.waiting.reverse.flatMap id) (run.script o.name))

/-- Closes all outputs of a name, and all inputs; the status of the last one that was open. -/
def closeAll (name : Octets) : Work Int := do
  let s ← get
  set { s with
    outputs := s.outputs.filter fun o => o.name != name
    inputs := s.inputs.filter fun i => i.name != name }
  let closed ← (s.outputs.filter fun o => o.name == name).mapM closeOutput
  let statuses := closed ++ (s.inputs.filter fun i => i.name == name).map (·.status)
  return match statuses.getLast? with
    | some status => status
    | none => -1

/-- Closes everything at the end. -/
def finish : Work Unit := do
  let s ← get
  set { s with outputs := [] }
  let _ ← s.outputs.mapM closeOutput
  flush

/-! ## Input -/

/-- The number of a variable with a meaning goes up by one. -/
def countUp (i : Nat) : Work Unit := do
  let n := (← special i).toNumber
  setCell (.shared i) (.value (.number (n + 1.0)))

/-- An argument that gives a variable a value: its name and the text. -/
def argumentAssignment? (cs : Octets) : Option (String × Octets) :=
  match cs with
  | c :: _ =>
    let name := cs.takeWhile isNameRest
    match cs.drop name.length with
    | '=' :: value => if isNameStart c then some (plainString name, value) else none
    | _ => none
  | [] => none

/-- Takes a file for the input. -/
def openMain (path : Octets) : Work Unit := do
  match ← outside (readPath path) with
  | .ok cs =>
    modify fun s => { s with main := some cs, hasInput := true }
    setCell (.shared Special.fileName) (.value (.text path))
    setCell (.shared Special.fileRecordCount) (.value (.number 0.0))
  | .error .isDirectory => fail .directory
  | .error e => fail (.unreadable path e.text)

/-- The next record of the input, which is counted. -/
def nextRecordFrom : (fuel : Nat) → Work (Option Octets)
  | 0 => return none
  | fuel + 1 => do
    let s ← get
    match s.main with
    | some input =>
      match (← currentEnding).next? input with
      | some (record, rest) =>
        modify fun s => { s with main := some rest }
        countUp Special.recordCount
        countUp Special.fileRecordCount
        return some record
      | none =>
        modify fun s => { s with main := none }
        nextRecordFrom fuel
    | none =>
      let count := (clampedInteger (← special Special.argumentCount).toNumber).toNat
      if s.argument < count then
        set { s with argument := s.argument + 1 }
        let table := s.tables.getD (← tableOf (.shared Special.arguments)) .empty
        let argument := table.get? ⟨Nat.toDigits 10 s.argument, some s.argument⟩
        let text ← textOf (argument.getD .unset)
        if !text.isEmpty then
          match argumentAssignment? text with
          | some (name, value) => assignName name (.input (unescaped value))
          | none => openMain text
        nextRecordFrom fuel
      else if s.hasInput then return none
      else
        openMain ['-']
        nextRecordFrom fuel

/-- The next record of the input. -/
def nextRecord : Work (Option Octets) := do
  let count := (clampedInteger (← special Special.argumentCount).toNumber).toNat
  nextRecordFrom (2 * count + 8)

/-- The next record of a file or of the output of a command; less than zero if it cannot be
read. -/
def recordOf (name : Octets) (command : Bool) : Work (Except Unit (Option Octets)) := do
  let same (i : OpenInput) : Bool := i.name == name && i.command == command
  let input ← match (← get).inputs.find? same with
    | some i => pure (some i)
    | none =>
      if command then
        flush
        let run := (← read).run
        let (status, output) ← outside (captured (run.script name))
        pure (some ⟨name, true, output, status⟩)
      else
        match ← outside (readPath name) with
        | .ok cs => pure (some ⟨name, false, cs, 0⟩)
        | .error _ => pure none
  match input with
  | none => return .error ()
  | some i =>
    let found := (← currentEnding).next? i.rest
    let rest := match found with
      | some (_, rest) => rest
      | none => []
    modify fun s => { s with
      inputs := { i with rest := rest } :: s.inputs.filter fun i => !same i }
    return .ok (found.map (·.1))

end MatrixFlow.Script.Record
