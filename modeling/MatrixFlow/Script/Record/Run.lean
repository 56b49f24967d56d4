import MatrixFlow.Script.Record.Read
import MatrixFlow.Script.Record.State

/-!
# Running record programs

* `eval`, `perform`: what expressions and statements do.
* `handleRecord`: the rules for one record.
* `runProgram`: all rules, for all records.
-/

namespace MatrixFlow.Script.Record

/-- How a statement ends. -/
inductive Flow where
  | onward
  | leave
  | again
  | back (v : Value)

/-! ## Numbers and texts -/

/-- A condition as a value. -/
def truth (b : Bool) : Value := .number (if b then 1.0 else 0.0)

/-- What is computed from two numbers. -/
def Operator.apply (op : Operator) (x y : Float) : Float :=
  match op with
  | add => x + y
  | subtract => x - y
  | multiply => x * y
  | divide => x / y
  | remainder => Record.remainder x y
  | power => Float.pow x y

/-- A relation holds for values that compare in a certain way. -/
def Relation.holds (r : Relation) (o : Ordering) : Bool :=
  match r with
  | less => o == .lt
  | lessOrEqual => o != .gt
  | equal => o == .eq
  | notEqual => o != .eq
  | greater => o == .gt
  | greaterOrEqual => o != .lt

/-- A part of a text. One that would begin in front of the text begins with it, and goes on as far
behind its end. -/
def partOf (cs : Octets) (start : Int) (length : Option Int) : Octets :=
  let i := start - 1
  if (cs.length : Int) ≤ i then []
  else
    let rest := cs.drop i.toNat
    match length with
    | none => rest
    | some n => rest.take (if i < 0 then n - (i + 1) else n).toNat

/-- Where a piece stands in a text, counted from one; zero if it does not. -/
def placeIn (piece cs : Octets) : Nat :=
  match Text.cut? piece cs with
  | some (before, _) => before.length + 1
  | none => if piece.isEmpty then 1 else 0

/-- The next number of a sequence without an order that can be seen. -/
def nextRandom (x : UInt64) : UInt64 := x * 6364136223846793005 + 1442695040888963407

/-- A number from zero up to one. -/
def unitFloat (x : UInt64) : Float := (x >>> 11).toFloat / 9007199254740992.0

/-! ## Loops -/

/-- How often a loop runs at most. -/
def loopFuel : Nat := 3000000

/-- Repeats a body as long as a condition holds. -/
def repeatWhile (test : Work Bool) (body step : Work Flow) : (fuel : Nat) → Work Flow
  | 0 => outside runOut
  | fuel + 1 => do
    if ← test then
      match ← body with
      | .leave => return .onward
      | .back v => return .back v
      | _ =>
        let _ ← step
        repeatWhile test body step fuel
    else return .onward

/-- Does something for each key. -/
def repeatFor (body : Octets → Work Flow) : List Octets → Work Flow
  | [] => return .onward
  | key :: rest => do
    match ← body key with
    | .leave => return .onward
    | .back v => return .back v
    | _ => repeatFor body rest

/-- Performs statements one after the other. -/
def performAll (perform : Stmt → Work Flow) : List Stmt → Work Flow
  | [] => return .onward
  | s :: rest => do
    match ← perform s with
    | .onward => performAll perform rest
    | f => return f

/-! ## Functions -/

/-- Prints or takes what a format and its values make. -/
def formatted (name : String) (values : List Value) (keep : Octets → Work Unit) : Work Unit := do
  match values with
  | [] => return
  | format :: values =>
    let format ← textOf format
    let (text, fault) := formatValues (← textForm) format values
    keep text
    match fault with
    | none => return
    | some .fewValues => fail (.fewValues name format)
    | some (.badDirective n) => fail (.badDirective n name format)

/-- A function that every program knows, apart from those whose first value is an expression. -/
def applyBuiltin (b : Builtin) (values : List Value) : Work Value := do
  let first := values.headD .unset
  let second := (values.drop 1).headD .unset
  let number (x : Float) : Work Value := return .number x
  match b with
  | .atan2 => number (Float.atan2 first.toNumber second.toNumber)
  | .cos => number (Float.cos first.toNumber)
  | .sin => number (Float.sin first.toNumber)
  | .exp => number (Float.exp first.toNumber)
  | .log => number (Float.log first.toNumber)
  | .sqrt => number (Float.sqrt first.toNumber)
  | .int => number (truncated first.toNumber)
  | .length =>
    let cs ← if values.isEmpty then recordText else textOf first
    number (Float.ofNat cs.length)
  | .index => number (Float.ofNat (placeIn (← textOf second) (← textOf first)))
  | .lower => return .text ((← textOf first).map Char.toLower)
  | .upper => return .text ((← textOf first).map Char.toUpper)
  | .substr =>
    let length := ((values.drop 2).head?).map fun v => clampedInteger v.toNumber
    return .text (partOf (← textOf first) (clampedInteger second.toNumber) length)
  | .matching => return .unset
  | .sprintf =>
    let (text, fault) := formatValues (← textForm) (← textOf first) (values.drop 1)
    match fault with
    | none => return .text text
    | some .fewValues => fail (.fewValues "sprintf" (← textOf first))
    | some (.badDirective n) => fail (.badDirective n "sprintf" (← textOf first))
  | .random =>
    modify fun s => { s with random := nextRandom s.random }
    number (unitFloat (← get).random)
  | .seed =>
    let old := (← get).seed
    let new : Value := if values.isEmpty then .number 0.0 else first
    modify fun s => { s with seed := new, random := nextRandom new.toNumber.toBits }
    return old
  | .system =>
    flush
    let run := (← read).run
    let status ← outside (run.script (← textOf first))
    number (Float.ofNat status)
  | .close => number (Float.ofInt (← closeAll (← textOf first)))
  | .flush =>
    flush
    number 0.0

/-- Looks for an expression in a text, and notes where it was found. -/
def findIn (cs : Octets) (r : Regex) : Work Value := do
  let (start, length) : Float × Float := match r.find? false cs with
    | some (before, found, _, _) =>
      (Float.ofNat (before.length + 1), Float.ofNat found.length)
    | none => (0.0, -1.0)
  setCell (.shared Special.matchStart) (.value (.number start))
  setCell (.shared Special.matchLength) (.value (.number length))
  return .number start

/-- Keeps a record that has been read: in a place, or as the record. -/
def keepRecord (target : Option Spot) (cs : Octets) : Work Unit :=
  match target with
  | some spot => store spot (.input cs)
  | none => setRecord cs

/-- Reads a record from a file or a command. -/
def readFrom (name : Octets) (command : Bool) (target : Option Spot) : Work Value := do
  match ← recordOf name command with
  | .error () => return .number (-1.0)
  | .ok none => return .number 0.0
  | .ok (some cs) =>
    keepRecord target cs
    return .number 1.0

/-- A variable that became a table in a function is one outside too. -/
def shareTables : List Expr → List Cell → Work Unit
  | .place (.variable v) :: args, .table n :: cells => do
    match ← cell v with
    | .value .unset => setCell v (.table n)
    | _ => pure ()
    shareTables args cells
  | _ :: args, _ :: cells => shareTables args cells
  | _, _ => return

/-! ## Expressions and statements -/

mutual

/-- The value of an expression. -/
def eval (fuel : Nat) (e : Expr) : Work Value :=
  match fuel with
  | 0 => outside runOut
  | fuel + 1 => do
    match e with
    | .number x => return .number x
    | .text cs => return .text cs
    | .regex r => return truth (r.isIn false (← recordText))
    | .place p => load (← locate fuel p)
    | .assign p op value =>
      let spot ← locate fuel p
      let value ← eval fuel value
      let value ← match op with
        | none => pure value
        | some op => pure (.number (op.apply (← load spot).toNumber value.toNumber))
      store spot value
      return value
    | .count p up before =>
      let spot ← locate fuel p
      let old := (← load spot).toNumber
      let new := if up then old + 1.0 else old - 1.0
      store spot (.number new)
      return .number (if before then old else new)
    | .negative e => return .number (-(← eval fuel e).toNumber)
    | .positive e => return .number (← eval fuel e).toNumber
    | .not e => return truth (!(← eval fuel e).holds)
    | .compute op a b =>
      let x := (← eval fuel a).toNumber
      let y := (← eval fuel b).toNumber
      return .number (op.apply x y)
    | .join a b =>
      let a ← textOf (← eval fuel a)
      let b ← textOf (← eval fuel b)
      return .text (a ++ b)
    | .compare r a b =>
      let a ← eval fuel a
      let b ← eval fuel b
      return truth (r.holds (a.compare (← textForm) b))
    | .matching negated a b =>
      let cs ← textOf (← eval fuel a)
      let r ← pattern fuel b
      return truth (r.isIn false cs != negated)
    | .member keys table =>
      let key ← keyOf (← keys.mapM (eval fuel))
      let n ← tableOf table
      return truth (((← get).tables.getD n .empty).get? key).isSome
    | .both a b =>
      if (← eval fuel a).holds then return truth (← eval fuel b).holds
      else return truth false
    | .either a b =>
      if (← eval fuel a).holds then return truth true
      else return truth (← eval fuel b).holds
    | .choose c a b => if (← eval fuel c).holds then eval fuel a else eval fuel b
    | .call number args =>
      match (← read).program.functions[number]? with
      | none => return .unset
      | some f =>
        let cells ← args.mapM (argument fuel)
        let frame := (cells ++ List.replicate (f.params - cells.length) default).toArray
        let saved := (← get).own
        modify fun s => { s with own := frame }
        let flow ← perform fuel f.body
        let cells := (← get).own.toList
        modify fun s => { s with own := saved }
        shareTables args cells
        return match flow with
          | .back v => v
          | _ => .unset
    | .apply .matching [a, b] =>
      let cs ← textOf (← eval fuel a)
      findIn cs (← pattern fuel b)
    | .apply b args => applyBuiltin b (← args.mapM (eval fuel))
    | .size v =>
      match ← cell v with
      | .table n => return .number (Float.ofNat ((← get).tables.getD n .empty).size)
      | .value _ => return .number (Float.ofNat (← textOf (← loadVariable v)).length)
    | .split e table separator =>
      let cs ← textOf (← eval fuel e)
      let separator ← match separator with
        | none => separatorFor (← specialText Special.fieldSeparator)
        | some (.regex .empty) => pure .nothing
        | some (.regex r) => pure (.regex r)
        | some e => separatorFor (← textOf (← eval fuel e))
      let pieces := separator.split cs
      let n ← tableOf table
      modifyTable n fun _ => .ofList (pieces.map .input)
      return .number (Float.ofNat pieces.length)
    | .substitute everywhere r replacement p =>
      let r ← pattern fuel r
      let replacement ← textOf (← eval fuel replacement)
      let spot ← locate fuel p
      let cs ← textOf (← load spot)
      let (text, count) := replaced r replacement everywhere cs
      if 0 < count then store spot (.text text)
      return .number (Float.ofNat count)
    | .read p =>
      let target ← p.mapM (locate fuel)
      match ← nextRecord with
      | none => return .number 0.0
      | some cs =>
        keepRecord target cs
        return .number 1.0
    | .readFile path p =>
      let target ← p.mapM (locate fuel)
      readFrom (← textOf (← eval fuel path)) false target
    | .readCommand command p =>
      let name ← textOf (← eval fuel command)
      let target ← p.mapM (locate fuel)
      readFrom name true target

/-- The expression that another one stands for in a match. -/
def pattern (fuel : Nat) (e : Expr) : Work Regex :=
  match fuel with
  | 0 => outside runOut
  | fuel + 1 => do
    match e with
    | .regex r => return r
    | e => regexFor (← textOf (← eval fuel e))

/-- A place with its keys computed. -/
def locate (fuel : Nat) (p : Place) : Work Spot :=
  match fuel with
  | 0 => outside runOut
  | fuel + 1 => do
    match p with
    | .variable v => return .variable v
    | .element table keys =>
      let key ← keyOf (← keys.mapM (eval fuel))
      return .element (← tableOf table) key
    | .field index =>
      let n := clampedInteger (← eval fuel index).toNumber
      if n < 0 then fail (.negativeField n)
      return .field n.toNat

/-- What a function is given: a table as it is, and anything else by its value. -/
def argument (fuel : Nat) (e : Expr) : Work Cell :=
  match fuel with
  | 0 => outside runOut
  | fuel + 1 => do
    match e with
    | .place (.variable v) =>
      match ← cell v with
      | .table n => return .table n
      | .value _ => return .value (← loadVariable v)
    | e => return .value (← eval fuel e)

/-- Prints to where a statement says. -/
def print (fuel : Nat) (sink : Sink) (cs : Octets) : Work Unit :=
  match fuel with
  | 0 => outside runOut
  | fuel + 1 => do
    match sink with
    | .standard => say cs
    | .file path => sayTo (← textOf (← eval fuel path)) false false cs
    | .append path => sayTo (← textOf (← eval fuel path)) false true cs
    | .command e => sayTo (← textOf (← eval fuel e)) true false cs

/-- Performs a statement. -/
def perform (fuel : Nat) (s : Stmt) : Work Flow :=
  match fuel with
  | 0 => outside runOut
  | fuel + 1 => do
    match s with
    | .nothing => return .onward
    | .expr e =>
      let _ ← eval fuel e
      return .onward
    | .print args sink =>
      let ending ← specialText Special.outputEnding
      let text ← if args.isEmpty then recordText
        else
          let values ← args.mapM (eval fuel)
          let form := (← special Special.printForm).toText []
          pure (Text.joinWith (← specialText Special.outputSeparator)
            (values.map (·.toText form)))
      print fuel sink (text ++ ending)
      return .onward
    | .printf args sink =>
      formatted "printf" (← args.mapM (eval fuel)) (print fuel sink)
      return .onward
    | .block body => performAll (perform fuel) body
    | .choose c a b => if (← eval fuel c).holds then perform fuel a else perform fuel b
    | .loop c body =>
      repeatWhile (return (← eval fuel c).holds) (perform fuel body) (return .onward) loopFuel
    | .loopAfter body c =>
      match ← perform fuel body with
      | .leave => return .onward
      | .back v => return .back v
      | _ =>
        repeatWhile (return (← eval fuel c).holds) (perform fuel body) (return .onward) loopFuel
    | .loopFrom first c step body =>
      let _ ← perform fuel first
      let test : Work Bool := match c with
        | none => return true
        | some c => return (← eval fuel c).holds
      repeatWhile test (perform fuel body) (perform fuel step) loopFuel
    | .forKeys v table body =>
      let n ← tableOf table
      modifyTable n Table.spelled
      let keys := ((← get).tables.getD n .empty).keys
      repeatFor (fun key => do
        storeVariable v (.text key)
        perform fuel body) keys
    | .next => throw .next
    | .nextFile => throw .nextFile
    | .exit e =>
      match e with
      | none => pure ()
      | some e =>
        let n := clampedInteger (← eval fuel e).toNumber
        modify fun s => { s with code := (n % 256).toNat }
      throw .exit
    | .back none => return .back .unset
    | .back (some e) => return .back (← eval fuel e)
    | .leave => return .leave
    | .again => return .again
    | .delete table keys =>
      let key ← keyOf (← keys.mapM (eval fuel))
      modifyTable (← tableOf table) (·.erase key)
      return .onward
    | .clear table =>
      modifyTable (← tableOf table) fun _ => .empty
      return .onward

end

/-! ## Rules -/

/-- How deep expressions and calls of functions are at most. -/
def depthFuel : Nat := 60000

/-- Performs the action of a rule; without one the record is printed. -/
def performAction (action : Option Stmt) : Work Unit := do
  let _ ← perform depthFuel (action.getD (.print [] .standard))

/-- The rule of a number is for the record. -/
def applies (number : Nat) (p : Pattern) : Work Bool := do
  match p with
  | .start | .finish => return false
  | .always => return true
  | .when e => return (← eval depthFuel e).holds
  | .between a b =>
    let running := (← get).active.contains number
    if running || (← eval depthFuel a).holds then
      let ends := (← eval depthFuel b).holds
      modify fun s => { s with
        active := (if ends then [] else [number]) ++ s.active.filter (· != number) }
      return true
    else return false

/-- Performs the rules that are for the record. -/
def performRules : (number : Nat) → List Rule → Work Unit
  | _, [] => return
  | number, r :: rest => do
    if ← applies number r.pattern then performAction r.action
    performRules (number + 1) rest

/-- Performs all rules for the record. -/
def handleRecord (rules : List Rule) : Work Unit := do
  try performRules 0 rules
  catch
    | .next => pure ()
    | .nextFile => modify fun s => { s with main := none }
    | h => throw h

/-- How many records are read at most. -/
def recordFuel : Nat := 10000000

/-- Performs the rules for all records that follow. -/
def handleRecords (rules : List Rule) : (fuel : Nat) → Work Unit
  | 0 => outside runOut
  | fuel + 1 => do
    match ← nextRecord with
    | none => return
    | some cs =>
      setRecord cs
      handleRecord rules
      handleRecords rules fuel

/-- The actions of the rules with a pattern. -/
def actionsOf (rules : List Rule) (p : Pattern → Bool) : List (Option Stmt) :=
  (rules.filter fun r => p r.pattern).map (·.action)

/-- Goes on behind the end of a part of the program; false if the run is over. -/
def part (body : Work Unit) : Work Bool := do
  try
    body
    return true
  catch
    | .fault => return false
    | _ => return true

/-- Performs all rules, in front of the records, for them, and behind them. -/
def runRules : Work Unit := do
  let rules := (← read).program.rules
  let starts := actionsOf rules fun
    | .start => true
    | _ => false
  let finishes := actionsOf rules fun
    | .finish => true
    | _ => false
  let others := rules.any fun r => match r.pattern with
    | .start => false
    | _ => true
  let goesOn ← part do
    starts.forM performAction
    if others then handleRecords rules recordFuel
  if goesOn then
    let _ ← part (finishes.forM performAction)
  finish

end MatrixFlow.Script.Record
