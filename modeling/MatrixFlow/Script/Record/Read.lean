import MatrixFlow.Script.Record.Lexeme
import MatrixFlow.Script.Record.Syntax

/-!
# Reading record programs

* `Reading`: what is left of a program, and the names that have been met.
* `readExpr`: an expression; `readStatement`: a statement; `readItem`: a rule or a function.
* `Program.ofText`: the program that a text is.
-/

namespace MatrixFlow.Script.Record

/-- How a name is used. -/
inductive NameKind where
  | unknown
  | variable
  | table
deriving DecidableEq, Repr

/-- A function whose name has been met. -/
structure KnownFunction where
  name : String
  /-- How many parameters it has, and its body, if it has been read. -/
  meaning : Option (Nat × Stmt)

/-- A use of a function: its number, how many values it is given, and the line. -/
structure FunctionUse where
  function : Nat
  count : Nat
  line : Nat

/-- What is left of a program, and what is known about it. -/
structure Reading where
  rest : Octets
  line : Nat
  names : Array (String × NameKind)
  functions : Array KnownFunction
  uses : List FunctionUse
  rules : List Rule
  /-- The parameters of the function that is read. -/
  params : Array (String × NameKind)
  inFunction : Bool
  /-- A rule for records is read. -/
  inRule : Bool
  /-- How many brackets, blocks and loops are open. -/
  brackets : Nat
  blocks : Nat
  loops : Nat
  /-- The sign for greater values stands for an output. -/
  printing : Bool

/-- A reader of programs. -/
abbrev Reader := StateT Reading (Except (Nat × ProgramFault))

/-- Stops at the line that is read. -/
def refuse {α : Type} (f : ProgramFault) : Reader α := do
  throw ((← get).line, f)

/-- The next piece, which is not taken. -/
def peek : Reader Lexeme := do
  match lexeme (← get).rest with
  | (.fault f, _) => refuse f
  | (l, _) => return l

/-- Takes the next piece. -/
def advance : Reader Unit :=
  modify fun s =>
    let (_, rest) := lexeme s.rest
    let taken := s.rest.take (s.rest.length - rest.length)
    { s with rest := rest, line := s.line + (taken.filter (· == '\n')).length }

/-- Stops because of the next piece. -/
def unexpected {α : Type} : Reader α := do
  let l ← peek
  let s ← get
  let closing := match l with
    | .newline | .ending => true
    | .sign t => t == ";" || t == "\x7d"
    | _ => false
  if closing && 0 < s.brackets then refuse (.openBracket l.near)
  match l with
  | .ending => if 0 < s.blocks then refuse .openBlock else refuse (.unexpected l.near)
  | .sign ")" =>
    if s.brackets = 0 then refuse (.extra ')' false) else refuse (.unexpected l.near)
  | .sign "\x7d" =>
    let ends := match lexeme (lexeme s.rest).2 with
      | (.newline, _) => true
      | _ => false
    if s.blocks = 0 then refuse (.extra '\x7d' ends) else refuse (.unexpected l.near)
  | _ => refuse (.unexpected l.near)

/-- Takes a sign if it comes next. -/
def takes (sign : String) : Reader Bool := do
  if (← peek).isSign sign then
    advance
    return true
  else return false

/-- Takes a sign that has to come next. -/
def expect (sign : String) : Reader Unit := do
  if !(← takes sign) then unexpected

/-- Takes the opening bracket. -/
def openBracket : Reader Unit := do
  expect "("
  modify fun s => { s with brackets := s.brackets + 1 }

/-- Takes the closing bracket. -/
def closeBracket : Reader Unit := do
  expect ")"
  modify fun s => { s with brackets := s.brackets - 1 }

/-- Passes over newlines. -/
def skipNewlines : (fuel : Nat) → Reader Unit
  | 0 => return
  | fuel + 1 => do
    match ← peek with
    | .newline =>
      advance
      skipNewlines fuel
    | _ => return

/-- Passes over all newlines. -/
def newlines : Reader Unit := do
  skipNewlines ((← get).rest.length + 1)

/-- Takes the end of a statement. A block may close behind it. -/
def endStatement : Reader Unit := do
  match ← peek with
  | .newline =>
    advance
    newlines
  | .sign ";" =>
    advance
    newlines
  | .sign "\x7d" => if (← get).blocks = 0 then unexpected
  | _ => unexpected

/-- A kind together with another one that was met before; nothing if they differ. -/
def NameKind.merge? : NameKind → NameKind → Option NameKind
  | .unknown, k => some k
  | k, .unknown => some k
  | a, b => if a = b then some a else none

/-- A kind in words. -/
def NameKind.text : NameKind → String
  | .table => "array"
  | _ => "variable"

/-- Where the variable of a name stands, which is used in a certain way. -/
def slot (name : String) (kind : NameKind) : Reader Slot := do
  let s ← get
  match s.params.findIdx? fun (n, _) => n == name with
  | some i =>
    let known := (s.params.getD i (name, .unknown)).2
    match known.merge? kind with
    | some k =>
      set { s with params := s.params.setIfInBounds i (name, k) }
      return .own i
    | none => refuse (.kind ("local " ++ known.text) name)
  | none =>
    match s.names.findIdx? fun (n, _) => n == name with
    | some i =>
      let known := (s.names.getD i (name, .unknown)).2
      match known.merge? kind with
      | some k =>
        set { s with names := s.names.setIfInBounds i (name, k) }
        return .shared i
      | none => refuse (.kind known.text name)
    | none =>
      set { s with names := s.names.push (name, kind) }
      return .shared s.names.size

/-- The number of the function of a name. -/
def functionNumber (name : String) : Reader Nat := do
  let s ← get
  match s.functions.findIdx? fun f => f.name == name with
  | some i => return i
  | none =>
    set { s with functions := s.functions.push ⟨name, none⟩ }
    return s.functions.size

/-- The expression of a text. -/
def regexOf (cs : Octets) : Reader Regex :=
  match Regex.ofText .record cs with
  | .ok r => return r
  | .error f => refuse (.badRegex f cs)

/-- The expression that follows up to its slash. -/
def readRegex : Reader Regex := do
  let s ← get
  let body := (skipBlanks s.rest).drop 1
  match regexPart? .outside body with
  | none => refuse (.openRegex (body.takeWhile (· != '\n')))
  | some (cs, rest) =>
    set { s with rest := rest }
    regexOf cs

/-- The operator of a sign that assigns. -/
def assignment? : Lexeme → Option (Option Operator)
  | .sign "=" => some none
  | .sign "+=" => some (some .add)
  | .sign "-=" => some (some .subtract)
  | .sign "*=" => some (some .multiply)
  | .sign "/=" => some (some .divide)
  | .sign "%=" => some (some .remainder)
  | .sign "^=" => some (some .power)
  | _ => none

/-- The relation of a sign; where something is printed, one of them stands for an output. -/
def relation? (printing : Bool) : Lexeme → Option Relation
  | .sign "<" => some .less
  | .sign "<=" => some .lessOrEqual
  | .sign "==" => some .equal
  | .sign "!=" => some .notEqual
  | .sign ">" => if printing then none else some .greater
  | .sign ">=" => some .greaterOrEqual
  | _ => none

/-- What adds or subtracts. -/
def sumOperator? : Lexeme → Option Operator
  | .sign "+" => some .add
  | .sign "-" => some .subtract
  | _ => none

/-- What multiplies or divides. -/
def productOperator? : Lexeme → Option Operator
  | .sign "*" => some .multiply
  | .sign "/" => some .divide
  | .sign "%" => some .remainder
  | _ => none

/-- The function of a name that takes nothing but values. -/
def plainBuiltin? : String → Option Builtin
  | "atan2" => some .atan2
  | "close" => some .close
  | "cos" => some .cos
  | "exp" => some .exp
  | "fflush" => some .flush
  | "index" => some .index
  | "int" => some .int
  | "length" => some .length
  | "log" => some .log
  | "match" => some .matching
  | "rand" => some .random
  | "sin" => some .sin
  | "sprintf" => some .sprintf
  | "sqrt" => some .sqrt
  | "srand" => some .seed
  | "substr" => some .substr
  | "system" => some .system
  | "tolower" => some .lower
  | "toupper" => some .upper
  | _ => none

/-- A variable by itself, which may be used in any way. -/
def loneName? : Reader (Option String) := do
  let s ← get
  match lexeme s.rest with
  | (.name name false, rest) =>
    match lexeme rest with
    | (.sign ")", _) | (.sign ",", _) => return some name
    | _ => return none
  | _ => return none

/-- The names in the head of a loop over the keys of a table. -/
def keyLoop? : Reader (Option (String × String)) := do
  let s ← get
  match lexeme s.rest with
  | (.name v _, rest) =>
    match lexeme rest with
    | (.word "in", rest) =>
      match lexeme rest with
      | (.name table _, rest) =>
        match lexeme rest with
        | (.sign ")", rest) =>
          set { s with rest := rest, brackets := s.brackets - 1 }
          return some (v, table)
        | _ => return none
      | _ => return none
    | _ => return none
  | _ => return none

/-- Reads something in brackets, where signs have their usual meaning. -/
def inBrackets {α : Type} (read : Reader α) : Reader α := do
  let printing := (← get).printing
  openBracket
  modify fun s => { s with printing := false }
  let a ← read
  closeBracket
  modify fun s => { s with printing := printing }
  return a

/-- What a text or an expression stands for in a match. -/
def asPattern (e : Expr) : Reader Expr := do
  match e with
  | .text cs => return .regex (← regexOf cs)
  | e => return e

/-! ## Expressions -/

mutual

/-- An expression. -/
def readExpr (fuel : Nat) : Reader Expr :=
  match fuel with
  | 0 => unexpected
  | fuel + 1 => do
    let c ← readEither fuel
    if ← takes "?" then
      newlines
      let a ← readExpr fuel
      newlines
      expect ":"
      newlines
      return .choose c a (← readExpr fuel)
    return c

/-- Alternatives. -/
def readEither (fuel : Nat) : Reader Expr :=
  match fuel with
  | 0 => unexpected
  | fuel + 1 => do moreEither fuel (← readBoth fuel)

/-- Further alternatives. -/
def moreEither (fuel : Nat) (a : Expr) : Reader Expr :=
  match fuel with
  | 0 => return a
  | fuel + 1 => do
    if ← takes "||" then
      newlines
      moreEither fuel (.either a (← readBoth fuel))
    else return a

/-- Conditions that all hold. -/
def readBoth (fuel : Nat) : Reader Expr :=
  match fuel with
  | 0 => unexpected
  | fuel + 1 => do moreBoth fuel (← readMember fuel)

/-- Further conditions. -/
def moreBoth (fuel : Nat) (a : Expr) : Reader Expr :=
  match fuel with
  | 0 => return a
  | fuel + 1 => do
    if ← takes "&&" then
      newlines
      moreBoth fuel (.both a (← readMember fuel))
    else return a

/-- A key and the tables that are asked for it. -/
def readMember (fuel : Nat) : Reader Expr :=
  match fuel with
  | 0 => unexpected
  | fuel + 1 => do moreMember fuel (← readMatching fuel)

/-- Further tables. -/
def moreMember (fuel : Nat) (a : Expr) : Reader Expr :=
  match fuel with
  | 0 => return a
  | fuel + 1 => do
    if (← peek).isWord "in" then
      advance
      moreMember fuel (.member [a] (← readTable))
    else return a

/-- A text and the expressions that it is matched against. -/
def readMatching (fuel : Nat) : Reader Expr :=
  match fuel with
  | 0 => unexpected
  | fuel + 1 => do moreMatching fuel (← readRelation fuel)

/-- Further expressions. -/
def moreMatching (fuel : Nat) (a : Expr) : Reader Expr :=
  match fuel with
  | 0 => return a
  | fuel + 1 => do
    if ← takes "~" then moreMatching fuel (.matching false a (← asPattern (← readRelation fuel)))
    else if ← takes "!~" then moreMatching fuel (.matching true a (← asPattern (← readRelation fuel)))
    else return a

/-- Values that are compared. -/
def readRelation (fuel : Nat) : Reader Expr :=
  match fuel with
  | 0 => unexpected
  | fuel + 1 => do moreRelation fuel (← readJoined fuel)

/-- Further values that are compared. -/
def moreRelation (fuel : Nat) (a : Expr) : Reader Expr :=
  match fuel with
  | 0 => return a
  | fuel + 1 => do
    match relation? (← get).printing (← peek) with
    | some r =>
      advance
      moreRelation fuel (.compare r a (← readJoined fuel))
    | none => return a

/-- Values one after the other, or an assignment. -/
def readJoined (fuel : Nat) : Reader Expr :=
  match fuel with
  | 0 => unexpected
  | fuel + 1 => do
    let a ← readSum fuel
    match a, assignment? (← peek) with
    | .place p, some op =>
      advance
      newlines
      return .assign p op (← readExpr fuel)
    | _, _ => moreJoined fuel a

/-- Further values one after the other. -/
def moreJoined (fuel : Nat) (a : Expr) : Reader Expr :=
  match fuel with
  | 0 => return a
  | fuel + 1 => do
    if (← peek).beginsValue then moreJoined fuel (.join a (← readSum fuel))
    else return a

/-- A sum. -/
def readSum (fuel : Nat) : Reader Expr :=
  match fuel with
  | 0 => unexpected
  | fuel + 1 => do moreSum fuel (← readProduct fuel)

/-- Further parts of a sum. -/
def moreSum (fuel : Nat) (a : Expr) : Reader Expr :=
  match fuel with
  | 0 => return a
  | fuel + 1 => do
    match sumOperator? (← peek) with
    | some op =>
      advance
      moreSum fuel (.compute op a (← readProduct fuel))
    | none => return a

/-- A product. -/
def readProduct (fuel : Nat) : Reader Expr :=
  match fuel with
  | 0 => unexpected
  | fuel + 1 => do moreProduct fuel (← readSigned fuel)

/-- Further parts of a product. -/
def moreProduct (fuel : Nat) (a : Expr) : Reader Expr :=
  match fuel with
  | 0 => return a
  | fuel + 1 => do
    match productOperator? (← peek) with
    | some op =>
      advance
      moreProduct fuel (.compute op a (← readSigned fuel))
    | none => return a

/-- A value with signs in front of it. -/
def readSigned (fuel : Nat) : Reader Expr :=
  match fuel with
  | 0 => unexpected
  | fuel + 1 => do
    if ← takes "!" then return .not (← readSigned fuel)
    else if ← takes "-" then return .negative (← readSigned fuel)
    else if ← takes "+" then return .positive (← readSigned fuel)
    else moreCommand fuel (← readPower fuel)

/-- A value that may be a command whose output is read. -/
def moreCommand (fuel : Nat) (a : Expr) : Reader Expr :=
  match fuel with
  | 0 => return a
  | fuel + 1 => do
    if (← get).printing || !(← peek).isSign "|" then return a
    advance
    if !(← peek).isWord "getline" then unexpected
    advance
    moreCommand fuel (.readCommand a (← readTarget fuel))

/-- A power. -/
def readPower (fuel : Nat) : Reader Expr :=
  match fuel with
  | 0 => unexpected
  | fuel + 1 => do
    let a ← readCounted fuel
    if ← takes "^" then return .compute .power a (← readExponent fuel)
    return a

/-- What stands behind the sign of a power. -/
def readExponent (fuel : Nat) : Reader Expr :=
  match fuel with
  | 0 => unexpected
  | fuel + 1 => do
    if ← takes "-" then return .negative (← readExponent fuel)
    else if ← takes "+" then return .positive (← readExponent fuel)
    else if ← takes "!" then return .not (← readExponent fuel)
    else readPower fuel

/-- A value that may be counted up or down behind. -/
def readCounted (fuel : Nat) : Reader Expr :=
  match fuel with
  | 0 => unexpected
  | fuel + 1 => do
    let a ← readOperand fuel
    match a with
    | .place p =>
      if ← takes "++" then return .count p true true
      else if ← takes "\x2d\x2d" then return .count p false true
      else return a
    | _ => return a

/-- A single value. -/
def readOperand (fuel : Nat) : Reader Expr :=
  match fuel with
  | 0 => unexpected
  | fuel + 1 => do
    match ← peek with
    | .number x _ =>
      advance
      return .number x
    | .text cs =>
      advance
      return .text cs
    | .sign "/" | .sign "/=" => return .regex (← readRegex)
    | .sign "(" =>
      let keys ← inBrackets (readExprs fuel)
      match keys with
      | [e] =>
        match e with
        -- In brackets, something that could be given a value is only a value.
        | .place _ => if (assignment? (← peek)).isSome then unexpected else return e
        | _ => return e
      | _ =>
        if !(← peek).isWord "in" then unexpected
        advance
        return .member keys (← readTable)
    | .sign "$" =>
      advance
      return .place (.field (← readIndex fuel))
    | .sign "++" =>
      advance
      return .count (← readPlace fuel) true false
    | .sign "\x2d\x2d" =>
      advance
      return .count (← readPlace fuel) false false
    | .name name called =>
      advance
      let s ← get
      let known := s.functions.any fun f => f.name == name && f.meaning.isSome
      let bracket := (← peek).isSign "("
      if called || (known && bracket) then
        let line := s.line
        let args ← inBrackets (readArguments fuel)
        let number ← functionNumber name
        modify fun s => { s with uses := ⟨number, args.length, line⟩ :: s.uses }
        return .call number args
      else if known then unexpected
      else if ← takes "[" then
        let keys ← readKeys fuel
        return .place (.element (← slot name .table) keys)
      else return .place (.variable (← slot name .variable))
    | .builtin name => readBuiltin fuel name
    | .word "getline" =>
      advance
      let target ← readTarget fuel
      if ← takes "<" then return .readFile (← readPower fuel) target
      else return .read target
    | _ => unexpected

/-- The number of a field. -/
def readIndex (fuel : Nat) : Reader Expr :=
  match fuel with
  | 0 => unexpected
  | fuel + 1 => do
    if ← takes "-" then return .negative (← readIndex fuel)
    else if ← takes "+" then return .positive (← readIndex fuel)
    else if ← takes "!" then return .not (← readIndex fuel)
    else readOperand fuel

/-- What a record is read into, if that is said. -/
def readTarget (fuel : Nat) : Reader (Option Place) :=
  match fuel with
  | 0 => unexpected
  | fuel + 1 => do
    match ← peek with
    | .sign "$" => return some (← readPlace fuel)
    | .name _ false => return some (← readPlace fuel)
    | _ => return none

/-- Something that can be given a value. -/
def readPlace (fuel : Nat) : Reader Place :=
  match fuel with
  | 0 => unexpected
  | fuel + 1 => do
    match ← peek with
    | .sign "$" | .name .. =>
      match ← readOperand fuel with
      | .place p => return p
      | _ => unexpected
    | _ => unexpected

/-- Expressions with commas between them. -/
def readExprs (fuel : Nat) : Reader (List Expr) :=
  match fuel with
  | 0 => unexpected
  | fuel + 1 => do
    let e ← readExpr fuel
    if ← takes "," then
      newlines
      return e :: (← readExprs fuel)
    else return [e]

/-- The values for a function; a name by itself may be that of a table. -/
def readArguments (fuel : Nat) : Reader (List Expr) :=
  match fuel with
  | 0 => unexpected
  | fuel + 1 => do
    newlines
    if (← peek).isSign ")" then return []
    let e ← match ← loneName? with
      | some name =>
        advance
        pure (.place (.variable (← slot name .unknown)))
      | none => readExpr fuel
    if ← takes "," then
      newlines
      if (← peek).isSign ")" then unexpected
      return e :: (← readArguments fuel)
    else return [e]

/-- The keys of an element up to the bracket. -/
def readKeys (fuel : Nat) : Reader (List Expr) :=
  match fuel with
  | 0 => unexpected
  | fuel + 1 => do
    let s ← get
    set { s with printing := false, brackets := 0 }
    let keys ← readExprs fuel
    expect "]"
    modify fun t => { t with printing := s.printing, brackets := s.brackets }
    return keys

/-- A name that stands for a table. -/
def readTable : Reader Slot := do
  match ← peek with
  | .name name _ =>
    advance
    slot name .table
  | _ => unexpected

/-- A function that every program knows, with its values. -/
def readBuiltin (fuel : Nat) (name : String) : Reader Expr :=
  match fuel with
  | 0 => unexpected
  | fuel + 1 => do
    advance
    match name with
    | "split" =>
      inBrackets do
        let e ← readExpr fuel
        if !(← takes ",") then refuse (.argumentCount name)
        newlines
        let table ← readTable
        if ← takes "," then
          newlines
          return .split e table (some (← readExpr fuel))
        else return .split e table none
    | "sub" | "gsub" =>
      inBrackets do
        let pattern ← asPattern (← readExpr fuel)
        if !(← takes ",") then refuse (.argumentCount name)
        newlines
        let replacement ← readExpr fuel
        let p ← if ← takes "," then
            newlines
            readPlace fuel
          else pure (.field (.number 0.0))
        return .substitute (name == "gsub") pattern replacement p
    | "length" =>
      if !(← peek).isSign "(" then return .apply .length []
      inBrackets do
        if (← peek).isSign ")" then return .apply .length []
        match ← loneName? with
        | some v =>
          advance
          return .size (← slot v .unknown)
        | none => return .apply .length [← readExpr fuel]
    | _ =>
      let args ← inBrackets do
        if (← peek).isSign ")" then return []
        readExprs fuel
      let (least, most) := ((builtins.find? fun (n, _) => n == name).map (·.2)).getD (0, 0)
      if args.length < least || most < args.length then refuse (.argumentCount name)
      match plainBuiltin? name, args with
      | some .matching, [a, b] => return .apply .matching [a, ← asPattern b]
      | some b, args => return .apply b args
      | none, _ => unexpected

end

/-! ## Statements -/

/-- What is printed, all of it in brackets. -/
def readGrouped (fuel : Nat) : Reader (List Expr) := do
  let args ← inBrackets (readExprs fuel)
  match ← peek with
  | .sign ">" | .sign ">>" | .sign "|" => return args
  | l => if l.endsStatement then return args else unexpected

/-- What is printed. -/
def readPrinted (fuel : Nat) : Reader (List Expr) := do
  let l ← peek
  if l.isSign "(" then
    try readGrouped fuel catch _ => readExprs fuel
  else match l with
    | .sign ">" | .sign ">>" | .sign "|" => return []
    | l => if l.endsStatement then return [] else readExprs fuel

/-- Where something is printed. -/
def readSink (fuel : Nat) : Reader Sink := do
  if ← takes ">" then return .file (← readExpr fuel)
  else if ← takes ">>" then return .append (← readExpr fuel)
  else if ← takes "|" then return .command (← readExpr fuel)
  else return .standard

/-- What is printed and where. -/
def readPrint (fuel : Nat) : Reader (List Expr × Sink) := do
  modify fun s => { s with printing := true }
  let args ← readPrinted fuel
  let sink ← readSink fuel
  modify fun s => { s with printing := false }
  return (args, sink)

/-- An expression if one stands in front of the end of the statement. -/
def readOptional (fuel : Nat) : Reader (Option Expr) := do
  if (← peek).endsStatement then return none
  return some (← readExpr fuel)

/-- Reads the body of a loop. -/
def inLoop {α : Type} (read : Reader α) : Reader α := do
  modify fun s => { s with loops := s.loops + 1 }
  let a ← read
  modify fun s => { s with loops := s.loops - 1 }
  return a

/-- A statement that ends where its line does. -/
def readSimple (fuel : Nat) : Reader Stmt := do
  let s ← get
  match ← peek with
  | .word "print" =>
    advance
    let (args, sink) ← readPrint fuel
    return .print args sink
  | .word "printf" =>
    advance
    let (args, sink) ← readPrint fuel
    if args.isEmpty then refuse (.noArguments "printf")
    return .printf args sink
  | .word "next" =>
    if !s.inRule && !s.inFunction then refuse (.misplaced "next")
    advance
    return .next
  | .word "nextfile" =>
    if !s.inRule && !s.inFunction then refuse (.misplaced "nextfile")
    advance
    return .nextFile
  | .word "exit" =>
    advance
    return .exit (← readOptional fuel)
  | .word "return" =>
    if !s.inFunction then refuse .outsideFunction
    advance
    return .back (← readOptional fuel)
  | .word "break" =>
    if s.loops = 0 then refuse (.outsideLoop "break")
    advance
    return .leave
  | .word "continue" =>
    if s.loops = 0 then refuse (.outsideLoop "continue")
    advance
    return .again
  | .word "delete" =>
    advance
    let table ← readTable
    if ← takes "[" then return .delete table (← readKeys fuel)
    return .clear table
  | _ => return .expr (← readExpr fuel)

mutual

/-- A statement. -/
def readStatement (fuel : Nat) : Reader Stmt :=
  match fuel with
  | 0 => unexpected
  | fuel + 1 => do
    match ← peek with
    | .sign "\x7b" => readBlock fuel
    | .sign ";" | .newline =>
      endStatement
      return .nothing
    | .word "if" =>
      advance
      let c ← inBrackets (readExpr fuel)
      newlines
      let a ← readStatement fuel
      if (← peek).isWord "else" then
        advance
        newlines
        return .choose c a (← readStatement fuel)
      else return .choose c a .nothing
    | .word "while" =>
      advance
      let c ← inBrackets (readExpr fuel)
      newlines
      return .loop c (← inLoop (readStatement fuel))
    | .word "do" =>
      advance
      newlines
      let body ← inLoop (readStatement fuel)
      if !(← peek).isWord "while" then unexpected
      advance
      let c ← inBrackets (readExpr fuel)
      endStatement
      return .loopAfter body c
    | .word "for" =>
      advance
      openBracket
      match ← keyLoop? with
      | some (v, table) =>
        newlines
        let v ← slot v .variable
        let table ← slot table .table
        return .forKeys v table (← inLoop (readStatement fuel))
      | none =>
        let first ← if (← peek).isSign ";" then pure .nothing else readSimple fuel
        expect ";"
        newlines
        let c ← if (← peek).isSign ";" then pure none else pure (some (← readExpr fuel))
        expect ";"
        newlines
        let step ← if (← peek).isSign ")" then pure .nothing else readSimple fuel
        closeBracket
        newlines
        return .loopFrom first c step (← inLoop (readStatement fuel))
    | _ =>
      let stmt ← readSimple fuel
      endStatement
      return stmt

/-- The statements of a block up to its end. -/
def readBody (fuel : Nat) : Reader (List Stmt) :=
  match fuel with
  | 0 => unexpected
  | fuel + 1 => do
    match ← peek with
    | .sign "\x7d" => return []
    | .ending => unexpected
    | _ =>
      let stmt ← readStatement fuel
      return stmt :: (← readBody fuel)

/-- A block. -/
def readBlock (fuel : Nat) : Reader Stmt :=
  match fuel with
  | 0 => unexpected
  | fuel + 1 => do
    expect "\x7b"
    modify fun s => { s with blocks := s.blocks + 1 }
    newlines
    let body ← readBody fuel
    expect "\x7d"
    modify fun s => { s with blocks := s.blocks - 1 }
    newlines
    return .block body

end

/-! ## Programs -/

/-- The parameters of a function. -/
def readParams : (fuel : Nat) → Reader (List String)
  | 0 => unexpected
  | fuel + 1 => do
    match ← peek with
    | .name name _ =>
      advance
      if ← takes "," then
        newlines
        return name :: (← readParams fuel)
      else return [name]
    | _ => unexpected

/-- A function behind its word. -/
def readFunction (fuel : Nat) : Reader Unit := do
  match ← peek with
  | .name name _ =>
    advance
    expect "("
    let params ← if (← peek).isSign ")" then pure [] else readParams fuel
    expect ")"
    newlines
    match params.find? fun p => 1 < params.count p with
    | some p => refuse (.duplicate p)
    | none => pure ()
    let number ← functionNumber name
    -- The name is known in its own body.
    let meaning (body : Stmt) : KnownFunction := ⟨name, some (params.length, body)⟩
    modify fun s => { s with
      functions := s.functions.setIfInBounds number (meaning .nothing)
      params := (params.map fun p => (p, NameKind.unknown)).toArray
      inFunction := true }
    let body ← readBlock fuel
    modify fun s => { s with
      functions := s.functions.setIfInBounds number (meaning body), params := #[]
      inFunction := false }
  | _ => unexpected

/-- A rule is known. -/
def addRule (pattern : Pattern) (action : Option Stmt) : Reader Unit :=
  modify fun s => { s with rules := s.rules ++ [⟨pattern, action⟩], inRule := false }

/-- A rule or a function. -/
def readItem (fuel : Nat) : Reader Unit := do
  match ← peek with
  | .word "BEGIN" =>
    advance
    addRule .start (some (← readBlock fuel))
  | .word "END" =>
    advance
    addRule .finish (some (← readBlock fuel))
  | .word "function" =>
    advance
    readFunction fuel
  | l =>
    modify fun s => { s with inRule := true }
    if l.isSign "\x7b" then addRule .always (some (← readBlock fuel))
    else
      let a ← readExpr fuel
      let pattern ← if ← takes "," then
          newlines
          pure (.between a (← readExpr fuel))
        else pure (.when a)
      if (← peek).isSign "\x7b" then addRule pattern (some (← readBlock fuel))
      else
        endStatement
        addRule pattern none

/-- All rules and functions that follow. -/
def readItems : (fuel : Nat) → Reader Unit
  | 0 => unexpected
  | fuel + 1 => do
    match ← peek with
    | .ending => return
    | .newline | .sign ";" =>
      advance
      readItems fuel
    | _ =>
      readItem fuel
      readItems fuel

/-- The functions of a program, all of which have to be there. -/
def finishFunctions : Reader (Array Function) := do
  let s ← get
  let functions ← s.functions.mapM fun f => do
    match f.meaning with
    | some (params, body) => return (⟨f.name, params, body⟩ : Function)
    | none => refuse (.undefined f.name)
  match s.uses.reverse.find? fun u => (functions[u.function]?).any fun f => f.params < u.count with
  | some u => throw (u.line, .manyArguments ((functions[u.function]?.map (·.name)).getD ""))
  | none => return functions

/-- The kinds of the variables with a meaning. -/
def specialNames : Array (String × NameKind) :=
  Special.names.map fun name =>
    (name, if name == "ENVIRON" || name == "ARGV" then .table else .variable)

/-- The program that a text is, or the line where it cannot be read. -/
def Program.ofText (cs : Octets) : Except (Nat × ProgramFault) Program :=
  let start : Reading :=
    { rest := cs ++ ['\n'], line := 1, names := specialNames, functions := #[], uses := []
      rules := [], params := #[], inFunction := false, inRule := false, brackets := 0
      blocks := 0, loops := 0, printing := false }
  let read : Reader Program := do
    readItems (12 * cs.length + 64)
    let functions ← finishFunctions
    let s ← get
    return ⟨s.names.map (·.1), functions, s.rules⟩
  match read.run start with
  | .ok (program, _) => .ok program
  | .error f => .error f

end MatrixFlow.Script.Record
