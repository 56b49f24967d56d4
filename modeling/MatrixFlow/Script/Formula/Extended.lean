import MatrixFlow.Script.Arithmetic

/-!
# Formulas of the extended dialect

A formula is read one token after the other while it is computed. Behind a name, the next token is
looked at before the name gets its value; a fault is told with the token that was looked at last.
The value of a variable may be a formula itself.

* `FormulaToken`: what a formula consists of.
* `extendedFormula`: the value of a formula, and what it changes.
-/

namespace MatrixFlow.Script

/-- What a formula consists of. -/
inductive FormulaToken where
  | ending
  | number
  /-- A variable or an element of one. -/
  | name
  | sign (text : String)
  /-- A sign with an equals sign, which changes a variable. -/
  | change (text : String)
  /-- A variable is counted up or down before it is used. -/
  | before (amount : Int)
  /-- The same, after it has been used. -/
  | after (amount : Int)
deriving DecidableEq, Repr

/-- A formula of the extended dialect that is being computed. -/
structure ExtendedFormula where
  whole : Octets
  rest : Octets
  /-- The formula from the token on that was looked at last. -/
  start : Octets
  token : FormulaToken
  /-- The token in front of it. -/
  previous : FormulaToken
  /-- The variable that was named last. -/
  place : Place
  /-- The value of the token. -/
  value : Int
  /-- Nothing counts here: variables have no values, and keep what they hold. -/
  idle : Bool
  /-- How many values of variables are being computed. -/
  depth : Nat
  /-- What has been changed, the last first. -/
  changed : List (Place × Int)

/-- A part of a computation in the extended dialect. -/
abbrev ExtendedCompute := ReaderT FormulaScope (StateT ExtendedFormula (Except FormulaFault))

namespace ExtendedFormula

/-- A formula of which nothing has been read. -/
def ofText (cs : Octets) : ExtendedFormula :=
  { whole := cs, rest := cs, start := [], token := .ending, previous := .ending
    place := ⟨"", none⟩, value := 0, idle := false, depth := 0, changed := [] }

/-- Fails in the formula, at the token that was looked at last. -/
def fail {α : Type} (cause : FormulaCause) : ExtendedCompute α := do
  let s ← get
  throw ⟨cause, s.whole, s.start⟩

/-- The formula up to a place, at the end of which a fault is told. -/
def failBefore {α : Type} (cause : FormulaCause) (rest : Octets) : ExtendedCompute α := do
  let s ← get
  throw ⟨cause, s.whole.take (s.whole.length - rest.length),
    s.start.take (s.start.length - rest.length)⟩

/-- The value of a digit in bases up to 64. -/
def digit (base : Nat) (c : Char) : Nat :=
  if c.isDigit then c.toNat - '0'.toNat
  else if c.isLower then c.toNat - 'a'.toNat + 10
  else if c.isUpper then c.toNat - 'A'.toNat + (if base ≤ 36 then 10 else 36)
  else if c == '@' then 62
  else 63

/-- The number of digits, in a base that the text may give itself. `given` tells that there is a
base, `value` is the number so far. -/
def numeral (given : Bool) (base : Nat) (value : Int) : Octets → Except FormulaCause Int
  | [] => .ok value
  | '#' :: r =>
    if given then .error .badNumber
    else if value < 2 || 64 < value then .error .badBase
    else if r.isEmpty || r.head? == some '#' then .error .digitMissing
    else numeral true value.toNat 0 r
  | c :: r =>
    let d := digit base c
    if base ≤ d then .error .digitTooGreat
    else numeral given base (wrap64 (value * base + d)) r

/-- The number that a text of digits and letters is. -/
def number (cs : Octets) : Except FormulaCause Int :=
  match cs with
  | ['0'] => .ok 0
  | '0' :: x :: r =>
    if x == 'x' || x == 'X' then numeral true 16 0 r else numeral true 8 0 (x :: r)
  | cs => numeral false 10 0 cs

/-- The signs of several characters, without those that change or count. -/
def longSigns : List String :=
  ["==", "!=", ">=", "<=", "<<", ">>", "&&", "||", "**"]

/-- The signs of one character. -/
def isSign (c : Char) : Bool := "=><+-*/%!()&|^~?:,".toList.contains c

/-- The sign that begins here, and its length. -/
def sign? (token previous : FormulaToken) (cs : Octets) :
    Except FormulaCause (FormulaToken × Nat) :=
  let change := ["<<", ">>"].find? fun s => Text.startsWith (s.toList ++ ['=']) cs
  match change, longSigns.find? fun s => Text.startsWith s.toList cs with
  | some s, _ => .ok (.change s, 3)
  | none, some s => .ok (.sign s, 2)
  | none, none =>
    match cs with
    | [] => .ok (.ending, 0)
    | c :: r =>
      let counts := (c == '+' || c == '-') && r.head? == some c
      let amount : Int := if c == '+' then 1 else -1
      if counts && token == .name then .ok (.after amount, 2)
      else if counts && token == .number && isBefore previous then
        .error (.signNeedsVariable (String.ofList [c, c]))
      else if counts then
        if ((r.drop 1).dropWhile isBlankHere).head?.any isNameStart then .ok (.before amount, 2)
        else .ok (.sign c.toString, 1)
      else if r.head? == some '=' && "*/%+-&^|".toList.contains c then
        .ok (.change c.toString, 2)
      else if isSign c then .ok (.sign c.toString, 1)
      else match token with
        | .name | .number => .error .notOperator
        | _ => .error .operandMissing
where
  /-- The token counts a variable up or down. -/
  isBefore : FormulaToken → Bool
    | .before _ => true
    | _ => false

/-- Changes the variable that was named, if that counts. -/
def put (place : Place) (value : Int) : ExtendedCompute Unit :=
  modify fun s => if s.idle then s else { s with changed := (place, value) :: s.changed }

/-- The signs between two operands, by their ranks. -/
def signsAt : Nat → List String
  | 1 => ["||"]
  | 2 => ["&&"]
  | 3 => ["|"]
  | 4 => ["^"]
  | 5 => ["&"]
  | 6 => ["==", "!="]
  | 7 => ["<=", ">=", "<", ">"]
  | 8 => ["<<", ">>"]
  | 9 => ["+", "-"]
  | 10 => ["*", "/", "%"]
  | _ => []

/-- How many values of variables may be computed within each other. -/
def deepest : Nat := 1024

mutual

/-- Reads the next token. -/
def next (fuel : Nat) : ExtendedCompute Unit :=
  match fuel with
  | 0 => fail .tooDeep
  | fuel + 1 => do
    let s ← get
    let cs := s.rest.dropWhile isBlankHere
    if !cs.isEmpty then modify fun s => { s with start := cs }
    if cs.head?.any isNameStart then nextName fuel cs
    else if cs.head?.any Char.isDigit then
      let text := cs.takeWhile fun c => isNameRest c || c == '#' || c == '@'
      let rest := cs.drop text.length
      match number text with
      | .error cause => failBefore cause rest
      | .ok value =>
        modify fun s =>
          { s with rest := rest, previous := s.token, token := .number, value := value }
    else match sign? s.token s.previous cs with
      | .error cause => fail cause
      | .ok (token, n) =>
        modify fun s => { s with rest := cs.drop n, previous := s.token, token := token }

/-- Reads a name, and gives it its value unless it is given another one at once. -/
def nextName (fuel : Nat) (cs : Octets) : ExtendedCompute Unit :=
  match fuel with
  | 0 => fail .tooDeep
  | fuel + 1 => do
    let s ← get
    let name := cs.takeWhile isNameRest
    let after := cs.drop name.length
    let (index, rest) ← match after with
      | '[' :: r =>
        match takeIndex 0 r with
        | some (inner, rest) => pure (some inner, rest)
        | none => failBefore .badIndex after
      | _ => pure (none, after)
    let following ← peek fuel rest
    let counted := match s.previous with
      | .before _ => true
      | _ => false
    let key ← match index with
      | none => pure none
      | some inner =>
        if s.idle then pure none
        else if (← read).isNamed (String.ofList name) then
          pure (some (Key.name (inner.filter fun c => c != '\x22' && c != '\x27')))
        else (fun n => some (Key.number n)) <$> within fuel inner
    let place : Place := ⟨String.ofList name, key⟩
    let wanted := !s.idle && (counted || following != .sign "=")
    let value ← if wanted then valueOf fuel place else pure 0
    modify fun s =>
      { s with rest := rest, previous := s.token, token := .name, place := place, value := value }

/-- The token behind a name, which is only looked at. -/
def peek (fuel : Nat) (rest : Octets) : ExtendedCompute FormulaToken :=
  match fuel with
  | 0 => fail .tooDeep
  | fuel + 1 => do
    let s ← get
    set { s with rest := rest, idle := true, previous := s.token, token := .name }
    next fuel
    let seen ← get
    set { s with start := seen.start }
    return seen.token

/-- The value of a variable; a missing one is zero. -/
def valueOf (fuel : Nat) (place : Place) : ExtendedCompute Int :=
  match fuel with
  | 0 => fail .tooDeep
  | fuel + 1 => do
    match (← get).changed.find? fun (k, _) => k == place with
    | some (_, value) => return value
    | none =>
      let scope ← read
      match scope.lookup place with
      | some text => within fuel text
      | none =>
        if scope.needsValues then throw ⟨.unbound, octetsOf place.name, []⟩ else return 0
where
  /-- A name as bytes. -/
  octetsOf (name : String) : Octets := name.toList

/-- The value of a formula within the formula. -/
def within (fuel : Nat) (cs : Octets) : ExtendedCompute Int :=
  match fuel with
  | 0 => fail .tooDeep
  | fuel + 1 => do
    let outer ← get
    if (cs.dropWhile isBlankHere).isEmpty then return 0
    if deepest ≤ outer.depth + 1 then fail .tooDeep
    let inner := ofText (cs.dropWhile isBlankHere)
    set { inner with depth := outer.depth + 1, changed := outer.changed }
    let value ← computeWhole fuel
    let changed := (← get).changed
    set { outer with changed := changed }
    return value

/-- A formula to its end. -/
def computeWhole (fuel : Nat) : ExtendedCompute Int :=
  match fuel with
  | 0 => fail .tooDeep
  | fuel + 1 => do
    next fuel
    let value ← computeList fuel
    if (← get).token != .ending then fail .leftOver
    return value

/-- Formulas with commas between them; the last one counts. -/
def computeList (fuel : Nat) : ExtendedCompute Int :=
  match fuel with
  | 0 => fail .tooDeep
  | fuel + 1 => do
    let value ← computeChange fuel
    if (← get).token = .sign "," then
      next fuel
      computeList fuel
    else return value

/-- A formula that may change a variable. -/
def computeChange (fuel : Nat) : ExtendedCompute Int :=
  match fuel with
  | 0 => fail .tooDeep
  | fuel + 1 => do
    let old ← computeChoice fuel
    let s ← get
    let op := match s.token with
      | .sign "=" => some ""
      | .change sign => some sign
      | _ => none
    match op with
    | none => return old
    | some sign =>
      if s.previous != .name then fail .notVariable
      next fuel
      let given ← computeChange fuel
      let idle := (← get).idle
      if isDividing sign && given = 0 && !idle then fail .divisionByZero
      let divisor := if isDividing sign && given = 0 then 1 else given
      let value := if sign.isEmpty then given else combine sign old divisor
      put s.place value
      return value

/-- A formula with a choice in it. -/
def computeChoice (fuel : Nat) : ExtendedCompute Int :=
  match fuel with
  | 0 => fail .tooDeep
  | fuel + 1 => do
    let condition ← computeRank fuel 1
    if (← get).token != .sign "?" then return condition
    let idle := (← get).idle
    modify fun s => { s with idle := idle || condition = 0 }
    next fuel
    match (← get).token with
    | .ending | .sign ":" => fail .choiceMissing
    | _ => pure ()
    let yes ← computeList fuel
    if (← get).token != .sign ":" then fail .colonMissing
    modify fun s => { s with idle := idle || condition ≠ 0 }
    next fuel
    if (← get).token = .ending then fail .choiceMissing
    let no ← computeChoice fuel
    modify fun s => { s with idle := idle, previous := .number }
    return if condition ≠ 0 then yes else no

/-- Operands whose signs have at least a rank. -/
def computeRank (fuel : Nat) (rank : Nat) : ExtendedCompute Int :=
  match fuel with
  | 0 => fail .tooDeep
  | fuel + 1 => do
    if 10 < rank then computePower fuel
    else computeRest fuel rank (← computeRank fuel (rank + 1))

/-- The signs of a rank behind a value, and their operands. -/
def computeRest (fuel : Nat) (rank : Nat) (first : Int) : ExtendedCompute Int :=
  match fuel with
  | 0 => fail .tooDeep
  | fuel + 1 => do
    let s ← get
    match (signsAt rank).find? fun sign => s.token == .sign sign with
    | none => return first
    | some sign =>
      let settled := (sign == "||" && first ≠ 0) || (sign == "&&" && first = 0)
      modify fun t => { t with idle := s.idle || settled }
      next fuel
      let second ← computeRank fuel (rank + 1)
      modify fun t => { t with idle := s.idle }
      let divides := isDividing sign && second = 0
      if divides && !s.idle then
        throw ⟨.divisionByZero, s.whole, s.rest.dropWhile fun c => c == ' ' || c == '\t'⟩
      modify fun t => { t with previous := .number }
      computeRest fuel rank (combine sign first (if divides then 1 else second))

/-- Powers; the last one is computed first. -/
def computePower (fuel : Nat) : ExtendedCompute Int :=
  match fuel with
  | 0 => fail .tooDeep
  | fuel + 1 => do
    let base ← computeSigned fuel
    if (← get).token != .sign "**" then return base
    next fuel
    let exponent ← computePower fuel
    modify fun s => { s with previous := .number }
    if exponent < 0 then fail .negativeExponent
    return combine "**" base exponent

/-- An operand with signs in front of it. -/
def computeSigned (fuel : Nat) : ExtendedCompute Int :=
  match fuel with
  | 0 => fail .tooDeep
  | fuel + 1 => do
    let change : Option (Int → Int) := match (← get).token with
      | .sign "!" => some fun n => truth (n = 0)
      | .sign "~" => some fun n => -1 - n
      | .sign "-" => some fun n => wrap64 (-n)
      | .sign "+" => some id
      | _ => none
    match change with
    | none => computeOperand fuel
    | some f =>
      next fuel
      let value ← computeSigned fuel
      modify fun s => { s with previous := .number }
      return f value

/-- A single operand. -/
def computeOperand (fuel : Nat) : ExtendedCompute Int :=
  match fuel with
  | 0 => fail .tooDeep
  | fuel + 1 => do
    let s ← get
    match s.token with
    | .before amount =>
      modify fun s => { s with previous := s.token }
      next fuel
      let t ← get
      let value := wrap64 (t.value + amount)
      put t.place value
      modify fun s => { s with token := .number }
      next fuel
      return value
    | .sign "(" =>
      next fuel
      let value ← computeList fuel
      if (← get).token != .sign ")" then fail .bracketMissing
      next fuel
      return value
    | .number =>
      next fuel
      return s.value
    | .name =>
      match ← peek fuel s.rest with
      | .after amount =>
        put s.place (wrap64 (s.value + amount))
        modify fun t =>
          { t with rest := (t.rest.dropWhile isBlankHere).drop 2, previous := .name, token := .number }
      | _ => pure ()
      next fuel
      return s.value
    | _ => fail .operandMissing

end

end ExtendedFormula

/-- The value of a formula in the extended dialect, and what it changes. An empty one is zero. -/
def extendedFormula (scope : FormulaScope) (cs : Octets) :
    Except FormulaFault (Int × List (Place × Int)) := do
  let text := cs.dropWhile isBlankHere
  if text.isEmpty then return (0, [])
  let fuel := 64 * cs.length + 40 * ExtendedFormula.deepest
  let (value, s) ← ((ExtendedFormula.computeWhole fuel).run scope).run (.ofText text)
  return (value, s.changed.reverse)

end MatrixFlow.Script
