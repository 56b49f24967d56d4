import MatrixFlow.Script.Arithmetic

/-!
# Formulas of the plain dialect

`plainFormula`: the value of a formula, and what it changes. Variables hold numbers only, and there
are no powers, no commas, and no signs that count up or down.
-/

namespace MatrixFlow.Script

/-- A formula of the plain dialect that is being computed. -/
structure PlainFormula where
  whole : Octets
  rest : Octets
  /-- What has been changed, the last first. -/
  changed : List (String × Int)

/-- A part of a computation in the plain dialect. -/
abbrev PlainCompute := ReaderT FormulaScope (StateT PlainFormula (Except FormulaFault))

namespace PlainFormula

/-- The greatest number. -/
def greatest : Nat := pow2 63 - 1

/-- The number that a text begins with: decimal, octal or hexadecimal; and its length. Too great
numbers become the greatest one. -/
def numeral (cs : Octets) : Nat × Nat :=
  let (base, front, digits) := match cs with
    | '0' :: x :: r =>
      if (x == 'x' || x == 'X') && (r.head?.bind (digitValue? 16)).isSome then (16, 2, r)
      else (8, 0, cs)
    | _ => (10, 0, cs)
  let (value, count) := leadingNumber base digits.length digits
  (min value greatest, front + count)

/-- The number that the value of a variable is; blanks may stand around it. -/
def number? (cs : Octets) : Option Int :=
  let text := trimBlank cs
  let (negative, digits) := match text with
    | '-' :: r => (true, r)
    | '+' :: r => (false, r)
    | r => (false, r)
  let (value, count) := numeral digits
  if text.isEmpty then some 0
  else if count = 0 || count ≠ digits.length then none
  else some (if negative then -(value : Int) else value)

/-- Fails in the formula. -/
def fail {α : Type} (cause : FormulaCause) : PlainCompute α := do
  throw ⟨cause, (← get).whole, []⟩

/-- Takes away so many characters, and the blanks behind them. -/
def skip (n : Nat) : PlainCompute Unit :=
  modify fun s =>
    { s with rest := (s.rest.drop n).dropWhile fun c => c == ' ' || c == '\t' || c == '\n' }

/-- The signs between two operands, with their ranks. Longer ones come first. -/
def signs : List (String × Nat) :=
  [("<<", 8), (">>", 8), ("<=", 7), (">=", 7), ("==", 6), ("!=", 6), ("&&", 2), ("||", 1),
    ("<", 7), (">", 7), ("+", 9), ("-", 9), ("*", 10), ("/", 10), ("%", 10), ("&", 5), ("^", 4),
    ("|", 3)]

/-- The value of two operands. -/
def combined (wanted : Bool) (sign : String) (a b : Int) : PlainCompute Int := do
  if isDividing sign && b = 0 then
    if wanted then fail .divisionByZero else return 0
  return combine sign a b

/-- The value of a variable. -/
def valueOf (wanted : Bool) (name : String) : PlainCompute Int := do
  match (← get).changed.find? fun (k, _) => k == name with
  | some (_, value) => return value
  | none =>
    let text := ((← read).lookup ⟨name, none⟩).getD []
    match number? text with
    | some value => return value
    | none => if wanted then throw ⟨.illegalValue, text, []⟩ else return 0

/-- Changes a variable. -/
def put (wanted : Bool) (name : String) (value : Int) : PlainCompute Unit :=
  if wanted then modify fun s => { s with changed := (name, value) :: s.changed } else return

mutual

/-- A formula with choices and changes in it. -/
def computeChoice (fuel : Nat) (wanted : Bool) : PlainCompute Int :=
  match fuel with
  | 0 => fail .operandMissing
  | fuel + 1 => do
    let condition ← computeFrom fuel wanted 1
    match (← get).rest with
    | '?' :: _ =>
      skip 1
      let yes ← computeChoice fuel (wanted && condition ≠ 0)
      match (← get).rest with
      | ':' :: _ =>
        skip 1
        let no ← computeChoice fuel (wanted && condition = 0)
        return if condition ≠ 0 then yes else no
      | _ => fail .colonMissing
    | _ => return condition

/-- Operands whose signs have at least a rank. -/
def computeFrom (fuel : Nat) (wanted : Bool) (rank : Nat) : PlainCompute Int :=
  match fuel with
  | 0 => fail .operandMissing
  | fuel + 1 => do
    let first ← computeOperand fuel wanted
    computeRest fuel wanted rank first

/-- The signs and operands behind a value. -/
def computeRest (fuel : Nat) (wanted : Bool) (rank : Nat) (first : Int) : PlainCompute Int :=
  match fuel with
  | 0 => return first
  | fuel + 1 => do
    let cs := (← get).rest
    match signs.find? fun (s, _) => Text.startsWith s.toList cs with
    | none => return first
    | some (sign, r) =>
      if r < rank then return first
      skip sign.length
      let wantedNext := wanted && !(sign == "&&" && first = 0) && !(sign == "||" && first ≠ 0)
      let second ← computeFrom fuel wantedNext (r + 1)
      computeRest fuel wanted rank (← combined wanted sign first second)

/-- A single operand. -/
def computeOperand (fuel : Nat) (wanted : Bool) : PlainCompute Int :=
  match fuel with
  | 0 => fail .operandMissing
  | fuel + 1 => do
    skip 0
    let cs := (← get).rest
    match cs with
    | '(' :: _ =>
      skip 1
      let value ← computeChoice fuel wanted
      match (← get).rest with
      | ')' :: _ =>
        skip 1
        return value
      | _ => fail .bracketMissing
    | '-' :: _ =>
      skip 1
      return wrap64 (-(← computeOperand fuel wanted))
    | '+' :: _ =>
      skip 1
      computeOperand fuel wanted
    | '!' :: _ =>
      skip 1
      return truth ((← computeOperand fuel wanted) = 0)
    | '~' :: _ =>
      skip 1
      return wrap64 (-1 - (← computeOperand fuel wanted))
    | c :: _ =>
      if c.isDigit then
        let (value, count) := numeral cs
        skip count
        return value
      else if isNameStart c then
        let name := cs.takeWhile isNameRest
        skip name.length
        computeName fuel wanted (String.ofList name)
      else fail .operandMissing
    | [] => fail .operandMissing

/-- A variable, and the change that follows it. -/
def computeName (fuel : Nat) (wanted : Bool) (name : String) : PlainCompute Int :=
  match fuel with
  | 0 => fail .operandMissing
  | fuel + 1 => do
    let cs := (← get).rest
    let change := changingSigns.find? fun sign => Text.startsWith (sign.toList ++ ['=']) cs
    match cs, change with
    | _, some sign =>
      skip (sign.length + 1)
      let second ← computeChoice fuel wanted
      let value ← combined wanted sign (← valueOf wanted name) second
      put wanted name value
      return value
    | '=' :: '=' :: _, _ => valueOf wanted name
    | '=' :: _, _ =>
      skip 1
      let value ← computeChoice fuel wanted
      put wanted name value
      return value
    | _, _ => valueOf wanted name

end

end PlainFormula

/-- The value of a formula in the plain dialect, and what it changes. -/
def plainFormula (scope : FormulaScope) (cs : Octets) :
    Except FormulaFault (Int × List (Place × Int)) := do
  let whole : PlainCompute Int := do
    PlainFormula.skip 0
    let value ← PlainFormula.computeChoice (8 * cs.length + 64) true
    if !(← get).rest.isEmpty then PlainFormula.fail .leftOver
    return value
  let (value, s) ← (whole.run scope).run ⟨cs, cs, []⟩
  return (value, s.changed.reverse.map fun (name, v) => (⟨name, none⟩, v))

end MatrixFlow.Script
