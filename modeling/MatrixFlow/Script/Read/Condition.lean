import MatrixFlow.Script.Read.Redirect

/-!
# Reading conditions

Conditions between double brackets. Line endings may stand between conditions, but not within one.

* `readConditionItem`: a single condition.
* `readWholeCondition`: conditions up to the mark that closes them.
-/

namespace MatrixFlow.Script

/-- Operators with one operand. -/
def unaryTests : List String :=
  ["-n", "-z", "-a", "-e", "-f", "-d", "-r", "-w", "-x", "-s", "-L", "-h", "-p", "-b", "-c", "-S",
    "-t", "-v", "-o", "-N", "-O", "-G", "-g", "-k", "-u", "-R"]

/-- Operators with two operands. -/
def binaryTests : List String :=
  ["=", "==", "!=", "=~", "<", ">", "-eq", "-ne", "-lt", "-le", "-gt", "-ge", "-nt", "-ot", "-ef"]

/-- The mark that closes a condition begins here. -/
def closesCondition (cs : Octets) : Bool :=
  match cs with
  | ']' :: ']' :: r => r.head?.all isMeta
  | _ => false

/-- What stands up to a blank that no bracket and no quotation mark holds. -/
def takeExpression : (depth : Nat) → (quote : Option Char) → Octets → Octets
  | _, _, [] => []
  | depth, some q, c :: r => c :: takeExpression depth (if c == q then none else some q) r
  | depth, none, '\\' :: c :: r => '\\' :: c :: takeExpression depth none r
  | depth, none, c :: r =>
    if c == '\n' || (depth = 0 && (c == ' ' || c == '\t')) then []
    else if c == '\x22' || c == '\x27' then c :: takeExpression depth (some c) r
    else
      let depth := if c == '(' then depth + 1 else if c == ')' then depth - 1 else depth
      c :: takeExpression depth none r

/-- What stands here, as messages about conditions name it, if they name it. -/
def conditionToken? : Scan (Option Octets) := do
  let c ← get
  match c.rest with
  | [] | '\n' :: _ => return some "newline".toList
  | cs =>
    match signHere? c.dialect cs with
    | some sign => return some sign.toList
    | none => return if closesCondition cs then some "]]".toList else none

/-- Fails in a condition, at what begins here; the end of a line is told by its last word. -/
def conditionFault {α : Type} (fuel line : Nat) (cause : ConditionFault) : Scan α := do
  let rest := (← get).rest
  let word := rest.takeWhile fun d => !isMeta d
  let token := (← conditionToken?).getD word
  let near := if rest.head?.all (· == '\n') then [] else token
  let _ ← readWord fuel
  throw (.badCondition line cause near)

/-- The word of an operand. One that is compared may hold groups, and one behind `=~` brackets and
bars. -/
def readOperand (fuel : Nat) (operator : String) (binary : Bool) : Scan Word := do
  skipBlanks fuel
  let c ← get
  let bracketed := operator = "=~" && c.rest.head? == some '('
  if closesCondition c.rest || !(isWordHere c || bracketed) then
    conditionFault fuel c.line (.badOperand binary (← conditionToken?))
  if operator = "=~" then
    let cs := takeExpression 0 none c.rest
    let word ← readInner fuel .regular cs
    set { c with rest := c.rest.drop cs.length }
    return word
  else
    set { c with groups := true }
    let word ← readWord fuel
    modify fun d => { d with groups := c.groups }
    return word

mutual

/-- Conditions with `||` between them. -/
def readCondition (fuel : Nat) : Scan Condition :=
  match fuel with
  | 0 => return .nonempty []
  | fuel + 1 => do
    let first ← readConditionBoth fuel
    match (← get).rest with
    | '|' :: '|' :: _ =>
      advance 2
      return .either first (← readCondition fuel)
    | _ => return first

/-- Conditions with `&&` between them. -/
def readConditionBoth (fuel : Nat) : Scan Condition :=
  match fuel with
  | 0 => return .nonempty []
  | fuel + 1 => do
    let first ← readConditionItem fuel
    match (← get).rest with
    | '&' :: '&' :: _ =>
      advance 2
      return .both first (← readConditionBoth fuel)
    | _ => return first

/-- A single condition, and the line endings behind it. -/
def readConditionItem (fuel : Nat) : Scan Condition :=
  match fuel with
  | 0 => return .nonempty []
  | fuel + 1 => do
    skipLines fuel fuel
    let c ← get
    if closesCondition c.rest then conditionFault fuel c.line .empty
    else if isWordHere c then
      let word ← readWord fuel
      let text := ((plainText? word).map String.ofList).getD ""
      if text = "!" then return .negated (← readConditionItem fuel)
      else
        let condition ←
          if unaryTests.contains text then
            Condition.unary text <$> readOperand fuel text false
          else readConditionRest fuel word
        skipLines fuel fuel
        return condition
    else match c.rest with
      | '(' :: _ =>
        advance 1
        let inner ← readCondition fuel
        match (← get).rest with
        | ')' :: _ =>
          advance 1
          skipLines fuel fuel
          return inner
        | _ => conditionFault fuel c.line (.badGroup (← conditionToken?))
      | [] => throw (SyntaxFault.badCondition c.line (.badStart "EOF".toList) [])
      | _ => conditionFault fuel c.line (.badStart ((← conditionToken?).getD []))

/-- The rest of a condition that begins with a word. -/
def readConditionRest (fuel : Nat) (word : Word) : Scan Condition :=
  match fuel with
  | 0 => return .nonempty []
  | fuel + 1 => do
    skipBlanks fuel
    let c ← get
    match signHere? c.dialect c.rest with
    | some "<" =>
      advance 1
      return .binary "<" word (← readOperand fuel "<" true)
    | some ">" =>
      advance 1
      return .binary ">" word (← readOperand fuel ">" true)
    | some "&&" | some "||" | some ")" => return .nonempty word
    | some _ => conditionFault fuel c.line (.badOperator (← conditionToken?))
    | none =>
      if closesCondition c.rest then return .nonempty word
      let next ← if isWordHere c then readWord fuel else pure []
      let op := ((plainText? next).map String.ofList).getD ""
      if binaryTests.contains op then return .binary op word (← readOperand fuel op true)
      set c
      conditionFault fuel c.line (.badOperator (← conditionToken?))

end

/-- A condition up to the mark that closes it; the one that opens it stands on a line. -/
def readWholeCondition (fuel line : Nat) : Scan Condition := do
  let condition ← readCondition fuel
  let c ← get
  if closesCondition c.rest then
    advance 2
    return condition
  else if c.rest.isEmpty then throw (.badCondition line .unended [])
  else conditionFault fuel line (.badRest (← conditionToken?))

end MatrixFlow.Script
