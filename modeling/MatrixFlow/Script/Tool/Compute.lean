import MatrixFlow.Script.Directive
import MatrixFlow.Script.Regex
import MatrixFlow.Script.Test
import MatrixFlow.Script.Tool.Basic

/-!
# Tools that compute

* `exprTool`: computes a formula whose parts are words.
* `seqTool`: shows numbers with the same distance between them.
* `factorTool`: shows the prime factors of numbers.
-/

namespace MatrixFlow.Script

open ToolM

/-! ## Formulas of words -/

/-- Why a formula of words has no value. -/
inductive ExprFault where
  | missingAfter (word : Octets)
  | unexpected (word : Octets)
  | unopened
  | unclosedAfter (word : Octets)
  | notInteger
  | divisionByZero
  | badPattern (text : String)
deriving DecidableEq, Repr

namespace ExprFault

/-- The fault in words. -/
def text : ExprFault → Octets
  | missingAfter w => octets "syntax error: missing argument after '" ++ w ++ ['\x27']
  | unexpected w => octets "syntax error: unexpected argument '" ++ w ++ ['\x27']
  | unopened => octets "syntax error: unexpected ')'"
  | unclosedAfter w => octets "syntax error: expecting ')' after '" ++ w ++ ['\x27']
  | notInteger => octets "non-integer argument"
  | divisionByZero => octets "division by zero"
  | badPattern text => octets text

/-- The exit code for the fault. -/
def code : ExprFault → Nat
  | badPattern _ => 2
  | _ => 2

end ExprFault

/-- The words of a formula that are left, and the one before them. -/
structure ExprWords where
  before : Octets
  rest : List Octets

/-- A part of a formula of words. -/
abbrev ExprEval := StateT ExprWords (Except ExprFault)

namespace ExprEval

/-- The next word. -/
def peek? : ExprEval (Option Octets) := do
  return (← get).rest.head?

/-- Takes the next word. -/
def skip : ExprEval Unit :=
  modify fun s => ⟨s.rest.head?.getD s.before, s.rest.drop 1⟩

/-- Takes the next word, which has to be there. -/
def demand : ExprEval Octets := do
  let s ← get
  match s.rest with
  | [] => throw (.missingAfter s.before)
  | w :: rest =>
    set (ExprWords.mk w rest)
    return w

end ExprEval

/-- A text that is a whole number. -/
def exprInteger? (cs : Octets) : Option Int :=
  let (negative, digits) := match cs with
    | '-' :: r => (true, r)
    | r => (false, r)
  if digits.isEmpty || !digits.all Char.isDigit then none
  else
    let n : Int := (leadingNumber 10 digits.length digits).1
    some (if negative then -n else n)

/-- The text of a number. -/
def exprNumber (n : Int) : Octets := octets (toString n)

/-- The value counts as nothing. -/
def isNull (cs : Octets) : Bool :=
  cs.isEmpty || exprInteger? cs == some 0

/-- What a pattern matches at the start of a text: its group, or how long the match is. -/
def exprMatch (text pattern : Octets) : Except ExprFault Octets :=
  match Regex.ofText .basic pattern with
  | .error f => .error (.badPattern f.text)
  | .ok r =>
    let grouped := (Text.cut? ['\\', '('] pattern).isSome
    match r.matchHere? ⟨false, false⟩ [] text with
    | some (found, _, groups) =>
      if grouped then .ok (((groups.find? fun (n, _) => n == 1).map (·.2)).getD [])
      else .ok (exprNumber found.length)
    | none => .ok (if grouped then [] else ['0'])

/-- A sum, difference, product, quotient or remainder. -/
def exprArithmetic (wanted : Bool) (op : String) (a b : Octets) : Except ExprFault Octets :=
  if !wanted then .ok ['0']
  else match exprInteger? a, exprInteger? b with
    | some x, some y =>
      match op with
      | "+" => .ok (exprNumber (x + y))
      | "-" => .ok (exprNumber (x - y))
      | "*" => .ok (exprNumber (x * y))
      | _ =>
        if y = 0 then .error .divisionByZero
        else .ok (exprNumber (if op = "/" then x.tdiv y else x.tmod y))
    | _, _ => .error .notInteger

/-- The answer to a comparison, of numbers if both are. -/
def exprCompare (op : String) (a b : Octets) : Octets :=
  let (less, same) := match exprInteger? a, exprInteger? b with
    | some x, some y => (decide (x < y), decide (x = y))
    | _, _ => (textBefore a b, a == b)
  let answer := match op with
    | "<" => less
    | "<=" => less || same
    | "=" | "==" => same
    | "!=" => !same
    | ">=" => !less
    | _ => !less && !same
  if answer then ['1'] else ['0']

/-- The ranks of signs between two operands. -/
def exprRank (op : String) : Option Nat :=
  match op with
  | "|" => some 1
  | "&" => some 2
  | "<" | "<=" | "=" | "==" | "!=" | ">=" | ">" => some 3
  | "+" | "-" => some 4
  | "*" | "/" | "%" => some 5
  | ":" => some 6
  | _ => none

mutual

/-- Operands whose signs have at least a rank. -/
def exprFrom (fuel : Nat) (wanted : Bool) (rank : Nat) : ExprEval Octets :=
  match fuel with
  | 0 => throw .notInteger
  | fuel + 1 => do
    let first ← exprOperand fuel wanted
    exprRest fuel wanted rank first

/-- The signs and operands behind a value. -/
def exprRest (fuel : Nat) (wanted : Bool) (rank : Nat) (first : Octets) : ExprEval Octets :=
  match fuel with
  | 0 => return first
  | fuel + 1 => do
    match (← ExprEval.peek?).map plainString with
    | none => return first
    | some op =>
      match exprRank op with
      | none => return first
      | some r =>
        if r < rank then return first
        ExprEval.skip
        let wantedNext := wanted && !(op == "|" && !isNull first) && !(op == "&" && isNull first)
        let second ← exprFrom fuel wantedNext (r + 1)
        let value ← match op with
          | "|" =>
            pure (if !isNull first then first else if !isNull second then second else ['0'])
          | "&" => pure (if isNull first || isNull second then ['0'] else first)
          | ":" => exprMatch first second
          | "+" | "-" | "*" | "/" | "%" => exprArithmetic wanted op first second
          | _ => pure (exprCompare op first second)
        exprRest fuel wanted rank value

/-- A single operand. -/
def exprOperand (fuel : Nat) (wanted : Bool) : ExprEval Octets :=
  match fuel with
  | 0 => throw .notInteger
  | fuel + 1 => do
    let word ← ExprEval.demand
    match plainString word with
    | "(" =>
      let value ← exprFrom fuel wanted 1
      match ← ExprEval.peek? with
      | some [')'] =>
        ExprEval.skip
        return value
      | none => throw (.unclosedAfter (← get).before)
      | some _ => throw (.unclosedAfter (← get).before)
    | ")" => throw .unopened
    | "+" => ExprEval.demand
    | "length" =>
      let text ← exprOperand fuel wanted
      return exprNumber text.length
    | "match" =>
      let text ← exprOperand fuel wanted
      let pattern ← exprOperand fuel wanted
      exprMatch text pattern
    | "index" =>
      let text ← exprOperand fuel wanted
      let chars ← exprOperand fuel wanted
      return exprNumber (match text.findIdx? chars.contains with
        | some i => (i + 1 : Nat)
        | none => 0)
    | "substr" =>
      let text ← exprOperand fuel wanted
      let first ← exprOperand fuel wanted
      let count ← exprOperand fuel wanted
      match exprInteger? first, exprInteger? count with
      | some p, some n =>
        return if p ≤ 0 || n ≤ 0 then [] else (text.drop (p.toNat - 1)).take n.toNat
      | _, _ => return []
    | _ => return word

end

/-- The value of a formula of words. -/
def exprValue (words : List Octets) : Except ExprFault Octets := do
  let (value, s) ← (exprFrom (16 * words.length + 16) true 1).run ⟨[], words⟩
  match s.rest with
  | [] => return value
  | w :: _ => throw (.unexpected w)

/-- The tool `expr`. -/
def exprTool : Tool := do
  let args := (← read).args
  let args := if args.head? == some ['-', '-'] then args.drop 1 else args
  if args.isEmpty then
    warn (octets "missing operand\nTry 'expr --help' for more information.")
    return 2
  match exprValue args with
  | .ok value =>
    sayLine value
    return if isNull value then 1 else 0
  | .error f =>
    warn f.text
    return f.code

/-! ## Sequences -/

/-- A decimal number: its value times a power of ten, and how many places it has. -/
structure Decimal where
  value : Int
  places : Nat

/-- The decimal number that a text is. -/
def decimalText? (cs : Octets) : Option Decimal :=
  match quantity? cs with
  | some (.finite negative num den, n) =>
    if n ≠ cs.length then none
    else
      let places := (Nat.toDigits 10 den).length - 1
      some ⟨if negative then -(num : Int) else num, places⟩
  | _ => none

/-- The number with another count of places, which is not smaller. -/
def Decimal.lengthen (d : Decimal) (places : Nat) : Int :=
  d.value * pow10 (places - d.places)

/-- The numbers from one to another with a step. -/
def numbersUpTo (step last : Int) : (fuel : Nat) → Int → List Int
  | 0, _ => []
  | fuel + 1, n =>
    if (step > 0 && n > last) || (step < 0 && n < last) then []
    else n :: numbersUpTo step last fuel (n + step)

/-- The words of a sequence with a mark in front of its numbers, which may be negative. -/
def markNumbers : List Octets → List Octets
  | [] => []
  | [w] => if isNumber w then [['-', '-'], w] else [w]
  | w :: v :: rest =>
    if isNumber w then ['-', '-'] :: w :: v :: rest
    else if [octets "-s", octets "-f", octets "--separator", octets "--format"].contains w then
      w :: v :: markNumbers rest
    else w :: markNumbers (v :: rest)
where
  /-- The word is no option. -/
  isNumber : Octets → Bool
    | '-' :: c :: _ => c.isDigit || c == '.'
    | ['-'] => true
    | cs => cs.head? != some '-'

/-- The directive of a format, with the texts around it. -/
def seqFormat? (format : Octets) : Option (Octets × Directive × Octets) :=
  match Text.cut? ['%'] format with
  | none => none
  | some (before, after) =>
    let flags := after.takeWhile fun c => ['-', '+', ' ', '0', '#'].contains c
    let (width, rest) := directiveCount? (after.drop flags.length)
    let (precision, rest) := match rest with
      | '.' :: r =>
        match directiveCount? r with
        | (some (.given n), rest) => (some n, rest)
        | (_, rest) => (some 0, rest)
      | r => (none, r)
    let width := match width with
      | some (.given n) => n
      | _ => 0
    match rest with
    | c :: rest =>
      if ['e', 'f', 'g', 'E', 'F', 'G'].contains c then some (before, ⟨flags, width, precision, c⟩, rest)
      else none
    | [] => none

/-- A number of a sequence with its places. -/
def placedText (places : Nat) (n : Int) : Octets :=
  let text := Directive.placesText false places n.natAbs (pow10 places)
  if n < 0 then '-' :: text else text

/-- The tool `seq`. -/
def seqTool : Tool := do
  let call ← read
  let spec : OptionSpec := ⟨"w", "sf", "", [("separator", "s"), ("format", "f"),
    ("equal-width", "w")], false, 1⟩
  let o := ToolOptions.read spec none (markNumbers call.args)
  let refuse (text : Octets) : Tool := do
    warn (text ++ octets "\nTry 'seq --help' for more information.")
    return 1
  match o.fault with
  | some f => refuse f.text
  | none =>
    match o.rest.find? fun a => (decimalText? a).isNone with
    | some a => refuse (octets "invalid floating point argument: '" ++ a ++ ['\x27'])
    | none =>
      let one : Decimal := ⟨1, 0⟩
      match o.rest, o.rest.filterMap decimalText? with
      | _, [last] => showNumbers o one one last
      | _, [first, last] => showNumbers o first one last
      | words, [first, step, last] =>
        if step.value = 0 then
          refuse (octets "invalid Zero increment value: '" ++ (words.drop 1).head?.getD [] ++
            ['\x27'])
        else showNumbers o first step last
      | words, _ =>
        if words.isEmpty then refuse (octets "missing operand")
        else refuse (octets "extra operand '" ++ (words.drop 3).head?.getD [] ++ ['\x27'])
where
  /-- Shows the numbers. -/
  showNumbers (o : ToolOptions) (first step last : Decimal) : Tool := do
    let shown := max first.places step.places
    let places := max shown last.places
    let a := first.lengthen places
    let d := step.lengthen places
    let b := last.lengthen places
    let count := ((b - a).natAbs) / d.natAbs + 1
    let numbers := numbersUpTo d b (min count streamSize) a
    let text (n : Int) : Octets := placedText shown (n / pow10 (places - shown))
    let texts := match (o.value? 'f').bind seqFormat? with
      | some (before, directive, after) => numbers.map fun n =>
        before ++ directive.quantity (.finite (n < 0) n.natAbs (pow10 places)) ++ after
      | none => numbers.map text
    let width := max (text a).length (text b).length
    let texts := if o.has 'w' then texts.map fun cs =>
        let (sign, digits) := match cs with
          | '-' :: r => (['-'], r)
          | r => ([], r)
        sign ++ List.replicate (width - cs.length) '0' ++ digits
      else texts
    if !texts.isEmpty then say (Text.joinWith ((o.value? 's').getD ['\n']) texts ++ ['\n'])
    return 0

/-! ## Factors -/

/-- The prime factors of a number from a divisor on. -/
def primeFactors : (fuel : Nat) → (divisor n : Nat) → List Nat
  | 0, _, n => [n]
  | fuel + 1, divisor, n =>
    if n ≤ 1 then []
    else if n < divisor * divisor then [n]
    else if n % divisor = 0 then divisor :: primeFactors fuel divisor (n / divisor)
    else primeFactors fuel (if divisor = 2 then 3 else divisor + 2) n

/-- The tool `factor`. -/
def factorTool : Tool := do
  let args := (← read).args
  let words ← if args.isEmpty then
      pure (((← standardInput).splitOnP fun c => c == ' ' || c == '\n' || c == '\t').filter
        (! ·.isEmpty))
    else pure args
  let done ← words.mapM fun w => do
    match natural? w with
    | some n =>
      sayLine (octets (toString n) ++ [':'] ++
        (primeFactors 2000000 2 n).flatMap fun p => ' ' :: numberOctets p)
      return true
    | none =>
      warn (octets "'" ++ w ++ octets "' is not a valid positive integer")
      return false
  return if done.all id then 0 else 1

end MatrixFlow.Script
