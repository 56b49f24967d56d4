import MatrixFlow.Files.Tree
import MatrixFlow.Script.Arithmetic

/-!
# Tests

A test is a list of words: operators, their operands, and signs that join tests.

* `TestFacts`: what tests can ask about.
* `TestFault`: why a test has no answer.
* `plainTest`, `extendedTest`: the answer to a test in each dialect.
-/

namespace MatrixFlow.Script

/-- Why a test has no answer. -/
inductive TestFault where
  | missingBracket
  | notNumber (text : Octets)
  /-- A word stands where an operator with one operand should. -/
  | unaryExpected (text : Octets)
  /-- A word stands where an operator with two operands should. -/
  | binaryExpected (text : Octets)
  /-- There is nothing behind an operator. -/
  | operandMissing (operator : Octets)
  /-- A bracket is not closed; something else may stand there. -/
  | unclosed (found : Option Octets)
  /-- There is a word behind the test. -/
  | leftOver (text : Octets)
deriving DecidableEq, Repr

/-- What tests can ask about. -/
structure TestFacts where
  entry? : Octets → Option FileEntry
  /-- There is a link at a path. -/
  isLink : Octets → Bool
  /-- Two paths lead to the same place. -/
  isSame : Octets → Octets → Bool
  /-- A variable has a value. -/
  isSet : Octets → Bool
  /-- An option is on. -/
  isOn : Octets → Bool
  /-- A file that is not there is older than one that is. -/
  missingIsOld : Bool

/-- Operators with one operand, without those that only the extended dialect knows. -/
def isUnaryTest (op : Octets) : Bool :=
  match op with
  | ['-', c] => "bcdefghknprstuwxzGLOS".toList.contains c
  | _ => false

/-- Operators with one operand in the extended dialect. -/
def isWideUnaryTest (op : Octets) : Bool :=
  isUnaryTest op || [['-', 'a'], ['-', 'o'], ['-', 'v'], ['-', 'N'], ['-', 'R']].contains op

/-- Operators with two operands. -/
def isBinaryTest (op : Octets) : Bool :=
  ["=", "!=", "<", ">", "-eq", "-ne", "-lt", "-le", "-gt", "-ge", "-nt", "-ot",
    "-ef"].contains (String.ofList op)

/-- Operators with two operands in the extended dialect. -/
def isWideBinaryTest (op : Octets) : Bool :=
  isBinaryTest op || op == ['=', '=']

/-- The answer of an operator with one operand. -/
def unaryAnswer (facts : TestFacts) (op : String) (operand : Octets) : Bool :=
  let entry := facts.entry? operand
  match op with
  | "-n" => !operand.isEmpty
  | "-z" => operand.isEmpty
  | "-a" | "-e" | "-r" | "-w" | "-O" | "-G" => entry.isSome
  | "-f" => match entry with | some (.file _ _) | some .program => true | _ => false
  | "-d" => match entry with | some .directory => true | _ => false
  | "-x" => match entry with
    | some .directory | some .program | some (.file _ true) => true
    | _ => false
  | "-s" => match entry with
    | some (.file bytes _) => !bytes.isEmpty
    | some .directory | some .program => true
    | _ => false
  | "-L" | "-h" => facts.isLink operand
  | "-c" => match entry with | some (.zeros _) => true | _ => false
  | "-v" => facts.isSet operand
  | "-o" => facts.isOn operand
  | _ => false

/-- A whole number in a test. -/
def testNumber (text : Octets) : Except TestFault Int :=
  let trimmed := trimBlank text
  let (negative, digits) := match trimmed with
    | '-' :: r => (true, r)
    | '+' :: r => (false, r)
    | r => (false, r)
  let (value, count) := leadingNumber 10 digits.length digits
  if count = 0 || count ≠ digits.length then .error (.notNumber text)
  else .ok (if negative then -(value : Int) else value)

/-- A text comes before another one. -/
def textBefore : Octets → Octets → Bool
  | [], b => !b.isEmpty
  | _ :: _, [] => false
  | a :: r, b :: s => if a = b then textBefore r s else a < b

/-- The answer of an operator with two operands. -/
def binaryAnswer (facts : TestFacts) (op : String) (a b : Octets) : Except TestFault Bool := do
  match op with
  | "=" | "==" => return a == b
  | "!=" => return a != b
  | "<" => return textBefore a b
  | ">" => return textBefore b a
  | "-nt" => return facts.missingIsOld && (facts.entry? a).isSome && (facts.entry? b).isNone
  | "-ot" => return facts.missingIsOld && (facts.entry? a).isNone && (facts.entry? b).isSome
  | "-ef" => return facts.isSame a b
  | _ =>
    let x ← testNumber a
    let y ← testNumber b
    match op with
    | "-eq" => return x = y
    | "-ne" => return x ≠ y
    | "-lt" => return x < y
    | "-le" => return x ≤ y
    | "-gt" => return x > y
    | _ => return x ≥ y

/-! ## The plain dialect -/

namespace PlainTest

/-- What the first word counts as. An operator with one operand is a mere word if there is nothing
behind it, or if it stands in front of an operator with two. -/
inductive Role where
  | ending
  | opens
  | closes
  | negates
  | joins (both : Bool)
  | unary
  | binary
  | word
deriving DecidableEq, Repr

/-- The role of the first word. -/
def role (words : List Octets) : Role :=
  match words with
  | [] => .ending
  | w :: rest =>
    if isUnaryTest w then
      match rest with
      | [] => .word
      | [_] => .unary
      | next :: _ => if isBinaryTest next then .word else .unary
    else if isBinaryTest w then .binary
    else if w == ['!'] then .negates
    else if w == ['-', 'a'] then .joins true
    else if w == ['-', 'o'] then .joins false
    else if w == ['('] && !rest.isEmpty then .opens
    else if w == [')'] then .closes
    else .word

mutual

/-- Tests with alternatives between them, from the first word on, whose role is given. The words
that are left begin with the last one that belongs to the test. -/
def either (facts : TestFacts) (fuel : Nat) (first : Role) (words : List Octets) :
    Except TestFault (Bool × List Octets) :=
  match fuel with
  | 0 => .ok (false, [])
  | fuel + 1 => do
    let (a, words) ← both facts fuel first words
    if role (words.drop 1) = .joins false then
      let next := words.drop 2
      let (b, words) ← either facts fuel (role next) next
      return (a || b, words)
    else return (a, words)

/-- Tests that have to hold together. -/
def both (facts : TestFacts) (fuel : Nat) (first : Role) (words : List Octets) :
    Except TestFault (Bool × List Octets) :=
  match fuel with
  | 0 => .ok (false, [])
  | fuel + 1 => do
    let (a, words) ← negated facts fuel first words
    if role (words.drop 1) = .joins true then
      let next := words.drop 2
      let (b, words) ← both facts fuel (role next) next
      return (a && b, words)
    else return (a, words)

/-- A test that may be negated. -/
def negated (facts : TestFacts) (fuel : Nat) (first : Role) (words : List Octets) :
    Except TestFault (Bool × List Octets) :=
  match fuel with
  | 0 => .ok (false, [])
  | fuel + 1 => do
    if first = .negates then
      let next := words.drop 1
      let r := role next
      let (a, words) ← negated facts fuel r (if r = .ending then words else next)
      return (!a, words)
    else single facts fuel first words

/-- A single test. -/
def single (facts : TestFacts) (fuel : Nat) (first : Role) (words : List Octets) :
    Except TestFault (Bool × List Octets) :=
  match fuel with
  | 0 => .ok (false, [])
  | fuel + 1 => do
    match first, words with
    | .ending, _ => return (false, words)
    | .opens, _ :: inner =>
      let r := role inner
      if r = .closes then return (false, inner)
      let (a, words) ← either facts fuel r inner
      if role (words.drop 1) = .closes then return (a, words.drop 1)
      else throw (.unclosed none)
    | .unary, op :: operand :: rest =>
      return (unaryAnswer facts (String.ofList op) operand, operand :: rest)
    | .unary, [op] => throw (.operandMissing op)
    | _, a :: op :: rest =>
      if role (op :: rest) = .binary then
        match rest with
        | b :: rest => return (← binaryAnswer facts (String.ofList op) a b, b :: rest)
        | [] => throw (.operandMissing op)
      else return (!a.isEmpty, words)
    | _, _ => return (words.head?.any (! ·.isEmpty), words)

end

/-- The answer to a test; four words at most may begin with a sign that negates all of them. -/
def answer (facts : TestFacts) : (fuel : Nat) → List Octets → Except TestFault Bool
  | 0, _ => .ok false
  | fuel + 1, words => do
    if words.isEmpty then return false
    let run (first : Role) (words : List Octets) : Except TestFault Bool := do
      let (a, rest) ← either facts (8 * words.length + 8) first words
      match rest with
      | w :: _ :: _ => throw (.leftOver w)
      | _ => return a
    if words.length = 3 && isBinaryTest (words[1]?.getD []) then run .word words
    else if words.length = 3 || words.length = 4 then
      if words.head? == some ['('] && words.getLast? == some [')'] then
        let inner := (words.drop 1).dropLast
        run (role inner) inner
      else if words.head? == some ['!'] then return !(← answer facts fuel (words.drop 1))
      else run (role words) words
    else run (role words) words

end PlainTest

/-- The answer to a test in the plain dialect. -/
def plainTest (facts : TestFacts) (words : List Octets) : Except TestFault Bool :=
  PlainTest.answer facts (words.length + 1) words

/-! ## The extended dialect -/

namespace ExtendedTest

mutual

/-- Tests with alternatives between them, and the words behind them. -/
def either (facts : TestFacts) (fuel : Nat) (words : List Octets) :
    Except TestFault (Bool × List Octets) :=
  match fuel with
  | 0 => .ok (false, [])
  | fuel + 1 => do
    let (a, words) ← both facts fuel words
    match words with
    | ['-', 'o'] :: rest =>
      let (b, words) ← either facts fuel rest
      return (a || b, words)
    | _ => return (a, words)

/-- Tests that have to hold together, and the words behind them. -/
def both (facts : TestFacts) (fuel : Nat) (words : List Octets) :
    Except TestFault (Bool × List Octets) :=
  match fuel with
  | 0 => .ok (false, [])
  | fuel + 1 => do
    let (a, words) ← single facts fuel words
    match words with
    | ['-', 'a'] :: rest =>
      let (b, words) ← both facts fuel rest
      return (a && b, words)
    | _ => return (a, words)

/-- A single test, and the words behind it. -/
def single (facts : TestFacts) (fuel : Nat) (words : List Octets) :
    Except TestFault (Bool × List Octets) :=
  match fuel with
  | 0 => .ok (false, [])
  | fuel + 1 => do
    match words with
    | [] => throw (.operandMissing [])
    | ['!'] :: rest =>
      let (a, rest) ← single facts fuel rest
      return (!a, rest)
    | ['('] :: rest =>
      let (a, rest) ← either facts fuel rest
      match rest with
      | [')'] :: rest => return (a, rest)
      | found => throw (.unclosed found.head?)
    | a :: op :: b :: rest =>
      if isWideBinaryTest op then return (← binaryAnswer facts (String.ofList op) a b, rest)
      else if isWideUnaryTest a then return (unaryAnswer facts (String.ofList a) op, b :: rest)
      else return (!a.isEmpty, op :: b :: rest)
    | [a, b] =>
      if isWideUnaryTest a then return (unaryAnswer facts (String.ofList a) b, [])
      else return (!a.isEmpty, [b])
    | [a] => return (!a.isEmpty, [])

end

/-- The answer to a test of two words. -/
def two (facts : TestFacts) (a b : Octets) : Except TestFault Bool :=
  if a == ['!'] then .ok b.isEmpty
  else if isWideUnaryTest a then .ok (unaryAnswer facts (String.ofList a) b)
  else .error (.unaryExpected a)

/-- The answer to a test of three words. -/
def three (facts : TestFacts) (a op b : Octets) : Except TestFault Bool := do
  if isWideBinaryTest op then binaryAnswer facts (String.ofList op) a b
  else if op == ['-', 'a'] then return !a.isEmpty && !b.isEmpty
  else if op == ['-', 'o'] then return !a.isEmpty || !b.isEmpty
  else if a == ['!'] then return !(← two facts op b)
  else if a == ['('] && b == [')'] then return !op.isEmpty
  else throw (.binaryExpected op)

end ExtendedTest

open ExtendedTest in
/-- The answer to a test in the extended dialect. -/
def extendedTest (facts : TestFacts) (words : List Octets) : Except TestFault Bool := do
  match words with
  | [] => return false
  | [a] => return !a.isEmpty
  | [a, b] => two facts a b
  | [a, op, b] => three facts a op b
  | _ =>
    match words with
    | [['!'], a, op, b] => return !(← three facts a op b)
    | [['('], a, b, [')']] => two facts a b
    | _ =>
      let (answer, rest) ← either facts (8 * words.length + 8) words
      match rest with
      | [] => return answer
      | w :: _ => throw (.leftOver w)

/-- The words of a test by its name: the one named for a bracket needs the other bracket. -/
def testWords (name : Octets) (words : List Octets) : Except TestFault (List Octets) :=
  if name.getLast? == some '[' then
    if words.getLast? == some [']'] then .ok words.dropLast else .error .missingBracket
  else .ok words

end MatrixFlow.Script
