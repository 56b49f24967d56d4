import MatrixFlow.Script.Syntax
import MatrixFlow.Text.Lines

/-!
# Places in scripts

* `SyntaxFault`: why a script cannot be read.
* `Cursor`: what is left of a script that is being read.
* `Scan`: readers of scripts, which know how scripts within scripts are read.
-/

namespace MatrixFlow.Script

/-- What stands where something else should. -/
inductive Token where
  | sign (text : String)
  | reserved (text : String)
  | word (text : Octets)
  | newline
  | ending
deriving DecidableEq, Repr

/-- Why a condition between double brackets cannot be read, with what stands there if messages name
it. -/
inductive ConditionFault where
  /-- There is no condition. -/
  | empty
  /-- The script ends first. -/
  | unended
  | badStart (found : Octets)
  /-- An operand is missing. -/
  | badOperand (binary : Bool) (found : Option Octets)
  /-- An operator with two operands is missing. -/
  | badOperator (found : Option Octets)
  /-- A closing bracket is missing. -/
  | badGroup (found : Option Octets)
  /-- Something follows the condition. -/
  | badRest (found : Option Octets)
deriving DecidableEq, Repr

/-- Why a script cannot be read. -/
inductive SyntaxFault where
  /-- The mark that closes is missing. -/
  | unclosed (line : Nat) (mark : String)
  /-- What a function is called is no name. -/
  | badFunctionName (line : Nat)
  | badLoopName (line : Nat) (token : Token)
  | unexpected (line : Nat) (token : Token) (expected : Option String)
  /-- A condition cannot be read; what was read last is `near`. -/
  | badCondition (line : Nat) (cause : ConditionFault) (near : Octets)
  /-- A loop that counts has too few formulas, or too many. -/
  | badFormulas (line : Nat) (tooMany : Bool) (formulas : Octets)
  /-- The fault is in a script within the script. -/
  | nested (f : SyntaxFault)
  /-- The fault is among elements in brackets. -/
  | listed (f : SyntaxFault)
deriving DecidableEq, Repr

/-- A document in a script: its number, the line that ends it, whether leading tabs go, and whether
it is taken as it is. -/
structure Pending where
  number : Nat
  /-- The line that it is announced on. -/
  line : Nat
  ending : Octets
  stripTabs : Bool
  quoted : Bool
deriving Repr

/-- What is left of a script. -/
structure Cursor where
  dialect : Dialect
  /-- Words may hold patterns with groups. -/
  groups : Bool
  /-- What stands for the first words of commands. -/
  aliases : List (String × Octets)
  /-- Aliases whose text is being read, each with the length of what is left behind the text. -/
  expanding : List (String × Nat)
  rest : Octets
  line : Nat
  /-- Documents whose text begins at the next line. -/
  pending : List Pending
  /-- The documents that have been read. -/
  documents : List (Nat × Word)
  /-- Documents that ended with the script: the last line, the line that announced the document, and
  the one that should have ended it. -/
  unended : List (Nat × Nat × Octets)
  /-- The number of the next document. -/
  count : Nat
deriving Repr

namespace Cursor

/-- The start of a script at a line, whose documents are numbered from `count` on. -/
def start (dialect : Dialect) (line count : Nat) (cs : Octets) : Cursor :=
  ⟨dialect, false, [], [], cs, line, [], [], [], count⟩

/-- More fuel than reading needs. -/
def fuel (c : Cursor) : Nat := 8 * c.rest.length + 64

end Cursor

/-- Reads the commands of a script within the script. If it `closes`, a bracket has to follow them. -/
abbrev NestedReader := (closes : Bool) → Cursor → Except SyntaxFault Cursor

/-- A reader of a script, which knows how scripts within it are read. -/
abbrev Scan := ReaderT NestedReader (StateT Cursor (Except SyntaxFault))

/-- What begins here is read as in the dialect with more words. -/
def isExtended : Scan Bool := do
  return (← get).dialect == .extended

/-- Takes away so many characters; lines are counted. -/
def advance (n : Nat) : Scan Unit :=
  modify fun c =>
    { c with
      rest := c.rest.drop n
      line := c.line + ((c.rest.take n).filter (· == '\n')).length }

/-- The line on which a fault is found whose cause begins at a line: in the plain dialect, the line
on which the script ends. -/
def faultLine (start : Nat) : Scan Nat := do
  let c ← get
  match c.dialect with
  | .plain => return c.line + (c.rest.filter (· == '\n')).length
  | .extended => return start

/-- Characters that end a word. -/
def isMeta (c : Char) : Bool :=
  [' ', '\t', '\n', ';', '&', '|', '<', '>', '(', ')'].contains c

/-- The first character of a name. -/
def isNameStart (c : Char) : Bool :=
  c.isAlpha || c == '_'

/-- A further character of a name. -/
def isNameRest (c : Char) : Bool :=
  c.isAlphanum || c == '_'

/-- Names of parameters that are one sign. -/
def isSpecialParam (c : Char) : Bool :=
  ['?', '$', '#', '@', '*', '!', '-'].contains c

/-- Splits off the first line of a text; the line ending goes. -/
def splitLine (cs : Octets) : Octets × Octets :=
  let line := cs.takeWhile (· != '\n')
  (line, cs.drop (line.length + 1))

/-- The lines of a text with their endings. -/
def fullLines (cs : Octets) : List Octets :=
  let pieces := Text.splitOn '\n' cs
  let ended := pieces.dropLast.map (· ++ ['\n'])
  match pieces.getLast? with
  | some [] | none => ended
  | some last => ended ++ [last]

/-- The lines of a text without their endings. -/
def bareLines (cs : Octets) : List Octets :=
  (fullLines cs).map fun line => if line.getLast? = some '\n' then line.dropLast else line

/-- What stands up to the square bracket that closes, and what follows. -/
def takeIndex : (depth : Nat) → Octets → Option (Octets × Octets)
  | _, [] => none
  | depth, '\\' :: c :: r => (takeIndex depth r).map fun (cs, rest) => ('\\' :: c :: cs, rest)
  | depth, c :: r =>
    if c == ']' && depth = 0 then some ([], r)
    else
      let depth := if c == '[' then depth + 1 else if c == ']' then depth - 1 else depth
      (takeIndex depth r).map fun (cs, rest) => (c :: cs, rest)

end MatrixFlow.Script
