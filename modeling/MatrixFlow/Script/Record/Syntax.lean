import MatrixFlow.Script.Record.Value
import MatrixFlow.Script.Regex

/-!
# Record programs

A program has rules: what is done for each record of the input that a pattern is for.

* `Expr`, `Place`: expressions, and what they can give a value to.
* `Stmt`: statements.
* `Rule`, `Program`: rules and whole programs.
-/

namespace MatrixFlow.Script.Record

/-- Where a variable stands: among those of the program, or those of a function. -/
inductive Slot where
  | shared (index : Nat)
  | own (index : Nat)
deriving DecidableEq, Repr

/-- What is computed from two numbers. -/
inductive Operator where
  | add
  | subtract
  | multiply
  | divide
  | remainder
  | power
deriving DecidableEq, Repr

/-- What is asked about two values. -/
inductive Relation where
  | less
  | lessOrEqual
  | equal
  | notEqual
  | greater
  | greaterOrEqual
deriving DecidableEq, Repr

/-- Functions that every program knows. -/
inductive Builtin where
  | atan2
  | close
  | cos
  | exp
  | flush
  | index
  | int
  | length
  | log
  | lower
  | matching
  | random
  | seed
  | sin
  | sprintf
  | sqrt
  | substr
  | system
  | upper
deriving DecidableEq, Repr

mutual

/-- What can be given a value. -/
inductive Place where
  | variable (v : Slot)
  | element (table : Slot) (keys : List Expr)
  | field (index : Expr)

/-- An expression. -/
inductive Expr where
  | number (x : Float)
  | text (cs : Octets)
  /-- An expression that the record is matched against. -/
  | regex (r : Regex)
  | place (p : Place)
  | assign (p : Place) (op : Option Operator) (value : Expr)
  /-- One more or less; the value is that `before` the change, or the one behind it. -/
  | count (p : Place) (up before : Bool)
  | negative (e : Expr)
  | positive (e : Expr)
  | not (e : Expr)
  | compute (op : Operator) (a b : Expr)
  | join (a b : Expr)
  | compare (r : Relation) (a b : Expr)
  | matching (negated : Bool) (a b : Expr)
  /-- The keys are in a table. -/
  | member (keys : List Expr) (table : Slot)
  | both (a b : Expr)
  | either (a b : Expr)
  | choose (c a b : Expr)
  | call (function : Nat) (args : List Expr)
  | apply (b : Builtin) (args : List Expr)
  /-- The size of a table, or the length of a text. -/
  | size (v : Slot)
  | split (e : Expr) (table : Slot) (separator : Option Expr)
  | substitute (everywhere : Bool) (pattern replacement : Expr) (p : Place)
  /-- Reads a record of the input. -/
  | read (p : Option Place)
  | readFile (path : Expr) (p : Option Place)
  /-- Reads a record of the output of a command. -/
  | readCommand (command : Expr) (p : Option Place)

end

instance : Inhabited Expr := ⟨.number 0.0⟩

/-- Where something is printed. -/
inductive Sink where
  | standard
  | file (path : Expr)
  /-- At the end of a file. -/
  | append (path : Expr)
  /-- Into the input of a command. -/
  | command (e : Expr)

/-- A statement. -/
inductive Stmt where
  | nothing
  | expr (e : Expr)
  | print (args : List Expr) (sink : Sink)
  | printf (args : List Expr) (sink : Sink)
  | block (body : List Stmt)
  | choose (c : Expr) (a b : Stmt)
  | loop (c : Expr) (body : Stmt)
  /-- The body comes before the condition. -/
  | loopAfter (body : Stmt) (c : Expr)
  | loopFrom (first : Stmt) (c : Option Expr) (step body : Stmt)
  | forKeys (v table : Slot) (body : Stmt)
  | next
  | nextFile
  | exit (e : Option Expr)
  | back (e : Option Expr)
  | leave
  | again
  | delete (table : Slot) (keys : List Expr)
  | clear (table : Slot)

instance : Inhabited Stmt := ⟨.nothing⟩

/-- When a rule applies. -/
inductive Pattern where
  /-- Before the first record. -/
  | start
  /-- After the last record. -/
  | finish
  | always
  | when (e : Expr)
  /-- From a record up to another one. -/
  | between (a b : Expr)

/-- What is done when a pattern applies; without an action the record is printed. -/
structure Rule where
  pattern : Pattern
  action : Option Stmt

/-- A function of a program. -/
structure Function where
  name : String
  params : Nat
  body : Stmt

/-- A program: the names of its variables, its functions and its rules. -/
structure Program where
  names : Array String
  functions : Array Function
  rules : List Rule

/-! ## Variables with a meaning -/

namespace Special

/-- How many fields there are. -/
def fieldCount : Nat := 0

/-- How many records have been read. -/
def recordCount : Nat := 1

/-- How many records of the file have been read. -/
def fileRecordCount : Nat := 2

/-- What separates fields in the input. -/
def fieldSeparator : Nat := 3

/-- What is printed between fields. -/
def outputSeparator : Nat := 4

/-- What ends records in the input. -/
def recordSeparator : Nat := 5

/-- What is printed behind records. -/
def outputEnding : Nat := 6

/-- What stands between the keys of a table. -/
def keySeparator : Nat := 7

/-- Where a match begins. -/
def matchStart : Nat := 8

/-- How long a match is. -/
def matchLength : Nat := 9

/-- The file that is read. -/
def fileName : Nat := 10

/-- How numbers are printed. -/
def printForm : Nat := 11

/-- How numbers become texts. -/
def textForm : Nat := 12

/-- The variables of the surroundings. -/
def environment : Nat := 13

/-- How many arguments there are. -/
def argumentCount : Nat := 14

/-- The arguments. -/
def arguments : Nat := 15

/-- The names of these variables, in order. -/
def names : Array String :=
  #["NF", "NR", "FNR", "FS", "OFS", "RS", "ORS", "SUBSEP", "RSTART", "RLENGTH", "FILENAME",
    "OFMT", "CONVFMT", "ENVIRON", "ARGC", "ARGV"]

end Special

end MatrixFlow.Script.Record
