/-!
# Syntax of scripts

The command language in which steps are written. The characters of a script stand for its bytes.

* `Octets`: a text whose characters stand for bytes.
* `WordPart`: a piece of a word, before it is expanded.
* `Redirect`: where a command reads or writes.
* `Condition`: a condition between double brackets.
* `Node`: a command, simple or made of others.
-/

namespace MatrixFlow.Script

/-- A text whose characters stand for bytes. -/
abbrev Octets := List Char

/-- The dialects of the language. -/
inductive Dialect where
  /-- What every shell understands. -/
  | plain
  /-- With conditions between double brackets, and more. -/
  | extended
deriving DecidableEq, Repr, Inhabited

/-- What a shell has been asked to do differently. -/
structure Options where
  /-- A command that fails ends the shell. -/
  stopsOnFailure : Bool := false
  /-- A missing variable is an error. -/
  needsValues : Bool := false
  /-- A pipeline fails if one of its parts does. -/
  partsCount : Bool := false
  /-- Patterns stand for themselves. -/
  keepsPatterns : Bool := false
  /-- Commands are shown before they run. -/
  traces : Bool := false
  /-- Programs see every variable that is assigned. -/
  exportsAll : Bool := false
  /-- Files are not written over. -/
  keepsFiles : Bool := false
  /-- What runs at failures runs in functions and subshells too. -/
  trapsInside : Bool := false
  /-- A pattern that matches no path stands for nothing. -/
  dropsPatterns : Bool := false
  /-- A pattern that matches no path is an error. -/
  demandsPaths : Bool := false
  /-- Patterns match names that begin with a point. -/
  seesHidden : Bool := false
  /-- Two stars match any number of directories. -/
  deepStars : Bool := false
  /-- Conditions and selections ignore the case of letters. -/
  ignoresCase : Bool := false
  /-- Patterns for paths ignore the case of letters. -/
  pathsIgnoreCase : Bool := false
  /-- Patterns may have groups. -/
  groups : Bool := false
  /-- Aliases are looked at. -/
  expandsAliases : Bool := false
  /-- The last part of a pipeline runs in the shell itself. -/
  lastHere : Bool := false
  /-- The names of the other options that are on. -/
  others : List String := []
deriving DecidableEq, Repr, Inhabited

/-- Nothing is different. -/
def Options.none : Options := {}

/-- What becomes of the value of a parameter. With `colon`, an empty value counts as none. -/
inductive ParamRule where
  | value
  | length
  /-- The word stands in for a missing value. -/
  | orElse (colon : Bool)
  /-- The same, and the word becomes the value. -/
  | assign (colon : Bool)
  /-- A missing value is an error. -/
  | demand (colon : Bool)
  /-- The word stands in for a value that is there. -/
  | instead (colon : Bool)
  /-- What matches the word goes from the start. -/
  | dropStart (longest : Bool)
  /-- What matches the word goes from the end. -/
  | dropEnd (longest : Bool)
  /-- A part, from a position on, and so many characters if the word tells how many. -/
  | slice
  /-- What matches the word up to its divider becomes what follows the divider. -/
  | replace (everywhere : Bool)
  /-- Letters that match the word become upper or lower case, all or the first one. -/
  | letters (upper all : Bool)
  /-- The numbers or names of the elements instead of their values. -/
  | keys
  /-- The names of the variables that begin so instead of a value. -/
  | names (joined : Bool)
  /-- Another form of the value, by its letter. -/
  | form (letter : Char)
deriving DecidableEq, Repr, Inhabited

/-- A piece of a word. -/
inductive WordPart where
  | text (quoted : Bool) (cs : Octets)
  /-- A parameter, one element of it if there is an index. With `indirect`, its value is the name of
  the parameter that is meant. -/
  | param (quoted : Bool) (name : String) (index : List WordPart) (indirect : Bool)
      (rule : ParamRule) (word : List WordPart)
  /-- What stands between a pattern and what replaces it. -/
  | divider
  /-- The output of a script, which begins at a line of its own or of what it stands in. -/
  | command (quoted : Bool) (line : Nat) (source : Octets)
  | arithmetic (quoted : Bool) (body : List WordPart)
  /-- A path at which the output of a script can be read. -/
  | process (line : Nat) (source : Octets)
  /-- Elements in brackets that are assigned to a variable, each with its index if it has one. -/
  | elements (appends : Bool) (name : Octets) (items : List (List WordPart × List WordPart))
  /-- A parameter with a rule that there is not, as it is written. -/
  | invalid (source : Octets)
deriving Repr, Inhabited

/-- A word before it is expanded. -/
abbrev Word := List WordPart

/-- An assignment, to one element if there is an index. With `appends`, the value goes behind the old
one. -/
structure Assignment where
  name : String
  index : Word
  appends : Bool
  value : Word
deriving Repr, Inhabited

/-- How a descriptor is redirected. -/
inductive RedirectKind where
  | read
  | write
  /-- The same, whatever the options say about files that are there. -/
  | overwrite
  | append
  /-- To what another descriptor stands for, or to nothing. -/
  | duplicate
  /-- Both outputs to a file, behind what it holds if `appends`. -/
  | both (appends : Bool)
  /-- From the text of a document in the script. -/
  | document
  /-- From the target itself. -/
  | literal
deriving DecidableEq, Repr, Inhabited

/-- Where a command reads or writes. The text of a document is named by its number. -/
structure Redirect where
  descriptor : Nat
  kind : RedirectKind
  target : Word
  number : Nat
deriving Repr, Inhabited

/-- A condition between double brackets. -/
inductive Condition where
  | nonempty (word : Word)
  | unary (operator : String) (word : Word)
  | binary (operator : String) (left right : Word)
  | negated (c : Condition)
  | both (a b : Condition)
  | either (a b : Condition)
deriving Repr, Inhabited

/-- How a selection goes on behind an arm. -/
inductive ArmEnd where
  /-- The selection is over. -/
  | stops
  /-- The next arm runs too. -/
  | fallsThrough
  /-- The next arms are looked at too. -/
  | looksOn
deriving DecidableEq, Repr, Inhabited

/-- Commands for which assignments in front of them stay, and whose faults end the shell. In the plain
dialect, functions cannot have their names. -/
def isSpecial (name : String) : Bool :=
  [":", ".", "break", "continue", "eval", "exec", "exit", "export", "readonly", "return", "set",
    "shift", "times", "trap", "unset"].contains name

/-- A command. -/
inductive Node where
  | simple (line : Nat) (source : Octets) (assignments : List Assignment) (words : List Word)
      (redirects : List Redirect)
  | redirected (body : Node) (redirects : List Redirect)
  | pipeline (negated : Bool) (parts : List Node)
  /-- The time that it takes is told, in one of two forms. -/
  | timed (portable : Bool) (body : Node)
  | both (first second : Node)
  | either (first second : Node)
  | background (body : Node)
  | sequence (parts : List Node)
  | subshell (body : Node)
  | choice (condition yes : Node) (no : Option Node)
  | loop (untilTrue : Bool) (condition body : Node)
  /-- For each word, or for each one that is chosen from a menu. -/
  | each (line : Nat) (chooses : Bool) (source : Octets) (name : String)
      (words : Option (List Word)) (body : Node)
  | counted (line : Nat) (start condition step : Word) (body : Node)
  | select (line : Nat) (source : Octets) (word : Word) (arms : List (List Word × Node × ArmEnd))
  | function (name : String) (body : Node)
  | condition (line : Nat) (c : Condition)
  | arithmetic (line : Nat) (body : Word)
deriving Repr, Inhabited

end MatrixFlow.Script
