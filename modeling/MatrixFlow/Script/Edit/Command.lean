import MatrixFlow.Script.Regex
import MatrixFlow.Script.Session

/-!
# Edit commands

Commands for the lines of a text. Each is for the lines that its addresses name.

* `EditCommand`: a command with its addresses; `EditAction`: what it does.
* `EditFault`: why commands cannot be read, or cannot go on.
* `shownPlainly`: a text in which every character can be seen.
-/

namespace MatrixFlow.Script

/-- An expression, and what does not count when it matches. -/
structure EditSearch where
  regex : Regex
  rules : Regex.MatchRules

/-- The lines that an address names. -/
inductive LineAddress where
  | line (n : Nat)
  /-- Every so many lines from a line on. -/
  | step (first step : Nat)
  | lastLine
  /-- Lines that match; without an expression, the one that was used last. -/
  | matching (search : Option EditSearch)
  /-- So many lines behind the first one. -/
  | more (count : Nat)
  /-- Up to a multiple of a number. -/
  | multiple (n : Nat)

/-- How letters are written. -/
inductive LetterCase where
  | kept
  | upper
  | lower
deriving DecidableEq, Repr

/-- A part of what stands in for a match. -/
inductive ReplacementPart where
  | text (cs : Octets)
  /-- The text of a group; the whole match has the number zero. -/
  | group (number : Nat)
  /-- All letters from here on are written this way. -/
  | turn (way : LetterCase)
  /-- The next letter is written this way. -/
  | turnOne (way : LetterCase)
deriving Repr

/-- Something stands in for matches. -/
structure Substitution where
  search : Option EditSearch
  replacement : List ReplacementPart
  /-- The number of the first match that it stands in for. -/
  first : Nat
  /-- It stands in for those behind it too. -/
  everywhere : Bool
  /-- The line is shown if there was a match. -/
  shows : Bool
  /-- The line is run as a command if there was a match. -/
  runs : Bool
  /-- The line is added to a file if there was a match. -/
  file : Option Octets

/-- When a command goes to a label. -/
inductive BranchRule where
  | always
  /-- Something has been replaced since the line was read. -/
  | ifReplaced
  | unlessReplaced
deriving DecidableEq, Repr

/-- What a command does. There is a line that is worked on, and one that is held. -/
inductive EditAction where
  | openBlock
  | closeBlock
  | label (name : Octets)
  /-- Goes to a label; without a name, to the end. -/
  | branch (rule : BranchRule) (name : Octets)
  /-- A text comes behind the line. -/
  | append (text : Octets)
  /-- A text comes in front of the line. -/
  | insert (text : Octets)
  /-- A text comes in the place of the lines. -/
  | change (text : Octets)
  | delete
  /-- Deletes the first of several lines. -/
  | deleteFirst
  | print
  | printFirst
  /-- Shows the line so that every character can be seen. -/
  | printPlainly (width : Option Nat)
  | printNumber
  | printName
  /-- Goes on with the next line. -/
  | next
  /-- Puts the next line behind this one. -/
  | nextToo
  | hold
  | holdToo
  | recall
  | recallToo
  | exchange
  | clear
  /-- Stops; the line is shown first if it `shows`. -/
  | quit (shows : Bool) (code : Nat)
  | readFile (path : Octets)
  | readLine (path : Octets)
  | writeLine (path : Octets)
  | writeFirst (path : Octets)
  | substitute (s : Substitution)
  /-- Puts characters in the place of others. -/
  | translate (table : List (Char × Char))
  /-- Runs a command, or the line if there is none. -/
  | run (command : Option Octets)
  | nothing

/-- A command with the lines that it is for. -/
structure EditCommand where
  first : Option LineAddress
  last : Option LineAddress
  /-- The command is for the other lines. -/
  negated : Bool
  action : EditAction

/-! ## Faults -/

/-- Why commands cannot be read. -/
inductive EditFault where
  | unknownCommand (c : Char)
  | missingCommand
  | leftOver
  | unexpectedComma
  | unmatchedOpen
  | unexpectedClose
  | closeWithAddress
  | severalNots
  | lineZero
  | countFirst
  | textExpected
  | openAddress
  | openCommand (c : Char)
  | unknownFlag
  | severalFlags (c : Char)
  | severalNumbers
  | numberZero
  | missingFile
  | labelMissing
  | labelWithAddress
  | commentWithAddress
  | severalAddresses
  | lengthsDiffer
  | missingGroup (number : Nat)
  | noExpression
  | flagsAlone
  | newerVersion
  | forbidden
  | regex (f : RegexFault)
deriving DecidableEq, Repr

/-- The fault in words. -/
def EditFault.text : EditFault → Octets
  | unknownCommand c => octets "unknown command: \x60" ++ [c, '\x27']
  | missingCommand => octets "missing command"
  | leftOver => octets "extra characters after command"
  | unexpectedComma => octets "unexpected \x60,\x27"
  | unmatchedOpen => octets "unmatched \x60\x7b\x27"
  | unexpectedClose => octets "unexpected \x60\x7d\x27"
  | closeWithAddress => octets "\x60\x7d\x27 doesn\x27t want any addresses"
  | severalNots => octets "multiple \x60!\x27s"
  | lineZero => octets "invalid usage of line address 0"
  | countFirst => octets "invalid usage of +N or ~N as first address"
  | textExpected => octets "expected \\ after \x60a\x27, \x60c\x27 or \x60i\x27"
  | openAddress => octets "unterminated address regex"
  | openCommand c => octets "unterminated \x60" ++ [c] ++ octets "\x27 command"
  | unknownFlag => octets "unknown option to \x60s\x27"
  | severalFlags c => octets "multiple \x60" ++ [c] ++ octets "\x27 options to \x60s\x27 command"
  | severalNumbers => octets "multiple number options to \x60s\x27 command"
  | numberZero => octets "number option to \x60s\x27 command may not be zero"
  | missingFile => octets "missing filename in r/R/w/W commands"
  | labelMissing => octets "\x22:\x22 lacks a label"
  | labelWithAddress => octets ": doesn\x27t want any addresses"
  | commentWithAddress => octets "comments don\x27t accept any addresses"
  | severalAddresses => octets "command only uses one address"
  | lengthsDiffer => octets "strings for \x60y\x27 command are different lengths"
  | missingGroup n =>
    octets "invalid reference \\" ++ Nat.toDigits 10 n ++ octets " on \x60s\x27 command\x27s RHS"
  | noExpression => octets "no previous regular expression"
  | flagsAlone => octets "cannot specify modifiers on empty regexp"
  | newerVersion => octets "expected newer version of sed"
  | forbidden => octets "e/r/w commands disabled in sandbox mode"
  | regex f => octets f.text

/-! ## Plain text -/

/-- A character in a form that can be seen. -/
def shownChar (c : Char) : Octets :=
  let named := [('\\', '\\'), ('\x07', 'a'), ('\x08', 'b'), ('\x0c', 'f'), ('\n', 'n'), ('\r', 'r'),
    ('\t', 't'), ('\x0b', 'v')]
  match named.find? fun (k, _) => k == c with
  | some (_, letter) => ['\\', letter]
  | none =>
    if ' ' ≤ c && c ≤ '~' then [c]
    else
      let digits := Nat.toDigits 8 c.toNat
      '\\' :: List.replicate (3 - digits.length) '0' ++ digits

/-- Pieces in lines of a width; a backslash stands at the end of a line that goes on. Without a
width, lines do not end. -/
def brokenLines (width : Nat) : (column : Nat) → List Octets → Octets
  | _, [] => []
  | column, piece :: rest =>
    if column + piece.length > width - 1 && width > 0 then
      '\\' :: '\n' :: piece ++ brokenLines width piece.length rest
    else piece ++ brokenLines width (column + piece.length) rest

/-- A text in which every character can be seen, in lines of a width. Its end is marked. -/
def shownPlainly (width : Nat) (cs : Octets) : Octets :=
  brokenLines width 0 (cs.map shownChar) ++ ['$', '\n']

end MatrixFlow.Script
