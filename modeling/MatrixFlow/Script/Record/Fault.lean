import MatrixFlow.Script.Regex
import MatrixFlow.Script.Session

/-!
# Faults of record programs

* `ProgramFault`: why a program cannot be read.
* `RunFault`: why a run cannot go on.
-/

namespace MatrixFlow.Script.Record

/-- Why a program cannot be read. -/
inductive ProgramFault where
  | unexpected (near : Octets)
  /-- A bracket is open where something stands. -/
  | openBracket (near : Octets)
  | openBlock
  /-- A sign closes nothing; the line may end behind it. -/
  | extra (c : Char) (ends : Bool)
  | openText (start : Octets)
  | openRegex (start : Octets)
  | unknownCharacter (c : Char)
  | argumentCount (name : String)
  | manyArguments (name : String)
  | noArguments (name : String)
  | undefined (name : String)
  /-- A name stands for something of another kind. -/
  | kind (kind name : String)
  | outsideFunction
  | outsideLoop (name : String)
  | misplaced (name : String)
  | duplicate (name : String)
  | badRegex (f : RegexFault) (text : Octets)
deriving DecidableEq, Repr

/-- Why a run cannot go on. -/
inductive RunFault where
  /-- An expression cannot be read. -/
  | badRegex (f : RegexFault) (text : Octets)
  | fewValues (name : String) (format : Octets)
  | badDirective (number : Nat) (name : String) (format : Octets)
  | negativeField (index : Int)
  | negativeCount
  | unreadable (path : Octets) (reason : String)
  | unwritable (path : Octets) (reason : String)
  | directory
deriving DecidableEq, Repr

/-- What is wrong with an expression. -/
def regexReason : RegexFault → String
  | .openGroup => "missing \x27)\x27"
  | .closedGroup => "missing \x27(\x27"
  | .badRepeat => "missing operand"
  | _ => "bad class \x2d\x2d [], [^] or ["

/-- A message about an expression. -/
def regexMessage (f : RegexFault) (text : Octets) : Octets :=
  octets ("regular expression compile failed (" ++ regexReason f ++ ")\n") ++ text

/-- The first characters of something that does not end. -/
def startText (start : Octets) : Octets :=
  start.take 10 ++ octets " ..."

/-- The fault in words, behind the name of the program and at a line. -/
def ProgramFault.message (line : Nat) : ProgramFault → Octets
  | unexpected near => place line ++ octets "syntax error at or near " ++ near
  | openBracket near => place line ++ octets "missing ) near " ++ near
  | openBlock => place line ++ octets "missing \x7d near end of file"
  | extra c _ => place line ++ octets "extra \x27" ++ [c, '\x27']
  | openText start => place line ++ octets "runaway string constant \x22" ++ startText start
  | openRegex start => place line ++ octets "runaway regular expression /" ++ startText start
  | unknownCharacter c =>
    octets (toString line ++ ": unexpected character \x27") ++ [c, '\x27']
  | argumentCount name =>
    place line ++ octets ("wrong number of arguments in call to " ++ name)
  | manyArguments name => place line ++ octets ("too many arguments in call to " ++ name)
  | noArguments name => place line ++ octets ("no arguments in call to " ++ name)
  | undefined name => place line ++ octets ("function " ++ name ++ " never defined")
  | kind k name => place line ++ octets ("illegal reference to " ++ k ++ " " ++ name)
  | outsideFunction => place line ++ octets "return outside function body"
  | outsideLoop name => place line ++ octets (name ++ " statement outside of loop")
  | misplaced name => place line ++ octets ("improper use of " ++ name)
  | duplicate name => place line ++ octets (name ++ " is duplicated in argument list")
  | badRegex f text => place line ++ regexMessage f text
where
  /-- A line in front of a message. -/
  place (line : Nat) : Octets := octets ("line " ++ toString line ++ ": ")

/-- What is said about a fault at a line. -/
def ProgramFault.messages (line : Nat) (f : ProgramFault) : List Octets :=
  f.message line :: match f with
    | extra _ true => [message line (.unexpected (octets "end of line"))]
    | _ => []

/-- The fault in words; `position` tells how far the input has been read. -/
def RunFault.message (position : Octets) : RunFault → Octets
  | badRegex f text => running ++ regexMessage f text ++ position
  | fewValues name format =>
    running ++ octets ("not enough arguments passed to " ++ name ++ "(\x22") ++ format ++
      octets "\x22)" ++ position
  | badDirective number name format =>
    running ++ octets ("improper conversion(number " ++ toString number ++ ") in " ++ name ++
      "(\x22") ++ format ++ octets "\x22)" ++ position
  | negativeField index =>
    running ++ octets ("negative field index $" ++ toString index) ++ position
  | negativeCount => running ++ octets "negative value assigned to NF" ++ position
  | unreadable path reason =>
    octets "cannot open \x22" ++ path ++ octets ("\x22 (" ++ reason ++ ")")
  | unwritable path reason =>
    octets "cannot open \x22" ++ path ++ octets ("\x22 for output (" ++ reason ++ ")")
  | directory => octets "read error (Is a directory)"
where
  /-- What stands in front of faults of a run. -/
  running : Octets := octets "run time error: "

end MatrixFlow.Script.Record
