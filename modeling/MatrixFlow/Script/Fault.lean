import MatrixFlow.Script.Builtin
import MatrixFlow.Script.Read.Redirect

/-!
# Messages about scripts

* `SyntaxFault.plainText`, `SyntaxFault.messages`: what is told about a script that cannot be read,
  in each dialect.
* `complainSyntax`: tells it.
* `complainProgram`: why a program cannot be run.
* `complainRedirect`: why a file cannot be used for input or output.
-/

namespace MatrixFlow.Script

/-- What stands somewhere, in the plain dialect. -/
def Token.plainText : Token → String
  | sign s => if (redirectKind? s).isSome then "redirection" else "\x22" ++ s ++ "\x22"
  | reserved s => "\x22" ++ s ++ "\x22"
  | word _ => "word"
  | newline => "newline"
  | ending => "end of file"

/-- What stands somewhere, in the other dialect. -/
def Token.extendedText : Token → Octets
  | sign s | reserved s => octets s
  | word cs => cs
  | newline | ending => octets "newline"

/-- Why a script cannot be read, in the plain dialect. -/
def SyntaxFault.plainText : SyntaxFault → Octets
  | unclosed _ mark => octets (match mark with
      | "\x60" => "Syntax error: EOF in backquote substitution"
      | "\x7d" => "Syntax error: Missing '\x7d'"
      | "))" => "Syntax error: Missing '))'"
      | ")" => "Syntax error: end of file unexpected (expecting \x22)\x22)"
      | _ => "Syntax error: Unterminated quoted string")
  | badFunctionName _ => octets "Syntax error: Bad function name"
  | badCondition .. | badFormulas .. => octets "Syntax error"
  | nested f | listed f => f.plainText
  | badLoopName _ _ => octets "Syntax error: Bad for loop variable"
  | unexpected _ token expected =>
    let ending := match expected with
      | some "word" => " unexpected (expecting word)"
      | some s => " unexpected (expecting \x22" ++ s ++ "\x22)"
      | none => " unexpected"
    octets ("Syntax error: " ++ token.plainText ++ ending)

/-- The line of a fault. -/
def SyntaxFault.line : SyntaxFault → Nat
  | unclosed line _ | badFunctionName line | badLoopName line _ | unexpected line _ _
  | badCondition line _ _ | badFormulas line _ _ => line
  | nested f | listed f => f.line

/-- The script ends too early. -/
def SyntaxFault.isAtEnd : SyntaxFault → Bool
  | unclosed .. => true
  | unexpected _ token _ => token == .ending
  | nested f | listed f => f.isAtEnd
  | _ => false

/-- Why a condition cannot be read; what is wrong may be left to the words that stand there. -/
def ConditionFault.text? (c : ConditionFault) : Option Octets :=
  let named (token : Option Octets) (ending : Octets) : Octets :=
    match token with
    | some cs => octets "unexpected token \x60" ++ cs ++ octets "\x27" ++ ending
    | none => []
  match c with
  | empty => none
  | unended => some (octets "unexpected EOF while looking for \x60]]'")
  | badStart found => some (named (some found) (octets " in conditional command"))
  | badOperand binary found =>
    let name := match found with
      | some cs => octets " \x60" ++ cs ++ octets "\x27"
      | none => []
    some (octets "unexpected argument" ++ name ++
      octets (" to conditional " ++ (if binary then "binary" else "unary") ++ " operator"))
  | badOperator found => some (named found (if found.isSome then [',', ' '] else []) ++
      octets "conditional binary operator expected")
  | badGroup found =>
    some (named found (if found.isSome then [',', ' '] else []) ++ octets "expected \x60)'")
  | badRest found => some (octets "syntax error in conditional expression" ++
      (if found.isSome then [':', ' '] else []) ++ named found [])

/-- The messages about a fault in the extended dialect, each with its line, of a script that begins
at a line. -/
def SyntaxFault.messages (start : Nat) (source : Octets) : SyntaxFault → List (Nat × Octets)
  | unclosed line mark =>
    [(line, octets "unexpected EOF while looking for matching \x60" ++
      octets (if mark = "))" then ")" else mark) ++ octets "'")]
  | badFunctionName line => [(line, octets "syntax error")]
  | badLoopName line token => near line token
  | unexpected line .ending (some "word") => near line .ending
  | unexpected _ .ending _ => [(lastLine, octets "syntax error: unexpected end of file")]
  | unexpected line token _ => near line token
  | badCondition line cause text =>
    let atEnd := cause == .unended || cause == .badStart (octets "EOF")
    let first := cause.text?.toList.map fun cs =>
      (if cause == .unended then line else if atEnd then lastLine else line, cs)
    let near := if text.isEmpty then lastWord (lineText line) else text
    first ++
      if atEnd then [(lastLine, octets "syntax error: unexpected end of file")]
      else [(line, octets "syntax error near \x60" ++ near ++ octets "'"), shown line]
  | badFormulas line tooMany formulas =>
    [(line, octets (if tooMany then "syntax error: \x60;' unexpected"
      else "syntax error: arithmetic expression required")),
     (line, octets "syntax error: \x60((" ++ formulas ++ octets "))'")]
  | nested f =>
    match f with
    | .unexpected _ .ending _ =>
      [(lastLine, octets "unexpected EOF while looking for matching \x60)'")]
    | f => f.messages start source
  | listed f => f.messages start source
where
  /-- The number of the line at which the script is over. -/
  lastLine : Nat := (fullLines source).length + start
  /-- The text of a line. -/
  lineText (line : Nat) : Octets := (Text.splitOn '\n' source)[line - start]?.getD []
  /-- A line as it stands in the script. -/
  shown (line : Nat) : Nat × Octets := (line, '\x60' :: lineText line ++ octets "'")
  /-- The last word of a line, whatever it stands in. -/
  lastWord (cs : Octets) : Octets :=
    let backwards := cs.reverse.dropWhile fun c => c == ' ' || c == '\t'
    (backwards.takeWhile fun c => !(" \t;|&".toList.contains c)).reverse
  /-- What stands where something else should. -/
  near (line : Nat) (token : Token) : List (Nat × Octets) :=
    [(line, octets "syntax error near unexpected token \x60" ++ token.extendedText ++ octets "'"),
     shown line]

/-- Tells why a script cannot be read that began at a line, with the name of what was read. Where
other commands do not test it, a shell that ends at failures ends at the first message. -/
def complainSyntax (tested : Bool) (reader : Octets) (start : Nat) (source : Octets)
    (f : SyntaxFault) : Eval Unit := do
  let scope ← getScope
  setStatus 2
  match scope.dialect with
  | .plain =>
    emit 2 (scope.reader f.line ++ f.plainText ++ ['\n'])
    throw .exit
  | .extended =>
    let name := scope.speakerName
    let speaker := if reader == name then name else name ++ [':', ' '] ++ reader
    let messages := (f.messages start source).map fun (line, text) =>
      speaker ++ octets (": line " ++ toString line ++ ": ") ++ text ++ ['\n']
    if scope.options.stopsOnFailure && !tested then
      emit 2 (messages.headD [])
      throw .exit
    else
      emit 2 messages.flatten
      match f with
      | .listed _ =>
        setStatus 1
        throw .exit
      | .nested f =>
        if !f.isAtEnd then
          setStatus (if scope.inline then 127 else 2)
          throw .exit
      | _ => return

/-- Tells about documents that ended with the script. -/
def warnUnended (unended : List (Nat × Nat × Octets)) : Eval Unit := do
  let scope ← getScope
  if scope.dialect = .extended then
    unended.forM fun (line, start, ending) =>
      emit 2 (scope.speaker line ++ octets ("warning: here-document at line " ++ toString start ++
        " delimited by end-of-file (wanted \x60") ++ ending ++ octets "')\n")

/-- Tells why a program cannot be run. -/
def complainProgram (name : Octets) (f : FileFault) : Eval Unit := do
  let scope ← getScope
  let slashed := name.contains '/'
  match scope.dialect, f with
  | .plain, .missing => complain (name ++ octets ": not found")
  | .plain, .isDirectory | .plain, .denied => complain (name ++ octets ": Permission denied")
  | .plain, f => complain (name ++ octets ": " ++ octets f.text)
  | .extended, .missing =>
    let slashed := slashed || (scope.value? "PATH").isNone
    complain (name ++
      octets (if slashed then ": No such file or directory" else ": command not found"))
  | .extended, f => complain (name ++ octets ": " ++ octets f.text)
  setStatus (if f = .missing || f = .notDirectory then 127 else 126)

/-- Tells why a file cannot be used for input or output. -/
def complainRedirect (path : Octets) (reads : Bool) (f : FileFault) : Eval Unit := do
  match (← getScope).dialect with
  | .plain =>
    let verb := if reads then "cannot open " else "cannot create "
    let text := match f, reads with
      | .missing, true => "No such file"
      | .missing, false => "Directory nonexistent"
      | f, _ => f.text
    complain (octets verb ++ path ++ octets (": " ++ text))
    setStatus 2
  | .extended =>
    complain (path ++ octets (": " ++ f.text))
    setStatus 1

end MatrixFlow.Script
