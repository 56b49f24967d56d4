import MatrixFlow.Script.Record.Fault
import MatrixFlow.Script.Record.Value

/-!
# Lexemes of record programs

* `Lexeme`: a piece of a program.
* `lexeme`: the piece that a program begins with, and what follows.
* `unescaped`: a text whose escapes have been put into place.
-/

namespace MatrixFlow.Script.Record

/-- A piece of a program. -/
inductive Lexeme where
  | number (x : Float) (spelling : Octets)
  | text (cs : Octets)
  /-- A name; a bracket follows it at once if it is `called`. -/
  | name (s : String) (called : Bool)
  /-- A word of the language. -/
  | word (s : String)
  /-- The name of a function that every program knows. -/
  | builtin (s : String)
  | sign (s : String)
  | newline
  | ending
  | fault (f : ProgramFault)

/-! ## Texts and expressions -/

/-- The value of up to three octal digits, and what follows. -/
def octalHere : (count value : Nat) → Octets → Nat × Octets
  | 0, value, cs => (value, cs)
  | _, value, [] => (value, [])
  | count + 1, value, c :: r =>
    if '0' ≤ c && c ≤ '7' then octalHere count (8 * value + (c.toNat - '0'.toNat)) r
    else (value, c :: r)

/-- The character that a letter behind a backslash stands for. -/
def escapedLetter? : Char → Option Char
  | '\x22' => some '\x22'
  | '\\' => some '\\'
  | 'b' => some '\x08'
  | c => Regex.letter? c

/-- A text whose escapes have been put into place; others stay as they are. -/
def unescapedFrom : (fuel : Nat) → Octets → Octets
  | 0, _ => []
  | fuel + 1, cs =>
    match cs with
    | [] => []
    | '\\' :: '\n' :: r => unescapedFrom fuel r
    | '\\' :: c :: r =>
      match escapedLetter? c with
      | some d => d :: unescapedFrom fuel r
      | none =>
        if '0' ≤ c && c ≤ '7' then
          let (value, rest) := octalHere 3 0 (c :: r)
          Char.ofNat (value % 256) :: unescapedFrom fuel rest
        else
          let (value, count) := leadingNumber 16 2 (r.take 2)
          if c == 'x' && 0 < count then
            Char.ofNat value :: unescapedFrom fuel (r.drop count)
          else '\\' :: c :: unescapedFrom fuel r
    | c :: r => c :: unescapedFrom fuel r

/-- A text whose escapes have been put into place. -/
def unescaped (cs : Octets) : Octets := unescapedFrom (cs.length + 1) cs

/-- What stands up to the quotation mark that closes, and what follows. -/
def quotedPart? : Octets → Option (Octets × Octets)
  | [] => none
  | '\x22' :: r => some ([], r)
  | '\\' :: c :: r => (quotedPart? r).map fun (cs, rest) => ('\\' :: c :: cs, rest)
  | c :: r => if c == '\n' then none else (quotedPart? r).map fun (cs, rest) => (c :: cs, rest)

/-- Where a reader of an expression stands. -/
inductive BracketPlace where
  | outside
  /-- Behind the bracket that opens a set. -/
  | opening
  | inside
deriving DecidableEq, Repr

/-- An expression up to the slash that closes, and what follows. -/
def regexPart? : BracketPlace → Octets → Option (Octets × Octets)
  | _, [] => none
  | place, '\\' :: c :: r =>
    let place := if place = .opening then .inside else place
    (regexPart? place r).map fun (cs, rest) =>
      (if c == '/' then '/' :: cs else '\\' :: c :: cs, rest)
  | place, c :: r =>
    if c == '\n' then none
    else if c == '/' && place = .outside then some ([], r)
    else
      let place : BracketPlace := match place with
        | .outside => if c == '[' then .opening else .outside
        | .opening => if c == '^' then .opening else .inside
        | .inside => if c == ']' then .outside else .inside
      (regexPart? place r).map fun (cs, rest) => (c :: cs, rest)

/-! ## Pieces -/

/-- What follows blanks, comments and broken lines. -/
def skipBlanks : Octets → Octets
  | '\\' :: '\n' :: r => skipBlanks r
  | '#' :: r => r.dropWhile (· != '\n')
  | c :: r => if c == ' ' || c == '\t' || c == '\r' || c == '\x0c' then skipBlanks r else c :: r
  | [] => []

/-- The words of the language. -/
def words : List String :=
  ["BEGIN", "END", "if", "else", "while", "for", "do", "in", "print", "printf", "function",
    "getline", "delete", "next", "nextfile", "exit", "return", "break", "continue"]

/-- The functions that every program knows, with the least and the greatest count of their
arguments. -/
def builtins : List (String × Nat × Nat) :=
  [("atan2", 2, 2), ("close", 1, 1), ("cos", 1, 1), ("exp", 1, 1), ("fflush", 0, 1),
    ("gsub", 2, 3), ("index", 2, 2), ("int", 1, 1), ("length", 0, 1), ("log", 1, 1),
    ("match", 2, 2), ("rand", 0, 0), ("sin", 1, 1), ("split", 2, 3), ("sprintf", 1, 1000),
    ("sqrt", 1, 1), ("srand", 0, 1), ("sub", 2, 3), ("substr", 2, 3), ("system", 1, 1),
    ("tolower", 1, 1), ("toupper", 1, 1)]

/-- The signs of the language, longer ones first. -/
def signs : List String :=
  ["&&", "||", "++", "\x2d\x2d", "+=", "-=", "*=", "/=", "%=", "^=", "==", "<=", ">=", "!=", "!~",
    ">>", "\x7b", "\x7d", "(", ")", "[", "]", ";", ",", "+", "-", "*", "/", "%", "^", "!", "<",
    ">", "|", "?", ":", "~", "$", "="]

/-- The piece that a program begins with, and what follows. -/
def lexeme (cs : Octets) : Lexeme × Octets :=
  match skipBlanks cs with
  | [] => (.ending, [])
  | '\n' :: r => (.newline, r)
  | '\x22' :: r =>
    match quotedPart? r with
    | some (cs, rest) => (.text (unescaped cs), rest)
    | none => (.fault (.openText (r.takeWhile (· != '\n'))), [])
  | c :: r =>
    if isNameStart c then
      let rest := r.dropWhile isNameRest
      let s := plainString ((c :: r).take (r.length + 1 - rest.length))
      if words.contains s then (.word s, rest)
      else if builtins.any fun (name, _) => name == s then (.builtin s, rest)
      else (.name s (rest.head? == some '('), rest)
    else match decimalHere? (c :: r) with
      | some (x, rest) => (.number x ((c :: r).take (r.length + 1 - rest.length)), rest)
      | none =>
        match signs.find? fun s => Text.startsWith s.toList (c :: r) with
        | some s => (.sign s, (c :: r).drop s.length)
        | none => (.fault (.unknownCharacter c), r)

namespace Lexeme

/-- A piece as messages name it. -/
def near : Lexeme → Octets
  | number _ spelling => spelling
  | text cs => cs
  | name s _ | word s | builtin s | sign s => octets s
  | newline => octets "end of line"
  | ending => octets "end of file"
  | fault _ => []

/-- The piece is a certain sign. -/
def isSign (s : String) : Lexeme → Bool
  | sign t => s == t
  | _ => false

/-- The piece is a certain word. -/
def isWord (s : String) : Lexeme → Bool
  | word t => s == t
  | _ => false

/-- A statement may end in front of the piece. -/
def endsStatement : Lexeme → Bool
  | newline | ending => true
  | sign s => s == ";" || s == "\x7d"
  | _ => false

/-- A value may begin with the piece, right behind another value. -/
def beginsValue : Lexeme → Bool
  | number .. | text _ | name .. | builtin _ => true
  | sign s => s == "(" || s == "$" || s == "!" || s == "++" || s == "\x2d\x2d"
  | word s => s == "getline"
  | _ => false

end Lexeme

end MatrixFlow.Script.Record
