/-!
# Places in a text and faults of form

* `Mark`: a place, as index, line and column, all counted in characters from zero.
* `Cursor`: the text from a place on.
* `isBreak`, `isSpace`: the characters that end a line, and those that separate words in one.
* `Fault`: why a text is no YAML text and where that shows.
* `Fault.message`: this in words, together with the place; a fault at the very start of the text
  names no place but says what was being read.
-/

namespace MatrixFlow.Yaml

/-! ## Places -/

/-- A place in a text. -/
structure Mark where
  index : Nat
  line : Nat
  column : Nat
deriving DecidableEq, Repr

namespace Mark

/-- The start of a text. -/
def start : Mark := ⟨0, 0, 0⟩

/-- The place after `n` more characters of the same line. -/
def forward (m : Mark) (n : Nat) : Mark :=
  { m with index := m.index + n, column := m.column + n }

/-- The place after a line ending of `n` characters. -/
def nextLine (m : Mark) (n : Nat) : Mark :=
  ⟨m.index + n, m.line + 1, 0⟩

/-- The first line and the first column. -/
def isOrigin (m : Mark) : Bool :=
  m.line == 0 && m.column == 0

/-- The place in words, lines and columns counted from one. -/
def text (m : Mark) : String :=
  "line " ++ toString (m.line + 1) ++ " column " ++ toString (m.column + 1)

end Mark

/-- The characters that end a line. -/
def isBreak (c : Char) : Bool :=
  c = '\n' || c = '\r' || c = '\u0085' || c = '\u2028' || c = '\u2029'

/-- A space or a tab. -/
def isSpace (c : Char) : Bool :=
  c = ' ' || c = '\t'

/-- The text begins with a blank or a line ending, or is empty. -/
def atBlank : List Char → Bool
  | [] => true
  | c :: _ => isSpace c || isBreak c

/-- The text begins with a line ending, or is empty. -/
def atLineEnd : List Char → Bool
  | [] => true
  | c :: _ => isBreak c

/-- ASCII letters, digits, the underscore and the hyphen. -/
def isWordChar (c : Char) : Bool :=
  c.isAlphanum || c = '_' || c = '-'

/-- What a line ending stands for inside a scalar. The two separators of Unicode stand for
themselves and every other ending for a line feed. -/
def breakChar (c : Char) : Char :=
  if c = '\u2028' || c = '\u2029' then c else '\n'

/-- The text from a place on. -/
structure Cursor where
  rest : List Char
  mark : Mark

namespace Cursor

/-- The text after one character of the same line. -/
def skip (c : Cursor) : Cursor :=
  ⟨c.rest.tail, c.mark.forward 1⟩

/-- The text after `n` characters of the same line. -/
def skipMany (c : Cursor) (n : Nat) : Cursor :=
  ⟨c.rest.drop n, c.mark.forward n⟩

/-- The text after a line ending, if it begins with one. -/
def skipBreak (c : Cursor) : Cursor :=
  match c.rest with
  | '\r' :: '\n' :: r => ⟨r, c.mark.nextLine 2⟩
  | d :: r => if isBreak d then ⟨r, c.mark.nextLine 1⟩ else c
  | [] => c

/-- The characters of this line at the front that satisfy `p`, and the text after them. -/
def span (p : Char → Bool) (c : Cursor) : List Char × Cursor :=
  let taken := c.rest.takeWhile p
  (taken, ⟨c.rest.dropWhile p, c.mark.forward taken.length⟩)

/-- The text after the characters of this line at the front that satisfy `p`. -/
def skipWhile (p : Char → Bool) (c : Cursor) : Cursor :=
  (c.span p).2

/-- The text at the end of the line, after blanks and a comment. -/
def skipToLineEnd (c : Cursor) : Cursor :=
  let c := c.skipWhile isSpace
  if c.rest.head? = some '#' then c.skipWhile (fun d => !isBreak d) else c

end Cursor

/-- The text begins with a document indicator: three characters `c` and then a blank. -/
def atIndicator (c : Char) : List Char → Bool
  | a :: b :: d :: r => a == c && b == c && d == c && atBlank r
  | _ => false

/-- A document indicator stands here, at the start of a line. -/
def atDocumentIndicator (m : Mark) (cs : List Char) : Bool :=
  m.column == 0 && (atIndicator '-' cs || atIndicator '.' cs)

/-! ## Faults -/

/-- Why a text is no YAML text. -/
inductive Problem where
  | controlCharacter
  | endOfText
  | documentIndicator
  | unknownEscape
  | hexDigit
  | escapeCode
  | tabInBlock
  | tabInPlain
  | zeroIndentation
  | lineEnd
  | missingColon
  | noToken
  | entryNotAllowed
  | keyNotAllowed
  | valueNotAllowed
  | colonInFlow
  | anchorName
  | tagClose
  | tagEnd
  | tagMark
  | tagEmpty
  | escapedOctet
  | leadingOctet
  | trailingOctet
  | directiveName
  | directiveNameEnd
  | unknownDirective
  | versionPoint
  | versionLength
  | versionNumber
  | tagDirectiveBlank
  | documentStart
  | nodeContent
  | entryIndicator
  | mappingKey
  | flowSequenceEnd
  | flowMappingEnd
  | tagHandle
  | duplicateVersion
  | duplicateTagHandle
  | versionUnsupported
deriving DecidableEq, Repr

/-- The problem in words. -/
def Problem.text : Problem → String
  | controlCharacter => "control characters are not allowed"
  | endOfText => "found unexpected end of stream"
  | documentIndicator => "found unexpected document indicator"
  | unknownEscape => "found unknown escape character"
  | hexDigit => "did not find expected hexadecimal number"
  | escapeCode => "found invalid Unicode character escape code"
  | tabInBlock => "found a tab character where an indentation space is expected"
  | tabInPlain => "found a tab character that violates indentation"
  | zeroIndentation => "found an indentation indicator equal to 0"
  | lineEnd => "did not find expected comment or line break"
  | missingColon => "could not find expected ':'"
  | noToken => "found character that cannot start any token"
  | entryNotAllowed => "block sequence entries are not allowed in this context"
  | keyNotAllowed => "mapping keys are not allowed in this context"
  | valueNotAllowed => "mapping values are not allowed in this context"
  | colonInFlow => "found unexpected ':'"
  | anchorName => "did not find expected alphabetic or numeric character"
  | tagClose => "did not find the expected '>'"
  | tagEnd => "did not find expected whitespace or line break"
  | tagMark => "did not find expected '!'"
  | tagEmpty => "did not find expected tag URI"
  | escapedOctet => "did not find URI escaped octet"
  | leadingOctet => "found an incorrect leading UTF-8 octet"
  | trailingOctet => "found an incorrect trailing UTF-8 octet"
  | directiveName => "could not find expected directive name"
  | directiveNameEnd => "found unexpected non-alphabetical character"
  | unknownDirective => "found unknown directive name"
  | versionPoint => "did not find expected digit or '.' character"
  | versionLength => "found extremely long version number"
  | versionNumber => "did not find expected version number"
  | tagDirectiveBlank => "did not find expected whitespace"
  | documentStart => "did not find expected <document start>"
  | nodeContent => "did not find expected node content"
  | entryIndicator => "did not find expected '-' indicator"
  | mappingKey => "did not find expected key"
  | flowSequenceEnd => "did not find expected ',' or ']'"
  | flowMappingEnd => "did not find expected ',' or '\x7d'"
  | tagHandle => "found undefined tag handle"
  | duplicateVersion => "found duplicate %YAML directive"
  | duplicateTagHandle => "found duplicate %TAG directive"
  | versionUnsupported => "found incompatible YAML document"

/-- What was being read when a fault showed. -/
inductive Activity where
  | nextToken
  | node
  | blockNode
  | flowNode
  | blockSequence
  | blockMapping
  | flowSequence
  | flowMapping
deriving DecidableEq, Repr

/-- The activity in words. -/
def Activity.text : Activity → String
  | nextToken => "while scanning for the next token"
  | node => "while parsing a node"
  | blockNode => "while parsing a block node"
  | flowNode => "while parsing a flow node"
  | blockSequence => "while parsing a block collection"
  | blockMapping => "while parsing a block mapping"
  | flowSequence => "while parsing a flow sequence"
  | flowMapping => "while parsing a flow mapping"

/-- A fault of form. -/
structure Fault where
  problem : Problem
  /-- The place where the fault shows. -/
  mark : Mark
  /-- The byte at which it shows, for a fault without a place. -/
  offset : Nat := 0
  /-- What was being read. -/
  activity : Option Activity := none
deriving DecidableEq, Repr

/-- The fault in words. -/
def Fault.message (f : Fault) : String :=
  let place :=
    if !f.mark.isOrigin then " at " ++ f.mark.text
    else if f.offset ≠ 0 then " at position " ++ toString f.offset
    else ""
  let activity := match f.activity with
    | some a => ", " ++ a.text
    | none => ""
  f.problem.text ++ place ++ activity

end MatrixFlow.Yaml
