import MatrixFlow.Yaml.Token

/-!
# Scalars

Each reader takes the text from the start of a scalar on and gives its value and the text after
it. All are recursions over the characters.

* `Pending`: blanks and line endings that are not yet known to belong to the value, and
  `Pending.flush`, the line folding rule.
* `readPlain`, `readQuoted`, `readBlock`: the readers.
-/

namespace MatrixFlow.Yaml

/-- Blanks and line endings after which the scalar may go on. Texts are reversed. -/
structure Pending where
  /-- Blanks of the line where the last word stands. -/
  spaces : List Char
  /-- The first line ending. -/
  firstBreak : List Char
  /-- The line endings after the first. -/
  moreBreaks : List Char
  /-- A line ending has been passed. -/
  passedLine : Bool

namespace Pending

/-- Nothing is pending. -/
def empty : Pending := ⟨[], [], [], false⟩

/-- Adds the blank or line ending `c`. -/
def addBreak (p : Pending) (c : Char) : Pending :=
  if p.passedLine then { p with moreBreaks := breakChar c :: p.moreBreaks }
  else ⟨[], [breakChar c], [], true⟩

/-- Adds a space or tab; those after a line ending do not count. -/
def addSpace (p : Pending) (c : Char) : Pending :=
  if p.passedLine then p else { p with spaces := c :: p.spaces }

/-- Puts what is pending behind a reversed value. Blanks within a line are kept. One line feed
becomes a space, and of several the first is dropped; other line endings are kept. -/
def flush (p : Pending) (value : List Char) : List Char :=
  if p.passedLine then
    if p.firstBreak == ['\n'] then
      if p.moreBreaks.isEmpty then ' ' :: value else p.moreBreaks ++ value
    else p.moreBreaks ++ p.firstBreak ++ value
  else p.spaces ++ value

end Pending

/-- A scalar that has been read. -/
structure ScalarRead where
  value : String
  /-- The place after the last character of the scalar. -/
  stop : Mark
  /-- The text after the scalar and what was passed behind it. -/
  after : Cursor
  /-- The reader ended on a later line than the scalar. -/
  passedLine : Bool

/-- The characters that end a plain scalar in a flow collection. -/
def isFlowEnd (c : Char) : Bool :=
  c = ',' || c = '[' || c = ']' || c = '\x7b' || c = '\x7d'

/-- A plain scalar cannot go on here: at a colon before a blank, and in a flow collection at its
punctuation. -/
def plainStops (inFlow : Bool) (c : Char) (rest : List Char) : Bool :=
  (c = ':' && atBlank rest) || (inFlow && isFlowEnd c)

/-- A colon that a flow collection does not allow: its punctuation follows at once. -/
def isFlowColon (inFlow : Bool) (c : Char) (rest : List Char) : Bool :=
  inFlow && c = ':' && match rest with
    | d :: _ => d = '?' || isFlowEnd d
    | [] => false

/-- State of the reader of plain scalars. -/
structure PlainState where
  /-- The value so far, reversed. -/
  value : List Char
  stop : Mark
  pending : Pending
  /-- A word may start here: the last character was none of a word. -/
  betweenWords : Bool

/-- Ends a plain scalar. -/
def PlainState.finish (s : PlainState) (rest : List Char) (m : Mark) : ScalarRead :=
  ⟨String.ofList s.value.reverse, s.stop, ⟨rest, m⟩, s.pending.passedLine⟩

/-- Adds a character of a word. -/
def PlainState.push (s : PlainState) (c : Char) (stop : Mark) : PlainState :=
  ⟨c :: s.pending.flush s.value, stop, Pending.empty, false⟩

/-- Reads a plain scalar whose further lines are indented to at least `column`, unless it stands
in a flow collection. -/
def plainFrom (inFlow : Bool) (column : Nat) (s : PlainState) :
    List Char → Mark → Except Fault ScalarRead
  | [], m => .ok (s.finish [] m)
  | '\r' :: '\n' :: r, m =>
    plainFrom inFlow column
      { s with pending := s.pending.addBreak '\n', betweenWords := true } r (m.nextLine 2)
  | c :: r, m =>
    if isBreak c then
      plainFrom inFlow column
        { s with pending := s.pending.addBreak c, betweenWords := true } r (m.nextLine 1)
    else if isSpace c then
      if s.pending.passedLine && m.column < column && c = '\t' then .error ⟨.tabInPlain, m, 0, none⟩
      else
        plainFrom inFlow column
          { s with pending := s.pending.addSpace c, betweenWords := true } r (m.forward 1)
    else if s.betweenWords && ((!inFlow && m.column < column) || atDocumentIndicator m (c :: r) ||
        c = '#') then .ok (s.finish (c :: r) m)
    else if isFlowColon inFlow c r then .error ⟨.colonInFlow, m, 0, none⟩
    else if plainStops inFlow c r then .ok (s.finish (c :: r) m)
    else plainFrom inFlow column (s.push c (m.forward 1)) r (m.forward 1)

/-- Reads a plain scalar. `indentation` is that of the block around it. -/
def readPlain (inFlow : Bool) (indentation : Int) (c : Cursor) : Except Fault ScalarRead :=
  plainFrom inFlow (indentation + 1).toNat ⟨[], c.mark, Pending.empty, false⟩ c.rest c.mark

/-- The character that an escape of one letter stands for. -/
def simpleEscape? (c : Char) : Option Char :=
  match c with
  | '0' => some '\x00'
  | 'a' => some '\x07'
  | 'b' => some '\x08'
  | 't' | '\t' => some '\t'
  | 'n' => some '\n'
  | 'v' => some '\x0b'
  | 'f' => some '\x0c'
  | 'r' => some '\r'
  | 'e' => some '\x1b'
  | ' ' => some ' '
  | '\x22' => some '\x22'
  | '/' => some '/'
  | '\\' => some '\\'
  | 'N' => some '\u0085'
  | '_' => some '\u00a0'
  | 'L' => some '\u2028'
  | 'P' => some '\u2029'
  | _ => none

/-- The count of hexadecimal digits that an escape letter announces. -/
def escapeDigits? (c : Char) : Option Nat :=
  match c with
  | 'x' => some 2
  | 'u' => some 4
  | 'U' => some 8
  | _ => none

/-- The value of a hexadecimal digit. -/
def hexValue? (c : Char) : Option Nat :=
  if '0' ≤ c ∧ c ≤ '9' then some (c.toNat - 48)
  else if 'a' ≤ c ∧ c ≤ 'f' then some (c.toNat - 87)
  else if 'A' ≤ c ∧ c ≤ 'F' then some (c.toNat - 55)
  else none

/-- Digits of an escape under way: how many are to come, their value so far, and the place of the
first. -/
structure EscapeState where
  left : Nat
  value : Nat
  first : Mark

/-- State of the reader of quoted scalars. -/
structure QuotedState where
  value : List Char
  pending : Pending
  escape : Option EscapeState
  /-- The reader is not inside a word: document indicators count. -/
  betweenWords : Bool

/-- Adds a character of a word. -/
def QuotedState.push (s : QuotedState) (c : Char) : QuotedState :=
  ⟨c :: s.pending.flush s.value, Pending.empty, none, false⟩

/-- Passes an escaped line ending: the line goes on on the next. -/
def QuotedState.joinLine (s : QuotedState) : QuotedState :=
  ⟨s.pending.flush s.value, ⟨[], [], [], true⟩, none, true⟩

/-- Takes one more digit of an escape. -/
def QuotedState.addDigit (s : QuotedState) (e : EscapeState) (c : Char) :
    Except Fault QuotedState :=
  match hexValue? c with
  | none => .error ⟨.hexDigit, e.first, 0, none⟩
  | some digit =>
    let value := e.value * 16 + digit
    if 1 < e.left then .ok { s with escape := some ⟨e.left - 1, value, e.first⟩ }
    else if (0xD800 ≤ value ∧ value ≤ 0xDFFF) ∨ 0x10FFFF < value then
      .error ⟨.escapeCode, e.first, 0, none⟩
    else .ok (s.push (Char.ofNat value))

/-- Ends a quoted scalar whose closing mark is at `m`. -/
def QuotedState.finish (s : QuotedState) (rest : List Char) (m : Mark) : ScalarRead :=
  ⟨String.ofList (s.pending.flush s.value).reverse, m.forward 1, ⟨rest, m.forward 1⟩, false⟩

/-- Reads a quoted scalar from behind its opening mark. -/
def quotedFrom (single : Bool) (s : QuotedState) :
    List Char → Mark → Except Fault ScalarRead
  | [], m =>
    match s.escape with
    | some e => .error ⟨.hexDigit, e.first, 0, none⟩
    | none => .error ⟨.endOfText, m, 0, none⟩
  | c :: r, m =>
    match s.escape with
    | some e => do
      let s ← s.addDigit e c
      quotedFrom single s r (m.forward 1)
    | none =>
      if s.betweenWords && atDocumentIndicator m (c :: r) then
        .error ⟨.documentIndicator, m, 0, none⟩
      else if isBreak c then
        let s' := { s with pending := s.pending.addBreak c, betweenWords := true }
        match c, r with
        | '\r', '\n' :: r => quotedFrom single s' r (m.nextLine 2)
        | _, r => quotedFrom single s' r (m.nextLine 1)
      else if isSpace c then
        quotedFrom single { s with pending := s.pending.addSpace c, betweenWords := true } r
          (m.forward 1)
      else if single then
        if c = '\x27' then
          match r with
          | '\x27' :: r => quotedFrom single (s.push c) r (m.forward 2)
          | r => .ok (s.finish r m)
        else quotedFrom single (s.push c) r (m.forward 1)
      else if c = '\x22' then .ok (s.finish r m)
      else if c = '\\' then
        match r with
        | [] => .error ⟨.unknownEscape, m, 0, none⟩
        | '\r' :: '\n' :: r => quotedFrom single s.joinLine r ((m.forward 1).nextLine 2)
        | d :: r =>
          if isBreak d then quotedFrom single s.joinLine r ((m.forward 1).nextLine 1)
          else match simpleEscape? d, escapeDigits? d with
            | some e, _ => quotedFrom single (s.push e) r (m.forward 2)
            | none, some n =>
              quotedFrom single { s with escape := some ⟨n, 0, m.forward 2⟩ } r (m.forward 2)
            | none, none => .error ⟨.unknownEscape, m, 0, none⟩
      else quotedFrom single (s.push c) r (m.forward 1)

/-- Reads a quoted scalar, opening mark included. -/
def readQuoted (single : Bool) (c : Cursor) : Except Fault ScalarRead :=
  let c := c.skip
  quotedFrom single ⟨[], Pending.empty, none, true⟩ c.rest c.mark

/-- What happens to the line endings behind a block scalar. -/
inductive Chomping where
  | strip
  | clip
  | keep
deriving DecidableEq

/-- State of the reader of block scalars. Texts are reversed. -/
structure BlockState where
  value : List Char
  /-- The ending of the last line. -/
  firstBreak : List Char
  /-- The endings of the empty lines after it. -/
  moreBreaks : List Char
  /-- The last line began with a blank. -/
  indentedMore : Bool
  /-- The indentation of the lines, if it is known. -/
  indentation : Option Nat
  /-- The widest indentation seen so far. -/
  widest : Nat
  /-- The reader is inside a line, past its indentation. -/
  inLine : Bool
  stop : Mark

/-- Starts a line whose first character is `c`: folds the line endings before it. -/
def BlockState.startLine (s : BlockState) (folded : Bool) (c : Char) : BlockState :=
  let value :=
    if folded && s.firstBreak == ['\n'] && !s.indentedMore && !isSpace c then
      if s.moreBreaks.isEmpty then ' ' :: s.value else s.value
    else s.firstBreak ++ s.value
  { s with
    value := s.moreBreaks ++ value, firstBreak := [], moreBreaks := [],
    indentedMore := isSpace c, inLine := true }

/-- The indentation of the lines: as given, or that of the first line with text, but more than
that of the block around. -/
def BlockState.settle (s : BlockState) (column : Nat) (outer : Int) : Nat :=
  match s.indentation with
  | some n => n
  | none => max (max (max s.widest column) (outer + 1).toNat) 1

/-- Ends a block scalar. -/
def BlockState.finish (s : BlockState) (chomping : Chomping) (rest : List Char) (m : Mark) :
    ScalarRead :=
  let value := match chomping with
    | .strip => s.value
    | .clip => s.firstBreak ++ s.value
    | .keep => s.moreBreaks ++ s.firstBreak ++ s.value
  ⟨String.ofList value.reverse, s.stop, ⟨rest, m⟩, false⟩

/-- Passes a line ending. -/
def BlockState.passBreak (s : BlockState) (c : Char) (column : Nat) (after : Mark) : BlockState :=
  if s.inLine then { s with firstBreak := [breakChar c], inLine := false, stop := after }
  else
    { s with
      moreBreaks := breakChar c :: s.moreBreaks, widest := max s.widest column, stop := after }

/-- Reads the lines of a block scalar in a block of indentation `outer`. -/
def blockFrom (folded : Bool) (chomping : Chomping) (outer : Int) (s : BlockState) :
    List Char → Mark → Except Fault ScalarRead
  | [], m => .ok (BlockState.finish { s with stop := m } chomping [] m)
  | '\r' :: '\n' :: r, m =>
    blockFrom folded chomping outer (s.passBreak '\n' m.column (m.nextLine 2)) r (m.nextLine 2)
  | c :: r, m =>
    if isBreak c then
      blockFrom folded chomping outer (s.passBreak c m.column (m.nextLine 1)) r (m.nextLine 1)
    else if s.inLine then
      blockFrom folded chomping outer { s with value := c :: s.value } r (m.forward 1)
    else
      let outside := match s.indentation with
        | some n => decide (m.column < n)
        | none => true
      if outside && c = ' ' then blockFrom folded chomping outer s r (m.forward 1)
      else if outside && c = '\t' then .error ⟨.tabInBlock, m, 0, none⟩
      else
        let n := s.settle m.column outer
        let s := { s with indentation := some n }
        if m.column = n then
          let s := s.startLine folded c
          blockFrom folded chomping outer { s with value := c :: s.value } r (m.forward 1)
        else .ok (s.finish chomping (c :: r) m)

/-- The chomping and the indentation that a block scalar's header asks for. -/
def readBlockHeader (c : Cursor) : Except Fault (Chomping × Option Nat × Cursor) :=
  let chomping? (c : Cursor) : Option Chomping :=
    if c.rest.head? = some '+' then some .keep
    else if c.rest.head? = some '-' then some .strip
    else none
  let digit? (c : Cursor) : Option Nat :=
    match c.rest with
    | d :: _ => if d.isDigit then some (d.toNat - 48) else none
    | [] => none
  match chomping? c with
  | some ch =>
    let c := c.skip
    match digit? c with
    | some 0 => .error ⟨.zeroIndentation, c.mark, 0, none⟩
    | some n => .ok (ch, some n, c.skip)
    | none => .ok (ch, none, c)
  | none =>
    match digit? c with
    | some 0 => .error ⟨.zeroIndentation, c.mark, 0, none⟩
    | some n =>
      let c := c.skip
      match chomping? c with
      | some ch => .ok (ch, some n, c.skip)
      | none => .ok (.clip, some n, c)
    | none => .ok (.clip, none, c)

/-- Reads a block scalar, its indicator included, in a block of indentation `outer`. -/
def readBlock (folded : Bool) (outer : Int) (c : Cursor) : Except Fault ScalarRead := do
  let (chomping, increment, c) ← readBlockHeader c.skip
  let c := c.skipToLineEnd
  if !atLineEnd c.rest then .error ⟨.lineEnd, c.mark, 0, none⟩
  else
    let c := c.skipBreak
    let indentation := increment.map fun n => (max outer 0).toNat + n
    blockFrom folded chomping outer ⟨[], [], [], false, indentation, 0, false, c.mark⟩ c.rest c.mark

end MatrixFlow.Yaml
