import MatrixFlow.Yaml.Token.Property

/-!
# From text to tokens

* `TokenState`: the state of the reader: the text to come, the indentation of the blocks and the
  places where a simple key may have begun.
* `TokenState.fetch`: reads the next token and what it entails.
* `tokensOf`: the tokens of a text, and the fault that ends them if there is one.

Whether a scalar is a key shows only at the colon behind it, so tokens wait in a queue while a
key may still begin at the first of them.
-/

namespace MatrixFlow.Yaml

/-- A place where a simple key may have begun. -/
structure KeyCandidate where
  /-- A key can only be here: the line has the indentation of the block. -/
  required : Bool
  /-- The number of the token that would be the key. -/
  token : Nat
  mark : Mark

/-- The state of the reader. -/
structure TokenState where
  cursor : Cursor
  /-- Tokens that wait, the first to leave in front. -/
  queue : List Token
  /-- The count of tokens that have left. -/
  left : Nat
  /-- A simple key may begin at the next token. -/
  keyAllowed : Bool
  /-- The indentation of the innermost block; less than zero outside all blocks. -/
  indentation : Int
  /-- The indentations of the blocks around it, innermost first. -/
  outer : List Int
  /-- The candidate of each flow collection around, innermost first, and that of the block. -/
  candidates : List (Option KeyCandidate)

namespace TokenState

/-- Before the first character. -/
def start (cs : List Char) : TokenState :=
  ⟨⟨cs, .start⟩, [⟨.streamStart, .start, .start⟩], 0, true, -1, [], [none]⟩

/-- The reader is inside a flow collection. -/
def inFlow (s : TokenState) : Bool :=
  1 < s.candidates.length

/-- The place of the reader. -/
def mark (s : TokenState) : Mark :=
  s.cursor.mark

/-- Puts a token at the end of the queue. -/
def push (s : TokenState) (t : Token) : TokenState :=
  { s with queue := s.queue ++ [t] }

/-- Puts a token in front of the token of a number, which still waits. -/
def insert (s : TokenState) (number : Nat) (t : Token) : TokenState :=
  let n := number - s.left
  { s with queue := s.queue.take n ++ t :: s.queue.drop n }

/-- A candidate is out of date on a later line or more than 1024 characters on. -/
def isStale (m : Mark) (k : KeyCandidate) : Bool :=
  k.mark.line < m.line || k.mark.index + 1024 < m.index

/-- Drops the candidates that are out of date; a key that had to come is then missing. -/
def dropStale (s : TokenState) : Except Fault TokenState :=
  if s.candidates.any fun k => k.any fun k => isStale s.mark k && k.required then
    .error ⟨.missingColon, s.mark, 0, none⟩
  else
    .ok { s with candidates := s.candidates.map fun k => k.filter fun k => !isStale s.mark k }

/-- Gives the innermost candidate up. -/
def dropCandidate (s : TokenState) : Except Fault TokenState :=
  match s.candidates with
  | some k :: rest =>
    if k.required then .error ⟨.missingColon, s.mark, 0, none⟩
    else .ok { s with candidates := none :: rest }
  | _ => .ok s

/-- Notes that a simple key may begin here. -/
def noteCandidate (s : TokenState) : Except Fault TokenState :=
  if s.keyAllowed then do
    let required := !s.inFlow && s.indentation == (s.mark.column : Int)
    let k : KeyCandidate := ⟨required, s.left + s.queue.length, s.mark⟩
    let s ← s.dropCandidate
    .ok { s with candidates := some k :: s.candidates.tail }
  else .ok s

/-- Opens a block of the given column, in front of the token of a number or at the end. -/
def openBlock (s : TokenState) (column : Nat) (number : Option Nat) (kind : TokenKind)
    (m : Mark) : TokenState :=
  if !s.inFlow && s.indentation < column then
    let s := { s with indentation := column, outer := s.indentation :: s.outer }
    match number with
    | some n => s.insert n ⟨kind, m, m⟩
    | none => s.push ⟨kind, m, m⟩
  else s

/-- How many of the blocks, innermost first, are indented more than `column`, with what is left
of them. -/
def closeBlocks (column : Int) (indentation : Int) : List Int → Nat × Int × List Int
  | [] => (0, indentation, [])
  | next :: rest =>
    if column < indentation then
      let (n, i, r) := closeBlocks column next rest
      (n + 1, i, r)
    else (0, indentation, next :: rest)

/-- Closes the blocks that are indented more than `column`. -/
def closeTo (s : TokenState) (column : Int) : TokenState :=
  if s.inFlow then s
  else
    let (n, indentation, outer) := closeBlocks column s.indentation s.outer
    { s with
      queue := s.queue ++ List.replicate n ⟨.blockEnd, s.mark, s.mark⟩
      indentation := indentation, outer := outer }

/-- The text from the next token on, and whether a key may begin there. A tab counts as blank
only where no key can begin, and a byte order mark only in the first column of a line. -/
def skipBlanks (inFlow : Bool) (keyAllowed : Bool) (comment : Bool) :
    List Char → Mark → Cursor × Bool
  | [], m => (⟨[], m⟩, keyAllowed)
  | c :: r, m =>
    if isBreak c then
      match c, r with
      | '\r', '\n' :: r => skipBlanks inFlow (keyAllowed || !inFlow) false r (m.nextLine 2)
      | _, r => skipBlanks inFlow (keyAllowed || !inFlow) false r (m.nextLine 1)
    else if comment then skipBlanks inFlow keyAllowed true r (m.forward 1)
    else if c = ' ' || (c = '\t' && (inFlow || !keyAllowed)) || (c = '\ufeff' && m.column == 0) then
      skipBlanks inFlow keyAllowed false r (m.forward 1)
    else if c = '#' then skipBlanks inFlow keyAllowed true r (m.forward 1)
    else (⟨c :: r, m⟩, keyAllowed)

/-- Reads `n` characters as a token of its own. -/
def take (s : TokenState) (kind : TokenKind) (n : Nat) : TokenState :=
  let after := s.cursor.skipMany n
  { s with cursor := after }.push ⟨kind, s.mark, after.mark⟩

/-- Ends the stream; an unfinished line is finished first. -/
def fetchEnd (s : TokenState) : Except Fault TokenState := do
  let m := if s.mark.column = 0 then s.mark else ⟨s.mark.index, s.mark.line + 1, 0⟩
  let s := { s with cursor := ⟨[], m⟩ }.closeTo (-1)
  let s ← s.dropCandidate
  .ok ({ s with keyAllowed := false }.push ⟨.streamEnd, m, m⟩)

/-- Reads a directive. -/
def fetchDirective (s : TokenState) : Except Fault TokenState := do
  let s ← (s.closeTo (-1)).dropCandidate
  let (t, after) ← readDirective s.cursor
  .ok ({ s with keyAllowed := false, cursor := after }.push t)

/-- Reads a document indicator. -/
def fetchIndicator (s : TokenState) (kind : TokenKind) : Except Fault TokenState := do
  let s ← (s.closeTo (-1)).dropCandidate
  .ok ({ s with keyAllowed := false }.take kind 3)

/-- Reads the opening bracket of a flow collection. -/
def fetchFlowStart (s : TokenState) (kind : TokenKind) : Except Fault TokenState := do
  let s ← s.noteCandidate
  .ok ({ s with keyAllowed := true, candidates := none :: s.candidates }.take kind 1)

/-- Reads the closing bracket of a flow collection. -/
def fetchFlowEnd (s : TokenState) (kind : TokenKind) : Except Fault TokenState := do
  let s ← s.dropCandidate
  let candidates := if s.inFlow then s.candidates.tail else s.candidates
  .ok ({ s with keyAllowed := false, candidates := candidates }.take kind 1)

/-- Reads the comma of a flow collection. -/
def fetchFlowEntry (s : TokenState) : Except Fault TokenState := do
  let s ← s.dropCandidate
  .ok ({ s with keyAllowed := true }.take .flowEntry 1)

/-- Reads the hyphen of a block sequence. -/
def fetchBlockEntry (s : TokenState) : Except Fault TokenState := do
  if !s.inFlow && !s.keyAllowed then .error ⟨.entryNotAllowed, s.mark, 0, none⟩
  else
    let s ← (s.openBlock s.mark.column none .blockSequenceStart s.mark).dropCandidate
    .ok ({ s with keyAllowed := true }.take .blockEntry 1)

/-- Reads the question mark of a key. -/
def fetchKey (s : TokenState) : Except Fault TokenState := do
  if !s.inFlow && !s.keyAllowed then .error ⟨.keyNotAllowed, s.mark, 0, none⟩
  else
    let s ← (s.openBlock s.mark.column none .blockMappingStart s.mark).dropCandidate
    .ok ({ s with keyAllowed := !s.inFlow }.take .key 1)

/-- Reads the colon of a value. It makes a key of the candidate, if there is one. -/
def fetchValue (s : TokenState) : Except Fault TokenState :=
  match s.candidates with
  | some k :: rest =>
    let s := s.insert k.token ⟨.key, k.mark, k.mark⟩
    let s := s.openBlock k.mark.column (some k.token) .blockMappingStart k.mark
    .ok ({ s with candidates := none :: rest, keyAllowed := false }.take .value 1)
  | _ =>
    if !s.inFlow && !s.keyAllowed then .error ⟨.valueNotAllowed, s.mark, 0, none⟩
    else
      let s := s.openBlock s.mark.column none .blockMappingStart s.mark
      .ok ({ s with keyAllowed := !s.inFlow }.take .value 1)

/-- Reads a token that may begin a simple key. -/
def fetchWord (s : TokenState) (read : Cursor → Except Fault (Token × Cursor)) :
    Except Fault TokenState := do
  let s ← s.noteCandidate
  let (t, after) ← read s.cursor
  .ok ({ s with keyAllowed := false, cursor := after }.push t)

/-- Reads a scalar of a style. -/
def fetchScalar (s : TokenState) (style : Style) (read : Cursor → Except Fault ScalarRead) :
    Except Fault TokenState := do
  let s ← s.noteCandidate
  let r ← read s.cursor
  .ok ({ s with keyAllowed := r.passedLine, cursor := r.after }.push
    ⟨.scalar r.value style, s.mark, r.stop⟩)

/-- Reads a block scalar, which is never a simple key. -/
def fetchBlockScalar (s : TokenState) (style : Style) : Except Fault TokenState := do
  let s ← s.dropCandidate
  let r ← readBlock (style == .folded) s.indentation s.cursor
  .ok ({ s with keyAllowed := true, cursor := r.after }.push
    ⟨.scalar r.value style, s.mark, r.stop⟩)

/-- The characters that cannot begin a plain scalar, or only before certain others. -/
def isIndicator (c : Char) : Bool :=
  ['-', '?', ':', ',', '[', ']', '\x7b', '\x7d', '#', '&', '*', '!', '|', '>', '\x27', '\x22',
    '%', '@', '\x60'].contains c

/-- A plain scalar can begin with `c` in front of `rest`. -/
def startsPlain (inFlow : Bool) (c : Char) (rest : List Char) : Bool :=
  !(isSpace c || isBreak c || isIndicator c) ||
    (c = '-' && !(rest.head?.any isSpace)) ||
    (!inFlow && (c = '?' || c = ':') && !atBlank rest)

/-- Reads the token that begins at the cursor. -/
def fetchHere (s : TokenState) : Except Fault TokenState :=
  match s.cursor.rest with
  | [] => s.fetchEnd
  | c :: r =>
    let flow := s.inFlow
    let atMargin := s.mark.column == 0
    if atMargin && c = '%' then s.fetchDirective
    else if atMargin && atIndicator '-' (c :: r) then s.fetchIndicator .documentStart
    else if atMargin && atIndicator '.' (c :: r) then s.fetchIndicator .documentEnd
    else if c = '[' then s.fetchFlowStart .flowSequenceStart
    else if c = '\x7b' then s.fetchFlowStart .flowMappingStart
    else if c = ']' then s.fetchFlowEnd .flowSequenceEnd
    else if c = '\x7d' then s.fetchFlowEnd .flowMappingEnd
    else if c = ',' then s.fetchFlowEntry
    else if c = '-' && atBlank r then s.fetchBlockEntry
    else if c = '?' && (flow || atBlank r) then s.fetchKey
    else if c = ':' && (flow || atBlank r) then s.fetchValue
    else if c = '*' then s.fetchWord (readAnchor true)
    else if c = '&' then s.fetchWord (readAnchor false)
    else if c = '!' then s.fetchWord (readTag flow)
    else if c = '|' && !flow then s.fetchBlockScalar .literal
    else if c = '>' && !flow then s.fetchBlockScalar .folded
    else if c = '\x27' then s.fetchScalar .singleQuoted (readQuoted true)
    else if c = '\x22' then s.fetchScalar .doubleQuoted (readQuoted false)
    else if startsPlain flow c r then s.fetchScalar .plain (readPlain flow s.indentation)
    else .error ⟨.noToken, s.mark, 0, some .nextToken⟩

/-- Reads the next token and what it entails. -/
def fetch (s : TokenState) : Except Fault TokenState := do
  let (cursor, keyAllowed) := skipBlanks s.inFlow s.keyAllowed false s.cursor.rest s.cursor.mark
  let s ← { s with cursor := cursor, keyAllowed := keyAllowed }.dropStale
  (s.closeTo s.mark.column).fetchHere

/-- The first token in the queue may turn out to be a key. -/
def isBlocked (s : TokenState) : Bool :=
  s.candidates.any fun k => k.any fun k => k.token == s.left

end TokenState

/-- Where a text has to break off, and why: the index of the character and the fault. -/
structure Cutoff where
  index : Nat
  fault : Fault

/-- A reader that looked as far as the cutoff has met its fault. -/
def Cutoff.reached (cutoff : Option Cutoff) (index : Nat) : Option Fault :=
  match cutoff with
  | some c => if c.index < index + 4 then some c.fault else none
  | none => none

/-- The tokens that leave the reader, in reverse, up to the end of the stream or a fault. -/
def tokensFrom (cutoff : Option Cutoff) :
    (fuel : Nat) → TokenState → List Token → List Token × Option Fault
  | 0, _, tokens => (tokens, none)
  | fuel + 1, s, tokens =>
    let next (s : TokenState) : List Token × Option Fault :=
      match s.fetch with
      | .error f => (tokens, some ((Cutoff.reached cutoff f.mark.index).getD f))
      | .ok s =>
        match Cutoff.reached cutoff s.mark.index with
        | some f => (tokens, some f)
        | none => tokensFrom cutoff fuel s tokens
    match s.queue with
    | [] => next s
    | t :: queue =>
      match s.dropStale with
      | .error f => (tokens, some f)
      | .ok s =>
        if s.isBlocked then next s
        else if t.kind = .streamEnd then (t :: tokens, none)
        else tokensFrom cutoff fuel { s with queue := queue, left := s.left + 1 } (t :: tokens)

/-- The characters that a text may hold. -/
def isAllowed (c : Char) : Bool :=
  let n := c.toNat
  n == 0x09 || n == 0x0A || n == 0x0D || (0x20 ≤ n && n ≤ 0x7E) || n == 0x85 ||
    (0xA0 ≤ n && n ≤ 0xD7FF) || (0xE000 ≤ n && n ≤ 0xFFFD) || 0x10000 ≤ n

/-- The size of the pieces, in bytes, in which a text is looked through for characters that it
may not hold. -/
def pieceSize : Nat := 16384

/-- Where the text has to break off: at the piece in which the first forbidden character stands.
`offset` and `index` are those of the text, `base` and `baseIndex` those of the piece. -/
def cutoffFrom (offset index base baseIndex : Nat) : List Char → Option Cutoff
  | [] => none
  | c :: r =>
    let (base, baseIndex) :=
      if pieceSize < offset + c.utf8Size - base then (offset, index) else (base, baseIndex)
    if isAllowed c then cutoffFrom (offset + c.utf8Size) (index + 1) base baseIndex r
    else some ⟨baseIndex, ⟨.controlCharacter, .start, offset, none⟩⟩

/-- The tokens of a text in order, and the fault after them if there is one. Each character gives
rise to at most eight steps of the reader. -/
def tokensOf (cs : List Char) : List Token × Option Fault :=
  let cutoff := cutoffFrom 0 0 0 0 cs
  let text := match cutoff with
    | some c => cs.take c.index
    | none => cs
  let (tokens, fault) := tokensFrom cutoff (8 * (text.length + 4)) (.start text) []
  (tokens.reverse, fault)

end MatrixFlow.Yaml
