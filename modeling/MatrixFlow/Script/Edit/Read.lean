import MatrixFlow.Script.Edit.Command

/-!
# Reading edit commands

Commands stand in pieces, each in an argument or a file. A text that ends in a backslash goes on
in the next piece, and a block may end there.

* `EditPiece`: a piece, and how it is named in messages.
* `readPieces`: the commands of all pieces.
* `upToMark`: what stands in front of a mark.
* `plainText`, `replacementParts`: texts with backslashes.
-/

namespace MatrixFlow.Script

/-! ## Backslashes -/

/-- The character that a number behind a backslash stands for, and how long the number is. -/
def numberedChar (base digits : Nat) (cs : Octets) : Option (Char × Nat) :=
  let (value, count) := leadingNumber base digits cs
  if count = 0 then none else some (Char.ofNat (value % 256), count)

/-- The character that letters behind a backslash stand for, and how many they are. -/
def letteredChar? (cs : Octets) : Option (Char × Nat) :=
  match cs with
  | 'a' :: _ => some ('\x07', 1)
  | 'f' :: _ => some ('\x0c', 1)
  | 'n' :: _ => some ('\n', 1)
  | 'r' :: _ => some ('\r', 1)
  | 't' :: _ => some ('\t', 1)
  | 'v' :: _ => some ('\x0b', 1)
  | 'c' :: '\\' :: '\\' :: _ => some ('\x1c', 3)
  | 'c' :: c :: _ => some (Char.ofNat (Nat.xor c.toUpper.toNat 64), 2)
  | 'd' :: r => (numberedChar 10 3 r).map fun (c, n) => (c, n + 1)
  | 'o' :: r => (numberedChar 8 3 r).map fun (c, n) => (c, n + 1)
  | 'x' :: r => (numberedChar 16 2 r).map fun (c, n) => (c, n + 1)
  | _ => none

/-- A text without its backslashes; so many characters are left out first. -/
def plainTextFrom : (skipped : Nat) → Octets → Octets
  | skipped + 1, _ :: r => plainTextFrom skipped r
  | 0, '\\' :: c :: r =>
    match letteredChar? (c :: r) with
    | some (d, n) => d :: plainTextFrom (n - 1) r
    | none => c :: plainTextFrom 0 r
  | 0, ['\\'] => []
  | 0, c :: r => c :: plainTextFrom 0 r
  | _, [] => []

/-- A text without its backslashes. -/
def plainText (cs : Octets) : Octets := plainTextFrom 0 cs

/-- An expression in which letters behind backslashes have become characters. -/
def expressionFrom : (skipped : Nat) → Octets → Octets
  | skipped + 1, _ :: r => expressionFrom skipped r
  | 0, '\\' :: c :: r =>
    match letteredChar? (c :: r) with
    | some (d, n) => d :: expressionFrom (n - 1) r
    | none => '\\' :: c :: expressionFrom 0 r
  | 0, c :: r => c :: expressionFrom 0 r
  | _, [] => []

/-- The parts of a replacement; so many characters are left out first. -/
def replacementPartsFrom : (skipped : Nat) → Octets → List ReplacementPart
  | skipped + 1, _ :: r => replacementPartsFrom skipped r
  | 0, '\\' :: c :: r =>
    let one (part : ReplacementPart) := part :: replacementPartsFrom 0 r
    if c.isDigit then one (.group (c.toNat - '0'.toNat))
    else match c with
      | 'L' => one (.turn .lower)
      | 'U' => one (.turn .upper)
      | 'E' => one (.turn .kept)
      | 'l' => one (.turnOne .lower)
      | 'u' => one (.turnOne .upper)
      | _ =>
        match letteredChar? (c :: r) with
        | some (d, n) => .text [d] :: replacementPartsFrom (n - 1) r
        | none => one (.text [c])
  | 0, '&' :: r => .group 0 :: replacementPartsFrom 0 r
  | 0, c :: r => .text [c] :: replacementPartsFrom 0 r
  | _, [] => []

/-- The parts of a replacement. -/
def replacementParts (cs : Octets) : List ReplacementPart := replacementPartsFrom 0 cs

/-- How long a bracket of an expression is, behind its opening sign. -/
def bracketLength? (cs : Octets) : Option Nat :=
  let negation := if cs.head? == some '^' then 1 else 0
  let first := if (cs.drop negation).head? == some ']' then 1 else 0
  (rest (cs.length + 1) (cs.drop (negation + first))).map (· + negation + first)
where
  /-- How long the rest of a bracket is. -/
  rest : (fuel : Nat) → Octets → Option Nat
    | 0, _ | _, [] => none
    | _, ']' :: _ => some 1
    | fuel + 1, '[' :: c :: r =>
      if c == ':' || c == '.' || c == '=' then
        match Text.cut? [c, ']'] r with
        | some (inner, after) => (rest fuel after).map (· + inner.length + 4)
        | none => (rest fuel (c :: r)).map (· + 1)
      else (rest fuel (c :: r)).map (· + 1)
    | fuel + 1, _ :: r => (rest fuel r).map (· + 1)

/-- What stands in front of a mark, if the mark comes, and what follows. A mark behind a backslash
loses it. In an expression, so many characters are `plain` because they stand in brackets. -/
def upToMark (mark : Char) (inExpression : Bool) : (plain : Nat) → Octets → Option Octets × Octets
  | _, [] => (none, [])
  | plain, c :: r =>
    let put (cs : Octets) (found : Option Octets × Octets) : Option Octets × Octets :=
      (found.1.map (cs ++ ·), found.2)
    if c == '\n' then (none, c :: r)
    else if plain > 0 then put [c] (upToMark mark inExpression (plain - 1) r)
    else if c == mark then (some [], r)
    else if c == '\\' then
      match r with
      | [] => (none, [])
      | d :: r =>
        let kept : Octets :=
          if d == 'n' && inExpression then ['\n']
          else if d == '\n' then [d]
          else if d == mark && (inExpression || d != '&') then [d]
          else ['\\', d]
        put kept (upToMark mark inExpression 0 r)
    else
      let plain := if c == '[' && inExpression then (bracketLength? r).getD r.length else 0
      put [c] (upToMark mark inExpression plain r)

/-- A text up to the end of its last line, what follows, and whether it goes on in the next piece.
A line goes on behind a backslash. -/
def textLines : Octets → Octets × Octets × Bool
  | [] => (['\n'], [], false)
  | ['\\'] => (['\n'], [], true)
  | '\n' :: r => (['\n'], r, false)
  | '\\' :: c :: r =>
    let (text, rest, goesOn) := textLines r
    ('\\' :: c :: text, rest, goesOn)
  | c :: r =>
    let (text, rest, goesOn) := textLines r
    (c :: text, rest, goesOn)

/-! ## Pieces -/

/-- A piece of commands. -/
structure EditPiece where
  text : Octets
  /-- The number of its argument. -/
  number : Nat
  /-- The file that it comes from, if it comes from one. -/
  file : Option Octets

/-- A place in a piece, by how much of it has been read. -/
structure EditSpot where
  number : Nat
  file : Option Octets
  offset : Nat
  line : Nat

/-- A place in words. -/
def EditSpot.text (s : EditSpot) : Octets :=
  match s.file with
  | some path => octets "file " ++ path ++ octets (" line " ++ toString s.line ++ ": ")
  | none => octets ("-e expression #" ++ toString s.number ++ ", char " ++ toString s.offset ++ ": ")

/-- How expressions are written and matched. -/
structure EditStyle where
  extended : Bool
  /-- Commands do not touch files or run programs. -/
  guarded : Bool
  /-- Lines do not end in line endings. -/
  byZeros : Bool

/-- How far reading has got. -/
structure EditReading where
  style : EditStyle
  rest : Octets
  spot : EditSpot
  /-- The last command comes first. -/
  commands : List EditCommand
  /-- Where blocks begin that have not ended, the innermost first. -/
  blocks : List EditSpot
  /-- A text that goes on in the next piece, and the command that it is for. -/
  unfinished : Option (Octets × (Octets → EditCommand))
  /-- Lines are not shown unless a command says so. -/
  quiet : Bool

/-- A reader of commands. -/
abbrev EditReader := EStateM EditFault EditReading

namespace EditReader

/-- Takes everything up to a rest that has been found. -/
def leave (rest : Octets) : EditReader Unit :=
  modify fun s =>
    let used := s.rest.take (s.rest.length - rest.length)
    let lines := (used.filter (· == '\n')).length
    { s with
      rest := rest
      spot := { s.spot with
        offset := s.spot.offset + used.length
        line := s.spot.line + lines } }

/-- Takes characters as long as they are of a kind. -/
def takeWhile (kind : Char → Bool) : EditReader Octets := do
  let s ← get
  let found := s.rest.takeWhile kind
  leave (s.rest.drop found.length)
  return found

/-- A blank inside of a line. -/
def isGap (c : Char) : Bool := c == ' ' || c == '\t'

/-- Passes over blanks. -/
def skipGaps : EditReader Unit := do
  let _ ← takeWhile isGap

/-- The next character, which is not taken. -/
def peek? : EditReader (Option Char) := do
  return (← get).rest.head?

/-- The next character. -/
def next? : EditReader (Option Char) := do
  let s ← get
  leave (s.rest.drop 1)
  return s.rest.head?

/-- Takes a character if it comes next. -/
def takes (c : Char) : EditReader Bool := do
  if (← peek?) == some c then
    let _ ← next?
    return true
  else return false

/-- A number; without digits it is zero. -/
def number : EditReader Nat := do
  return (leadingNumber 10 1000 (← takeWhile Char.isDigit)).1

/-- What stands up to a mark. -/
def marked (mark : Char) (inExpression : Bool) : EditReader (Option Octets) := do
  let (text, rest) := upToMark mark inExpression 0 (← get).rest
  leave rest
  return text

/-- The expression that a text is; the last one if it is empty. -/
def search (text : Octets) (ignoreCase byLines : Bool) : EditReader (Option EditSearch) := do
  if text.isEmpty then
    if ignoreCase || byLines then throw .flagsAlone
    return none
  let style := (← get).style
  let form := if style.extended then RegexForm.edit else RegexForm.basicEdit
  match Regex.ofText form (expressionFrom 0 text) with
  | .ok regex => return some ⟨regex, ignoreCase, byLines && !style.byZeros⟩
  | .error f => throw (.regex f)

/-! ### Addresses -/

/-- The letters behind the expression of an address. -/
def addressFlags : (fuel : Nat) → (ignoreCase byLines : Bool) → EditReader (Bool × Bool)
  | 0, ignoreCase, byLines => return (ignoreCase, byLines)
  | fuel + 1, ignoreCase, byLines => do
    skipGaps
    if ← takes 'I' then addressFlags fuel true byLines
    else if ← takes 'M' then addressFlags fuel ignoreCase true
    else return (ignoreCase, byLines)

/-- An expression as an address, behind its mark. -/
def searchAddress (mark : Char) : EditReader LineAddress := do
  match ← marked mark true with
  | none => throw .openAddress
  | some text =>
    let (ignoreCase, byLines) ← addressFlags ((← get).rest.length + 1) false false
    return .matching (← search text ignoreCase byLines)

/-- An address, if one comes next. -/
def address? : EditReader (Option LineAddress) := do
  match ← peek? with
  | some '/' =>
    let _ ← next?
    return some (← searchAddress '/')
  | some '\\' =>
    let _ ← next?
    match ← next? with
    | some mark => return some (← searchAddress mark)
    | none => throw .openAddress
  | some '$' =>
    let _ ← next?
    return some .lastLine
  | some '+' =>
    let _ ← next?
    skipGaps
    return some (.more (← number))
  | some '~' =>
    let _ ← next?
    skipGaps
    return some (.multiple (← number))
  | some c =>
    if !c.isDigit then return none
    let first ← number
    skipGaps
    if !(← takes '~') then return some (.line first)
    skipGaps
    let step ← number
    return some (if step = 0 then .line first else .step first step)
  | none => return none

/-! ### Commands -/

/-- Nothing but a separator follows a command. -/
def finish : EditReader Unit := do
  skipGaps
  match ← peek? with
  | none | some '\x7d' | some '#' => return
  | some c =>
    let _ ← next?
    if c != '\n' && c != ';' then throw .leftOver

/-- A label. -/
def label : EditReader Octets := do
  skipGaps
  takeWhile fun c => !c.isWhitespace && c != ';' && c != '\x7d'

/-- The name of a file, up to the end of its line. -/
def fileName : EditReader Octets := do
  skipGaps
  let name ← takeWhile (· != '\n')
  if name.isEmpty then throw .missingFile
  let _ ← takes '\n'
  return name

/-- Adds a command. -/
def add (c : EditCommand) : EditReader Unit :=
  modify fun s => { s with commands := c :: s.commands }

/-- Adds a command with a text, which may go on in the next piece. -/
def addText (before : Octets) (build : Octets → EditCommand) : EditReader Unit := do
  let (text, rest, goesOn) := textLines (← get).rest
  leave rest
  if goesOn then modify fun s => { s with unfinished := some (before ++ text, build) }
  else add (build (plainText (before ++ text)))

/-- Reads the text of a command. -/
def text (build : Octets → EditCommand) : EditReader Unit := do
  skipGaps
  match ← peek? with
  | none => throw .textExpected
  | some '\\' =>
    let _ ← next?
    match ← next? with
    | none => modify fun s => { s with unfinished := some ([], build) }
    | some '\n' => addText [] build
    | some c => addText [c] build
  | some _ => addText [] build

/-- The letters and numbers behind a substitution. -/
def substitutionFlags : (fuel : Nat) → (s : Substitution) → (ignoreCase byLines : Bool) →
    EditReader (Substitution × Bool × Bool)
  | 0, s, ignoreCase, byLines => return (s, ignoreCase, byLines)
  | fuel + 1, s, ignoreCase, byLines => do
    skipGaps
    match ← peek? with
    | none | some '\x7d' | some '#' => return (s, ignoreCase, byLines)
    | some c =>
      if c.isDigit then
        if s.first ≠ 0 then
          let _ ← next?
          throw .severalNumbers
        let n ← number
        if n = 0 then throw .numberZero
        substitutionFlags fuel { s with first := n } ignoreCase byLines
      else
        let _ ← next?
        match c with
        | '\n' | ';' => return (s, ignoreCase, byLines)
        | 'i' | 'I' => substitutionFlags fuel s true byLines
        | 'm' | 'M' => substitutionFlags fuel s ignoreCase true
        | 'e' =>
          if (← get).style.guarded then throw .forbidden
          substitutionFlags fuel { s with runs := true } ignoreCase byLines
        | 'g' =>
          if s.everywhere then throw (.severalFlags 'g')
          substitutionFlags fuel { s with everywhere := true } ignoreCase byLines
        | 'p' =>
          if s.shows then throw (.severalFlags 'p')
          substitutionFlags fuel { s with shows := true } ignoreCase byLines
        | 'w' =>
          if (← get).style.guarded then throw .forbidden
          return ({ s with file := some (← fileName) }, ignoreCase, byLines)
        | _ => throw .unknownFlag

/-- Reads a substitution. -/
def substitution : EditReader Substitution := do
  match ← next? with
  | none => throw (.openCommand 's')
  | some mark =>
    let some pattern ← marked mark true
      | throw (.openCommand 's')
    let some replacement ← marked mark false
      | throw (.openCommand 's')
    let parts := replacementParts replacement
    let start : Substitution := ⟨none, parts, 0, false, false, false, none⟩
    let (s, ignoreCase, byLines) ←
      substitutionFlags ((← get).rest.length + 1) start false false
    let search ← search pattern ignoreCase byLines
    let groups : Nat := (search.map fun s => s.regex.groupCount).getD 9
    let most : Nat := parts.foldl (fun n part => match part with
      | .group k => max n k
      | _ => n) 0
    if groups < most then throw (.missingGroup most)
    return { s with search := search, first := max 1 s.first }

/-- Reads which characters stand in for others. -/
def translation : EditReader (List (Char × Char)) := do
  match ← next? with
  | none => throw (.openCommand 'y')
  | some mark =>
    let some old ← marked mark false
      | throw (.openCommand 'y')
    let some new ← marked mark false
      | throw (.openCommand 'y')
    let (old, new) := (plainText old, plainText new)
    if old.length ≠ new.length then throw .lengthsDiffer
    return old.zip new

/-- Commands that are a letter alone. -/
def letterAction? : Char → Option EditAction
  | '=' => some .printNumber
  | 'd' => some .delete
  | 'D' => some .deleteFirst
  | 'F' => some .printName
  | 'g' => some .recall
  | 'G' => some .recallToo
  | 'h' => some .hold
  | 'H' => some .holdToo
  | 'n' => some .next
  | 'N' => some .nextToo
  | 'p' => some .print
  | 'P' => some .printFirst
  | 'x' => some .exchange
  | 'z' => some .clear
  | _ => none

/-- A number behind a letter. -/
def letterNumber : EditReader (Option Nat) := do
  skipGaps
  let n ← if (← peek?).any Char.isDigit then some <$> number else pure none
  finish
  return n

/-- A version is not above 4.9. -/
def isOldVersion (cs : Octets) : Bool :=
  match (Text.splitOn '.' cs).map natural? with
  | [some 4, some minor] => minor ≤ 9
  | [some 4, some minor, some _] => minor < 9
  | some major :: _ => major < 4
  | _ => cs.isEmpty

/-- Reads what a command does, behind its addresses. -/
def command (first last : Option LineAddress) (negated : Bool) (letter : Char) :
    EditReader Unit := do
  let build (action : EditAction) : EditCommand := ⟨first, last, negated, action⟩
  if (← get).style.guarded && ['e', 'r', 'w', 'W', 'R'].contains letter then throw .forbidden
  match letterAction? letter with
  | some action =>
    finish
    add (build action)
  | none =>
    match letter with
    | '#' =>
      if first.isSome then throw .commentWithAddress
      let s ← get
      let comment ← takeWhile (· != '\n')
      if s.commands.isEmpty && s.spot.offset = 1 && comment == ['n'] then
        modify fun s => { s with quiet := true }
    | 'v' =>
      if !isOldVersion (← label) then throw .newerVersion
    | '\x7b' =>
      modify fun s => { s with blocks := s.spot :: s.blocks }
      add (build .openBlock)
    | '\x7d' =>
      let s ← get
      if s.blocks.isEmpty then throw .unexpectedClose
      if first.isSome then throw .closeWithAddress
      finish
      modify fun s => { s with blocks := s.blocks.drop 1 }
      add (build .closeBlock)
    | ':' =>
      if first.isSome then throw .labelWithAddress
      let name ← label
      if name.isEmpty then throw .labelMissing
      add (build (.label name))
    | 'b' => add (build (.branch .always (← label)))
    | 't' => add (build (.branch .ifReplaced (← label)))
    | 'T' => add (build (.branch .unlessReplaced (← label)))
    | 'a' => text fun cs => build (.append cs)
    | 'i' => text fun cs => build (.insert cs)
    | 'c' => text fun cs => build (.change cs)
    | 'e' =>
      skipGaps
      match ← peek? with
      | none => add (build (.run none))
      | some '\n' => add (build (.run none))
      | some _ => text fun cs => build (.run (some cs))
    | 'l' => add (build (.printPlainly (← letterNumber)))
    | 'q' =>
      if last.isSome then throw .severalAddresses
      add (build (.quit true ((← letterNumber).getD 0)))
    | 'Q' =>
      if last.isSome then throw .severalAddresses
      add (build (.quit false ((← letterNumber).getD 0)))
    | 'r' => add (build (.readFile (← fileName)))
    | 'R' => add (build (.readLine (← fileName)))
    | 'w' => add (build (.writeLine (← fileName)))
    | 'W' => add (build (.writeFirst (← fileName)))
    | 's' => add (build (.substitute (← substitution)))
    | 'y' =>
      let table ← translation
      finish
      add (build (.translate table))
    | c => throw (.unknownCommand c)

/-- Reads the addresses of a command, and the command. -/
def addressed : EditReader Unit := do
  let first ← address?
  skipGaps
  let last ← if first.isSome && (← peek?) == some ',' then do
      let _ ← next?
      skipGaps
      match ← address? with
      | some found =>
        skipGaps
        pure (some found)
      | none =>
        let _ ← next?
        throw .unexpectedComma
    else pure none
  match first with
  | some (.more _) | some (.multiple _) => throw .countFirst
  | some (.line 0) | some (.step 0 0) =>
    match last with
    | some (.matching _) => pure ()
    | _ =>
      let _ ← next?
      throw .lineZero
  | _ => pure ()
  let negated ← takes '!'
  if negated then
    skipGaps
    if ← takes '!' then throw .severalNots
  match ← next? with
  | none => throw .missingCommand
  | some letter => command first last negated letter

/-- Reads the commands of a piece. -/
def commands : (fuel : Nat) → EditReader Unit
  | 0 => return
  | fuel + 1 => do
    let _ ← takeWhile fun c => c == ';' || c.isWhitespace || c == '\x0b' || c == '\x0c'
    match ← peek? with
    | none => return
    | some _ =>
      addressed
      commands fuel

/-- Reads a piece. -/
def piece (p : EditPiece) : EditReader Unit := do
  modify fun s => { s with rest := p.text, spot := ⟨p.number, p.file, 0, 1⟩ }
  match (← get).unfinished with
  | some (before, build) =>
    modify fun s => { s with unfinished := none }
    addText before build
  | none => pure ()
  commands (p.text.length + 1)

/-- Reads what is left after the last piece. -/
def ending : EditReader Unit := do
  let s ← get
  match s.unfinished with
  | some (before, build) => add (build (plainText before))
  | none => pure ()
  match s.blocks with
  | [] => return
  | spot :: _ =>
    modify fun s => { s with spot := { spot with offset := 0 } }
    throw .unmatchedOpen

end EditReader

/-- Commands, with what has to be known about where they were read. -/
structure EditScript where
  commands : Array EditCommand
  quiet : Bool
  /-- The end of the last piece. -/
  ended : EditSpot

/-- Why pieces cannot be read. -/
inductive EditScriptFault where
  | wrong (spot : EditSpot) (f : EditFault)
  | labelUnknown (name : Octets)

/-- The fault in words. -/
def EditScriptFault.text : EditScriptFault → Octets
  | wrong _ (.regex .bareClass) => octets RegexFault.bareClass.text
  | wrong spot f => spot.text ++ f.text
  | labelUnknown name => octets "can\x27t find label for jump to \x60" ++ name ++ ['\x27']

/-- The exit code for a fault. -/
def EditScriptFault.code : EditScriptFault → Nat
  | wrong _ (.regex .bareClass) | labelUnknown _ => 4
  | wrong .. => 1

/-- The label that a command goes to. -/
def EditAction.goal? : EditAction → Option Octets
  | .branch _ name => if name.isEmpty then none else some name
  | _ => none

/-- The command is a label of a name. -/
def EditAction.isLabel (name : Octets) : EditAction → Bool
  | .label n => n == name
  | _ => false

/-- The commands of all pieces. -/
def readPieces (style : EditStyle) (pieces : List EditPiece) :
    Except EditScriptFault EditScript :=
  let start : EditReading := ⟨style, [], ⟨0, none, 0, 1⟩, [], [], none, false⟩
  let reader : EditReader Unit := do
    pieces.forM EditReader.piece
    EditReader.ending
  match reader.run start with
  | .error f s => .error (.wrong s.spot f)
  | .ok _ s =>
    let commands := s.commands.reverse
    let lost := commands.find? fun c => c.action.goal?.any fun name =>
      !commands.any fun d => d.action.isLabel name
    match lost.bind fun c => c.action.goal? with
    | some name => .error (.labelUnknown name)
    | none => .ok ⟨commands.toArray, s.quiet, { s.spot with offset := 0 }⟩

end MatrixFlow.Script
