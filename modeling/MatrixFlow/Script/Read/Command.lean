import MatrixFlow.Script.Read.Condition
import MatrixFlow.Script.Read.Simple

/-!
# Reading commands

A script is read one complete command after the other, so that what stands in front of a fault
still runs.

* `readList`: commands up to something that ends a list.
* `readCommandNode`: a command of any kind.
* `nestedReader`: how scripts within scripts are read.
* `nextCommand`: the next complete command.
-/

namespace MatrixFlow.Script

/-! ## Words of their own meaning -/

/-- Words that have a meaning of their own where a command begins. -/
def plainWords : List String :=
  ["if", "then", "else", "elif", "fi", "do", "done", "case", "esac", "while", "until", "for", "!",
    "\x7b", "\x7d"]

/-- Further words. -/
def extendedWords : List String :=
  ["[[", "function", "time", "select"]

/-- Words that end a list of commands. -/
def endingWords : List String :=
  ["then", "else", "elif", "fi", "do", "done", "esac", "\x7d"]

/-- The word with a meaning of its own that begins here. -/
def reserved? (fuel : Nat) : Scan (Option String) := do
  skipBlanks fuel
  let c ← get
  let cs := c.rest.takeWhile fun d => !isMeta d && d != '\\'
  let ends := match c.rest.drop cs.length with
    | '\\' :: '\n' :: d :: _ => isMeta d
    | '\\' :: _ => false
    | _ => true
  let word := String.ofList cs
  let known := plainWords.contains word ||
    (c.dialect = .extended && extendedWords.contains word)
  return if ends && known then some word else none

/-- Takes a word that has to come here. -/
def expectWord (fuel : Nat) (s : String) : Scan Unit := do
  if (← reserved? fuel) = some s then advance s.length
  else unexpectedHere fuel (some s)

/-- The pattern that begins here. In the plain dialect any sign may stand in its place. -/
def readPattern (fuel : Nat) : Scan Word := do
  skipBlanks fuel
  let c ← get
  if isWordHere c then readWord fuel
  else match c.dialect with
    | .extended => unexpectedInLine fuel none
    | .plain =>
      advance (((signHere? .plain c.rest).map (·.length)).getD 1)
      return []

/-- The patterns of an arm, up to the bracket. -/
def readPatterns (fuel : Nat) : (steps : Nat) → Scan (List Word)
  | 0 => return []
  | steps + 1 => do
    let pattern ← readPattern fuel
    skipBlanks fuel
    let c ← get
    match c.rest with
    | '|' :: '|' :: _ => unexpectedHere fuel (some ")")
    | '|' :: _ =>
      advance 1
      return pattern :: (← readPatterns fuel steps)
    | ')' :: _ =>
      advance 1
      return [pattern]
    | _ =>
      if isWordHere c && c.dialect = .plain then throw (.unexpected c.line (.word []) (some ")"))
      else unexpectedInLine fuel (some ")")

/-- A text without the blanks around it. -/
def bareSource (cs : Octets) : Octets :=
  let isBlank (c : Char) : Bool := c == ' ' || c == '\t'
  ((cs.dropWhile isBlank).reverse.dropWhile isBlank).reverse

/-- The words behind `in`, up to the end of the command. -/
def readItems (fuel : Nat) : (steps : Nat) → Scan (List Word)
  | 0 => return []
  | steps + 1 => do
    skipBlanks fuel
    match (← get).rest with
    | [] => return []
    | c :: _ =>
      if isMeta c then return []
      else
        let word ← readWord fuel
        return word :: (← readItems fuel steps)

/-- Puts what an alias stands for in its place; false if no alias begins here. -/
def expandAlias : Scan Bool := do
  let c ← get
  let word := c.rest.takeWhile fun d =>
    !isMeta d && !(['\x22', '\x27', '$', '\x60', '\\', '='].contains d)
  let name := String.ofList word
  let after := c.rest.drop word.length
  let active := c.expanding.any fun (k, n) => k == name && n ≤ after.length
  match c.aliases.find? fun (k, _) => k == name with
  | some (_, text) =>
    if active || !(after.head?.all isMeta) then return false
    let expanding := (name, after.length) :: c.expanding
    set { c with rest := text ++ after, expanding := expanding }
    return true
  | none => return false

/-! ## Commands -/

mutual

/-- Commands up to something that ends a list. -/
def readList (fuel : Nat) : Scan (List Node) :=
  match fuel with
  | 0 => return []
  | fuel + 1 => do
    skipLines fuel fuel
    let c ← get
    match c.rest with
    | [] => return []
    | ')' :: _ => return []
    | ';' :: ';' :: _ => return []
    | _ =>
      if c.dialect = .extended && Text.startsWith [';', '&'] c.rest then return []
      match ← reserved? fuel with
      | some s => if endingWords.contains s then return [] else readListItem fuel
      | none => readListItem fuel

/-- One command of a list, and those behind it. -/
def readListItem (fuel : Nat) : Scan (List Node) :=
  match fuel with
  | 0 => return []
  | fuel + 1 => do
    let first ← readAndOr fuel
    skipBlanks fuel
    let c ← get
    match c.rest with
    | ';' :: ';' :: _ => return [first]
    | ';' :: r =>
      if c.dialect = .extended && r.head? == some '&' then return [first]
      advance 1
      return first :: (← readList fuel)
    | '&' :: _ =>
      advance 1
      return .background first :: (← readList fuel)
    | '\n' :: _ => return first :: (← readList fuel)
    | _ => return [first]

/-- Pipelines with `&&` and `||` between them. -/
def readAndOr (fuel : Nat) : Scan Node :=
  match fuel with
  | 0 => return .sequence []
  | fuel + 1 => do
    let first ← readPipeline fuel
    readAndOrRest fuel first

/-- What follows a pipeline. -/
def readAndOrRest (fuel : Nat) (first : Node) : Scan Node :=
  match fuel with
  | 0 => return first
  | fuel + 1 => do
    skipBlanks fuel
    match (← get).rest with
    | '&' :: '&' :: _ =>
      advance 2
      skipLines fuel fuel
      let second ← readPipeline fuel
      readAndOrRest fuel (.both first second)
    | '|' :: '|' :: _ =>
      advance 2
      skipLines fuel fuel
      let second ← readPipeline fuel
      readAndOrRest fuel (.either first second)
    | _ => return first

/-- Commands with pipes between them. -/
def readPipeline (fuel : Nat) : Scan Node :=
  match fuel with
  | 0 => return .sequence []
  | fuel + 1 => do
    let c ← get
    match c.dialect, ← reserved? fuel with
    | .extended, some "time" =>
      advance 4
      skipBlanks fuel
      let portable := match (← get).rest with
        | '-' :: 'p' :: r => r.head?.all isMeta
        | _ => false
      if portable then advance 2
      if ← endsHere fuel then return .timed portable (.simple c.line [] [] [] [])
      else return .timed portable (← readPipeline fuel)
    | .extended, some "!" =>
      advance 1
      if ← endsHere fuel then return .pipeline true [.simple c.line [] [] [] []]
      else match ← readPipeline fuel with
        | .pipeline negated parts => return .pipeline (!negated) parts
        | other => return .pipeline true [other]
    | .plain, some "!" =>
      advance 1
      let first ← readCommandNode fuel
      match ← readPipes fuel [first] with
      | .pipeline _ parts => return .pipeline true parts
      | other => return .pipeline true [other]
    | _, _ =>
      let first ← readCommandNode fuel
      readPipes fuel [first]
where
  /-- A command that consists of words only that stand in front of others ends here. -/
  endsHere (fuel : Nat) : Scan Bool := do
    skipBlanks fuel
    return match (← get).rest with
      | ';' :: ';' :: _ => false
      | c :: _ => c == '\n' || c == ';'
      | [] => true

/-- The commands behind pipes; the ones in front stand in `taken`, the last one first. -/
def readPipes (fuel : Nat) (taken : List Node) : Scan Node :=
  match fuel with
  | 0 => return .sequence taken.reverse
  | fuel + 1 => do
    skipBlanks fuel
    let c ← get
    match c.rest with
    | '|' :: '|' :: _ => return closePipes taken
    | '|' :: r =>
      let joins := c.dialect = .extended && r.head? = some '&'
      advance (if joins then 2 else 1)
      skipLines fuel fuel
      let taken := match taken with
        | last :: rest =>
          if joins then .redirected last [⟨2, .duplicate, [.text false ['1']], 0⟩] :: rest
          else taken
        | [] => taken
      let next ← readCommandNode fuel
      readPipes fuel (next :: taken)
    | _ => return closePipes taken
where
  /-- A pipeline from its parts, the last one first. -/
  closePipes : List Node → Node
    | [only] => only
    | parts => .pipeline false parts.reverse

/-- The arms of a selection. -/
def readArms (fuel : Nat) : Scan (List (List Word × Node × ArmEnd)) :=
  match fuel with
  | 0 => return []
  | fuel + 1 => do
    skipLines fuel fuel
    if (← reserved? fuel) = some "esac" then
      advance 4
      return []
    else
      match (← get).rest with
      | '(' :: _ => advance 1
      | [] => unexpectedHere fuel (some ")")
      | _ => pure ()
      let patterns ← readPatterns fuel fuel
      let body ← readList fuel
      skipBlanks fuel
      let c ← get
      match armEnd? c with
      | some (ending, n) =>
        advance n
        return (patterns, .sequence body, ending) :: (← readArms fuel)
      | none =>
        if (← reserved? fuel) = some "esac" then advance 4
        else unexpectedHere fuel (some ";;")
        return [(patterns, .sequence body, .stops)]
where
  /-- How an arm ends, and how many characters that takes. -/
  armEnd? (c : Cursor) : Option (ArmEnd × Nat) :=
    match c.dialect, c.rest with
    | .extended, ';' :: ';' :: '&' :: _ => some (.looksOn, 3)
    | .extended, ';' :: '&' :: _ => some (.fallsThrough, 2)
    | _, ';' :: ';' :: _ => some (.stops, 2)
    | _, _ => none

/-- What follows the condition of a choice. -/
def readChoice (fuel : Nat) : Scan Node :=
  match fuel with
  | 0 => return .sequence []
  | fuel + 1 => do
    let condition ← readBlock fuel
    expectWord fuel "then"
    let yes ← readBlock fuel
    match ← reserved? fuel with
    | some "elif" =>
      advance 4
      return .choice condition yes (some (← readChoice fuel))
    | some "else" =>
      advance 4
      let no ← readBlock fuel
      expectWord fuel "fi"
      return .choice condition yes (some no)
    | _ =>
      expectWord fuel "fi"
      return .choice condition yes none

/-- Commands of which there has to be one. -/
def readBlock (fuel : Nat) : Scan Node :=
  match fuel with
  | 0 => return .sequence []
  | fuel + 1 => do
    let nodes ← readList fuel
    match nodes with
    | [] =>
      match (← get).rest with
      | [] => return .sequence []
      | _ => unexpectedHere fuel none
    | [only] => return only
    | _ => return .sequence nodes

/-- The body of a loop. -/
def readBody (fuel : Nat) : Scan Node :=
  match fuel with
  | 0 => return .sequence []
  | fuel + 1 => do
    expectWord fuel "do"
    let body ← readBlock fuel
    expectWord fuel "done"
    return body

/-- A loop over words, or over choices from them. -/
def readEach (fuel : Nat) (chooses : Bool) : Scan Node :=
  match fuel with
  | 0 => return .sequence []
  | fuel + 1 => do
    skipBlanks fuel
    let start ← get
    let token ← tokenHere fuel
    if !isWordHere start then throw (.badLoopName start.line token)
    let word ← readWord fuel
    let name := start.rest.take (start.rest.length - (← get).rest.length)
    if start.dialect = .plain && ((plainText? word).map nameHere) != some name then
      throw (.badLoopName start.line token)
    skipLines fuel fuel
    let saved ← get
    let items ←
      if Text.startsWith ['i', 'n'] saved.rest && ((saved.rest.drop 2).head?.all isMeta) then do
        advance 2
        some <$> readItems fuel fuel
      else pure none
    let written := saved.rest.take (saved.rest.length - (← get).rest.length)
    let source := if items.isSome then bareSource (written.drop 2) else "\x22$@\x22".toList
    skipBlanks fuel
    match (← get).rest with
    | ';' :: _ => advance 1
    | _ => pure ()
    skipLines fuel fuel
    let braced := start.dialect = .extended && (← reserved? fuel) = some "\x7b"
    let body ← if braced then do
        advance 1
        let body ← readBlock fuel
        expectWord fuel "\x7d"
        pure body
      else readBody fuel
    return .each start.line chooses source (String.ofList name) items body

/-- The text of a formula of a loop that counts; without one, it is one. -/
def countedFormula (cs : Octets) : Octets :=
  let text := cs.dropWhile fun c => c == ' ' || c == '\t'
  if text.isEmpty then ['1'] else text

/-- A loop that counts: three formulas, of which each may be empty, and a body. -/
def readCounted (fuel : Nat) (formulas rest : Octets) : Scan Node :=
  match fuel with
  | 0 => return .sequence []
  | fuel + 1 => do
    let line := (← get).line
    advance ((← get).rest.length - rest.length)
    match Text.splitOn ';' formulas with
    | [a, b, c] =>
      let line := (← get).line
      let first ← readInner fuel .whole (countedFormula a)
      let condition ← readInner fuel .whole (countedFormula b)
      let step ← readInner fuel .whole (countedFormula c)
      skipBlanks fuel
      match (← get).rest with
      | ';' :: _ => advance 1
      | _ => pure ()
      skipLines fuel fuel
      if (← reserved? fuel) = some "\x7b" then
        advance 1
        let body ← readBlock fuel
        expectWord fuel "\x7d"
        return .counted line first condition step body
      else return .counted line first condition step (← readBody fuel)
    | parts => throw (.badFormulas line (parts.length > 3) formulas)

/-- A command with the redirections behind it. -/
def withRedirects (fuel : Nat) (body : Node) : Scan Node := do
  let redirects ← readRedirects fuel fuel
  return if redirects.isEmpty then body else .redirected body redirects

/-- Commands in brackets. -/
def readSubshell (fuel : Nat) : Scan Node :=
  match fuel with
  | 0 => return .sequence []
  | fuel + 1 => do
    let c ← get
    match c.dialect, formula? c.dialect c.rest with
    | .extended, some (formula, rest) =>
      let parts ← readInner fuel .whole formula
      advance (c.rest.length - rest.length)
      withRedirects fuel (.arithmetic c.line parts)
    | .extended, none =>
      if Text.startsWith ['(', '('] c.rest && !bracketsClose 1 (c.rest.drop 2) then
        throw (.unclosed c.line ")")
      readSubshellBody fuel
    | .plain, _ => readSubshellBody fuel

/-- Commands behind an opening bracket. -/
def readSubshellBody (fuel : Nat) : Scan Node :=
  match fuel with
  | 0 => return .sequence []
  | fuel + 1 => do
    advance 1
    let body ← readBlock fuel
    skipBlanks fuel
    match (← get).rest with
    | ')' :: _ =>
      advance 1
      withRedirects fuel (.subshell body)
    | _ => unexpectedHere fuel (some ")")

/-- A command that begins with a word of its own meaning. -/
def readReserved (fuel : Nat) (word : String) : Scan Node :=
  match fuel with
  | 0 => return .sequence []
  | fuel + 1 => do
    match word with
    | "if" =>
      advance 2
      withRedirects fuel (← readChoice fuel)
    | "while" | "until" =>
      advance 5
      let condition ← readBlock fuel
      withRedirects fuel (.loop (word == "until") condition (← readBody fuel))
    | "for" =>
      advance 3
      skipBlanks fuel
      let c ← get
      match c.dialect, formula? c.dialect c.rest with
      | .extended, some (formulas, rest) => withRedirects fuel (← readCounted fuel formulas rest)
      | _, _ => withRedirects fuel (← readEach fuel false)
    | "select" =>
      advance 6
      withRedirects fuel (← readEach fuel true)
    | "case" =>
      advance 4
      let start := (← get).rest
      let line := (← get).line
      skipBlanks fuel
      if !isWordHere (← get) then unexpectedInLine fuel (some "word")
      let selected ← readWord fuel
      let header := start.take (start.length - (← get).rest.length)
      skipLines fuel fuel
      let c ← get
      if Text.startsWith ['i', 'n'] c.rest && (c.rest.drop 2).head?.all isMeta then advance 2
      else unexpectedHere fuel (some "in")
      withRedirects fuel (.select line header selected (← readArms fuel))
    | "\x7b" =>
      advance 1
      let body ← readBlock fuel
      expectWord fuel "\x7d"
      withRedirects fuel body
    | "[[" =>
      let line := (← get).line
      advance 2
      let condition ← readWholeCondition fuel line
      withRedirects fuel (.condition line condition)
    | "function" =>
      advance 8
      skipBlanks fuel
      let start ← get
      if !isWordHere start then unexpectedInLine fuel none
      let _ ← readWord fuel
      let name := start.rest.take (start.rest.length - (← get).rest.length)
      skipBlanks fuel
      if (← get).rest.head? == some '(' then
        advance 1
        skipBlanks fuel
        if (← get).rest.head? == some ')' then advance 1 else unexpectedInLine fuel none
      readFunction fuel name
    | _ => unexpectedHere fuel none

/-- A command of any kind. -/
def readCommandNode (fuel : Nat) : Scan Node :=
  match fuel with
  | 0 => return .sequence []
  | fuel + 1 => do
    match ← reserved? fuel with
    | some word => readReserved fuel word
    | none =>
      match (← get).rest with
      | '(' :: _ => readSubshell fuel
      | _ =>
        if ← expandAlias then readCommandNode fuel
        else
          let c ← get
          let s ← readSimple fuel fuel ⟨[], [], [], c.line⟩
          let source := bareSource (c.rest.take (c.rest.length - (← get).rest.length))
          let bare := s.assignments.isEmpty && s.redirects.isEmpty
          match bare, s.words, (← get).rest with
          | true, [], _ => unexpectedHere fuel none
          | true, [word], '(' :: _ =>
            advance 1
            skipBlanks fuel
            if (← get).rest.head? == some ')' then advance 1
            else unexpectedInLine fuel (some ")")
            let proper := (plainText? word).any fun cs =>
              nameHere cs == cs && !isSpecial (String.ofList cs)
            if c.dialect = .plain && !proper then throw (.badFunctionName (← get).line)
            readFunction fuel source
          | _, _, _ => return .simple s.line source s.assignments s.words s.redirects

/-- The body of a function. In the extended dialect it begins with a word or sign of its own
meaning. -/
def readFunction (fuel : Nat) (name : Octets) : Scan Node :=
  match fuel with
  | 0 => return .sequence []
  | fuel + 1 => do
    skipLines fuel fuel
    let c ← get
    let word ← reserved? fuel
    let begins := c.rest.head? == some '(' || word.any fun s =>
      !endingWords.contains s && !(["!", "time", "function"].contains s)
    if c.dialect = .extended && !begins then unexpectedHere fuel none
    return .function (String.ofList name) (← readCommandNode fuel)

end

/-- The commands up to the end of the line. -/
def readLine (fuel : Nat) : (steps : Nat) → Scan (List Node)
  | 0 => return []
  | steps + 1 => do
    let first ← readAndOr fuel
    skipBlanks fuel
    match (← get).rest with
    | [] => return [first]
    | '\n' :: _ => afterCommand fuel steps first
    | ';' :: ';' :: _ => unexpectedHere fuel none
    | ';' :: _ =>
      advance 1
      afterCommand fuel steps first
    | '&' :: _ =>
      advance 1
      afterCommand fuel steps (.background first)
    | _ => unexpectedHere fuel none
where
  /-- What follows a command on its line. -/
  afterCommand (fuel steps : Nat) (first : Node) : Scan (List Node) := do
    skipBlanks fuel
    match (← get).rest with
    | [] => return [first]
    | '\n' :: _ =>
      newline fuel
      return [first]
    | _ => return first :: (← readLine fuel steps)

/-- The next complete command; none at the end of the script. -/
def readCommand : Scan (Option Node) := do
  let fuel := (← get).fuel
  skipLines fuel fuel
  match (← get).rest with
  | [] => return none
  | _ =>
    let nodes ← readLine fuel fuel
    modify fun c => if c.rest.isEmpty then
        { c with unended := c.unended ++ c.pending.map fun p => (c.line, p.line, p.ending) }
      else c
    return some (.sequence nodes)

/-! ## Scripts within scripts -/

/-- Takes the commands of a script within a script. -/
def readNested (closes : Bool) : Scan Unit := do
  let fuel := (← get).fuel
  let _ ← readList fuel
  skipBlanks fuel
  if closes && (← get).rest.head? != some ')' then unexpectedHere fuel (some ")")

/-- How scripts within scripts are read, to a depth. -/
def nestedReader : (depth : Nat) → NestedReader
  | 0, _, c => .error (.unclosed c.line ")")
  | depth + 1, closes, c =>
    (((readNested closes).run (nestedReader depth)).run c).map (·.2)

/-- The next complete command of a script, and what is left. -/
def nextCommand (c : Cursor) : Except SyntaxFault (Option Node × Cursor) :=
  (readCommand.run (nestedReader c.rest.length)).run c

end MatrixFlow.Script
