import MatrixFlow.Script.Escape

/-!
# Reading words

* `readParts`: the pieces of a word up to its end.
* `readWord`: the word that begins here.
* `skipBlanks`: what stands between words.

Every function that calls itself takes fuel; a script has fewer nested calls than the fuel that
`Cursor.fuel` computes from its length.
-/

namespace MatrixFlow.Script

/-- A name at the start of a text. -/
def leadingName (cs : Octets) : Octets :=
  match cs with
  | c :: _ =>
    if isNameStart c then cs.takeWhile isNameRest
    else if c.isDigit then [c]
    else if isSpecialParam c then [c]
    else []
  | [] => []

/-! ## Nested scripts -/

/-- Takes the commands of a script within the script, up to the bracket that closes it. -/
def takeNested : Scan Octets := do
  let c ← get
  let inner := { c with aliases := [], pending := [], documents := [], unended := [] }
  match (← read) true inner with
  | .ok after =>
    set { c with rest := after.rest.drop 1, line := after.line }
    return c.rest.take (c.rest.length - after.rest.length)
  | .error f =>
    match c.dialect with
    | .plain => throw f
    | .extended => throw (.nested f)

/-- The part of a script between back quotes that counts. In the plain dialect it is read at once,
and what follows a word that cannot begin a command does not count. -/
def backquotedPart (source : Octets) : Scan Octets := do
  let c ← get
  match c.dialect with
  | .extended => return source
  | .plain =>
    match (← read) false (.start .plain 1 0 source) with
    | .ok after => return source.take (source.length - after.rest.length)
    | .error f => throw f

/-- What stands up to two brackets that close, and what follows; `depth` brackets are open. A single
bracket that closes is part of the formula if it `mayStray`. -/
def takeFormula (mayStray : Bool) : (depth : Nat) → Octets → Option (Octets × Octets)
  | _, [] => none
  | 0, ')' :: r =>
    match r with
    | ')' :: rest => some ([], rest)
    | _ =>
      if mayStray then (takeFormula mayStray 0 r).map fun (cs, rest) => (')' :: cs, rest)
      else none
  | depth + 1, ')' :: r =>
    (takeFormula mayStray depth r).map fun (cs, rest) => (')' :: cs, rest)
  | depth, c :: r =>
    (takeFormula mayStray (if c == '(' then depth + 1 else depth) r).map fun (cs, rest) =>
      (c :: cs, rest)

/-- A formula between two brackets on each side, if the text begins with one. -/
def formula? (dialect : Dialect) : Octets → Option (Octets × Octets)
  | '(' :: '(' :: r => takeFormula (dialect = .plain) 0 r
  | _ => none

/-- Brackets close behind `depth` that are open. -/
def bracketsClose : (depth : Nat) → Octets → Bool
  | 0, _ => true
  | _, [] => false
  | depth + 1, c :: r =>
    bracketsClose (if c == '(' then depth + 2 else if c == ')' then depth else depth + 1) r

/-- What stands up to the next back quote. Between quotation marks, a backslash in front of one of
these goes too. -/
def takeBackquoted (quoted : Bool) : Octets → Option (Octets × Octets)
  | [] => none
  | '\x60' :: r => some ([], r)
  | '\\' :: c :: r =>
    (takeBackquoted quoted r).map fun (cs, rest) =>
      (if c == '\n' then cs
        else if c == '\x60' || c == '\\' || c == '$' || (quoted && c == '\x22') then c :: cs
        else '\\' :: c :: cs, rest)
  | c :: r => (takeBackquoted quoted r).map fun (cs, rest) => (c :: cs, rest)

/-- What stands up to the next single quotation mark without a backslash in front. -/
def takeEscaped : Octets → Octets
  | '\\' :: c :: r => '\\' :: c :: takeEscaped r
  | c :: r => if c == '\x27' then [] else c :: takeEscaped r
  | [] => []

/-- Where a word ends. -/
inductive WordEnd where
  /-- At a character that ends words. -/
  | bare
  /-- At a quotation mark; the first one stands on a line. -/
  | quote (line : Nat)
  /-- At a closing brace; the brace that opens stands on a line. -/
  | brace (quoted : Bool) (line : Nat)
  /-- At a slash, or at a closing brace. -/
  | slash (line : Nat)
  /-- At a closing bracket. -/
  | group
  /-- At the end of the text, within which nothing is quoted. -/
  | regular
  /-- At the end of the text. -/
  | whole
deriving DecidableEq

/-- Pieces stand between quotation marks. -/
def WordEnd.isQuoted : WordEnd → Bool
  | bare | regular | slash _ | group => false
  | quote _ | whole => true
  | brace quoted _ => quoted

/-- A closing brace ends the word. -/
def WordEnd.isBrace : WordEnd → Bool
  | brace .. => true
  | _ => false

/-- A backslash takes away the meaning of a character. -/
def WordEnd.escapes (w : WordEnd) (c : Char) : Bool :=
  match w with
  | bare | regular | brace false _ | slash _ | group => true
  | quote _ => ['$', '\x60', '\x22', '\\'].contains c
  | brace true _ => ['$', '\x60', '\x22', '\\', '\x7d'].contains c
  | whole => ['$', '\x60', '\\'].contains c

/-- Puts text in front of pieces. -/
def consText (quoted : Bool) (cs : Octets) : Word → Word
  | .text q ds :: rest =>
    if q = quoted then .text q (cs ++ ds) :: rest else .text quoted cs :: .text q ds :: rest
  | rest => .text quoted cs :: rest

/-- Puts pieces in front of others. -/
def joinText (first rest : Word) : Word :=
  match first with
  | [] => rest
  | [.text quoted cs] => consText quoted cs rest
  | part :: more => part :: joinText more rest

/-- The pieces are all parameters, each by itself; there may be none. -/
def isAllParams : Word → Bool
  | [.param _ "@" [] false _ _] => true
  | [.param _ _ [.text _ ['@']] _ _ _] => true
  | [.param _ _ [] true (.names false) _] => true
  | _ => false

/-- Further rules, and how many characters they take. -/
def extendedRule? : Octets → Option (ParamRule × Nat)
  | ':' :: '\x7d' :: _ => none
  | ':' :: _ => some (.slice, 1)
  | '@' :: c :: '\x7d' :: _ => if c.isAlpha then some (.form c, 2) else none
  | '/' :: '/' :: _ => some (.replace true, 2)
  | '/' :: _ => some (.replace false, 1)
  | '^' :: '^' :: _ => some (.letters true true, 2)
  | '^' :: _ => some (.letters true false, 1)
  | ',' :: ',' :: _ => some (.letters false true, 2)
  | ',' :: _ => some (.letters false false, 1)
  | _ => none

/-- The word of a rule is a pattern, in which the quotation marks around the parameter do not
count. -/
def ParamRule.hasPattern : ParamRule → Bool
  | dropStart _ | dropEnd _ | replace _ | letters _ _ | slice => true
  | _ => false

/-- The rule behind the name of a parameter in braces, and how many characters it takes. -/
def paramRule? : Octets → Option (ParamRule × Nat)
  | '\x7d' :: _ => some (.value, 0)
  | ':' :: '-' :: _ => some (.orElse true, 2)
  | ':' :: '=' :: _ => some (.assign true, 2)
  | ':' :: '?' :: _ => some (.demand true, 2)
  | ':' :: '+' :: _ => some (.instead true, 2)
  | '-' :: _ => some (.orElse false, 1)
  | '=' :: _ => some (.assign false, 1)
  | '?' :: _ => some (.demand false, 1)
  | '+' :: _ => some (.instead false, 1)
  | '#' :: '#' :: _ => some (.dropStart true, 2)
  | '#' :: _ => some (.dropStart false, 1)
  | '%' :: '%' :: _ => some (.dropEnd true, 2)
  | '%' :: _ => some (.dropEnd false, 1)
  | _ => none

mutual

/-- The pieces up to the end of a word, which is left standing. -/
def readParts (fuel : Nat) (wordEnd : WordEnd) : Scan Word :=
  match fuel with
  | 0 => return []
  | fuel + 1 => do
    let c ← get
    let quoted := wordEnd.isQuoted
    match c.rest with
    | [] =>
      match wordEnd with
      | .quote line => throw (.unclosed (← faultLine line) "\x22")
      | .brace quoted line =>
        let mark := if quoted && c.dialect = .plain then "\x22" else "\x7d"
        throw (.unclosed (← faultLine line) mark)
      | .slash line => throw (.unclosed line "\x7d")
      | .group => throw (.unclosed c.line ")")
      | _ => return []
    | '\\' :: '\n' :: _ =>
      advance 2
      readParts fuel wordEnd
    | '\\' :: d :: _ =>
      advance 2
      let cs := if wordEnd.escapes d then [d] else ['\\', d]
      return consText true cs (← readParts fuel wordEnd)
    | '$' :: '\x27' :: r =>
      if c.dialect = .extended && !quoted then
        let inner := takeEscaped r
        if inner.length = r.length then throw (.unclosed c.line "\x27")
        advance (inner.length + 3)
        let text := (EscapeRules.quotation.apply inner).1.takeWhile (· != '\x00')
        return consText true text (← readParts fuel wordEnd)
      else
        advance 1
        return consText quoted ['$'] (← readParts fuel wordEnd)
    | '$' :: '\x22' :: _ =>
      advance 1
      if c.dialect = .extended && !quoted then readParts fuel wordEnd
      else return consText quoted ['$'] (← readParts fuel wordEnd)
    | '$' :: r =>
      let part ← readDollar fuel quoted r
      match part with
      | .text q cs => return consText q cs (← readParts fuel wordEnd)
      | part => return part :: (← readParts fuel wordEnd)
    | '\x60' :: r =>
      match takeBackquoted quoted r with
      | none => throw (.unclosed (← faultLine c.line) "\x60")
      | some (source, rest) =>
        let source ← backquotedPart source
        advance (c.rest.length - rest.length)
        return .command quoted 1 source :: (← readParts fuel wordEnd)
    | d :: r =>
      let opens := c.dialect = .extended && r.head? == some '('
      let stops := match wordEnd with
        | .bare => isMeta d && !(opens && d == '<')
        | .quote _ => d == '\x22'
        | .brace .. => d == '\x7d'
        | .slash _ => d == '\x7d' || d == '/'
        | .group => d == ')'
        | .regular | .whole => false
      if stops then return []
      else if opens && d == '<' && wordEnd == .bare then
        advance 2
        let source ← takeNested
        return .process c.line source :: (← readParts fuel wordEnd)
      else if opens && c.groups && !quoted && ['?', '*', '+', '@', '!'].contains d then
        advance 2
        let inner ← readParts fuel .group
        advance 1
        let rest ← readParts fuel wordEnd
        return consText false [d, '('] (joinText inner (consText false [')'] rest))
      else if d == '\x27' && !quoted then
        let inner := r.takeWhile (· != '\x27')
        if inner.length = r.length then throw (.unclosed (← faultLine c.line) "\x27")
        advance (inner.length + 2)
        return consText true inner (← readParts fuel wordEnd)
      else if d == '\x27' && wordEnd.isBrace && quoted && c.dialect = .extended && !r.contains d then
        throw (.unclosed c.line "\x27")
      else if d == '\x22' && !(wordEnd == .whole) then
        advance 1
        let inner ← readParts fuel (.quote c.line)
        advance 1
        let inner := if isAllParams inner then inner else consText true [] inner
        return inner ++ (← readParts fuel wordEnd)
      else
        advance 1
        return consText quoted [d] (← readParts fuel wordEnd)

/-- The piece that a dollar sign begins. -/
def readDollar (fuel : Nat) (quoted : Bool) (r : Octets) : Scan WordPart :=
  match fuel with
  | 0 => return .text quoted ['$']
  | fuel + 1 => do
    let c ← get
    match r with
    | '(' :: inside =>
      match formula? c.dialect r with
      | some (formula, rest) =>
        advance (c.rest.length - rest.length)
        let parts ← readInner fuel .whole formula
        return .arithmetic quoted parts
      | none =>
        let doubled := inside.head? == some '('
        if doubled && (c.dialect = .plain || !bracketsClose 1 inside) then
          throw (.unclosed (← faultLine c.line) "))")
        advance 2
        return .command quoted c.line (← takeNested)
    | '\x7b' :: r => readBraced fuel quoted r
    | '[' :: inside =>
      match c.dialect, takeIndex 0 inside with
      | .extended, some (formula, rest) =>
        advance (c.rest.length - rest.length)
        return .arithmetic quoted (← readInner fuel .whole formula)
      | .extended, none => throw (.unclosed c.line "]")
      | .plain, _ =>
        advance 1
        return .text quoted ['$']
    | _ =>
      let name := leadingName r
      if name.isEmpty then
        advance 1
        return .text quoted ['$']
      else
        advance (1 + name.length)
        return .param quoted (String.ofList name) [] false .value []

/-- The pieces of a text by itself. -/
def readInner (fuel : Nat) (wordEnd : WordEnd) (cs : Octets) : Scan Word :=
  match fuel with
  | 0 => return []
  | fuel + 1 => do
    let outer ← get
    set { outer with rest := cs }
    let parts ← readParts fuel wordEnd
    set outer
    return parts

/-- A parameter in braces, from behind the brace that opens on. -/
def readBraced (fuel : Nat) (quoted : Bool) (r : Octets) : Scan WordPart :=
  match fuel with
  | 0 => return .text quoted ['$']
  | fuel + 1 => do
    let c ← get
    let extended := c.dialect = .extended
    let isLength := measures r
    let indirect := extended && r.head? == some '!' && (r.drop 1).head?.any stands
    let body := if isLength || indirect then r.drop 1 else r
    let name := match body with
      | d :: _ => if d.isDigit then body.takeWhile Char.isDigit else leadingName body
      | [] => []
    let after := body.drop name.length
    let (index, after) := match after with
      | '[' :: s =>
        if extended && name.head?.any isNameStart then
          match takeIndex 0 s with
          | some (cs, rest) => (some cs, rest)
          | none => (none, after)
        else (none, after)
      | _ => (none, after)
    let further := if extended then extendedRule? after else none
    let listed := indirect && index.isNone &&
      (after.head? == some '@' || after.head? == some '*') && (after.drop 1).head? == some '\x7d'
    let keyed := indirect && after.head? == some '\x7d' &&
      (index == some ['@'] || index == some ['*'])
    let rule := if name.isEmpty then none
      else if listed then some (.names (after.head? == some '*'), 1)
      else if keyed then some (.keys, 0)
      else if !extended && Text.startsWith [':', '\x7d'] after then some (.value, 2)
      else (paramRule? after).or further
    match rule with
    | none =>
      advance (c.rest.length - r.length)
      let _ ← readParts fuel (.brace quoted c.line)
      advance 1
      return .invalid (c.rest.take (c.rest.length - (← get).rest.length))
    | some (rule, n) =>
      let rule := if isLength then .length else rule
      let index ← match index with
        | some cs => readInner fuel .regular cs
        | none => pure []
      advance (c.rest.length - after.length + n)
      let word ← match rule with
        | .replace _ => do
          let pattern ← readParts fuel (.slash c.line)
          match (← get).rest with
          | '/' :: _ =>
            advance 1
            pure (pattern ++ .divider :: (← readParts fuel (.brace false c.line)))
          | _ => pure pattern
        | rule => readParts fuel (.brace (quoted && !rule.hasPattern) c.line)
      advance 1
      return .param quoted (String.ofList name) index (indirect && !keyed && !listed) rule word
where
  /-- The parameter is asked for its length. -/
  measures : Octets → Bool
    | '#' :: r =>
      let name := match r with
        | d :: _ => if d.isDigit then r.takeWhile Char.isDigit else leadingName r
        | [] => []
      match name, r.drop name.length with
      | _ :: _, '\x7d' :: _ => true
      | d :: _, '[' :: _ => isNameStart d
      | _, _ => false
    | _ => false
  /-- A parameter whose value can name another one begins here. -/
  stands (d : Char) : Bool :=
    isNameStart d || d.isDigit || d == '#' || d == '@' || d == '*'

end

/-- Takes away blanks, joined lines and a comment. -/
def skipBlanks : (fuel : Nat) → Scan Unit
  | 0 => return
  | fuel + 1 => do
    match (← get).rest with
    | ' ' :: _ | '\t' :: _ =>
      advance 1
      skipBlanks fuel
    | '\\' :: '\n' :: _ =>
      advance 2
      skipBlanks fuel
    | '#' :: r => advance (1 + (r.takeWhile (· != '\n')).length)
    | _ => return

/-- The word that begins here. -/
def readWord (fuel : Nat) : Scan Word :=
  readParts fuel .bare

/-- The word as it stands, if nothing of it is quoted or expanded. -/
def plainText? : Word → Option (Octets)
  | [.text false cs] => some cs
  | _ => none

/-- The text of a word without expansion, and whether some of it is quoted. -/
def literalText : Word → Octets × Bool
  | [] => ([], false)
  | part :: rest =>
    let (cs, quoted) := literalText rest
    match part with
    | .text q ds => (ds ++ cs, q || quoted)
    | .param q name _ _ _ _ => ('$' :: name.toList ++ cs, q || quoted)
    | .command q _ _ | .arithmetic q _ => (cs, q || quoted)
    | .divider | .process _ _ | .elements .. => (cs, quoted)
    | .invalid ds => (ds ++ cs, quoted)

end MatrixFlow.Script
