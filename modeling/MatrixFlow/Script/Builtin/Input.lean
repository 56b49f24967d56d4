import MatrixFlow.Script.Program

/-!
# Commands that read

* `LineReading`: what a line that is read comes to.
* `fieldHere`: a field of a line.
* `readBuiltin`, `mapfileBuiltin`.
-/

namespace MatrixFlow.Script

/-- How an input is read. -/
structure ReadRules where
  /-- Backslashes stand for themselves. -/
  raw : Bool
  /-- Where reading stops. -/
  delimiter : Char
  /-- How many characters are read at most. -/
  limit : Option Nat
  /-- Only the limit counts. -/
  exact : Bool

/-- What was read: characters, marked where a backslash stood in front of them, what is left, and
whether the end was one that reading stops at. -/
structure LineReading where
  line : List Marked
  rest : Octets
  ended : Bool

/-- Puts a character in front. -/
def LineReading.add (m : Marked) (r : LineReading) : LineReading := { r with line := m :: r.line }

/-- Reads on, after so many characters. A backslash takes the meaning of the next character away,
and a line that ends in one goes on. -/
def lineHere (rules : ReadRules) : (count : Nat) → (escaped : Bool) → Octets → LineReading
  | _, _, [] => ⟨[], [], false⟩
  | count, escaped, c :: r =>
    if rules.limit == some count then ⟨[], c :: r, true⟩
    else if c == '\x00' && rules.delimiter != '\x00' then lineHere rules count false r
    else if escaped then
      if c == '\n' then lineHere rules count false r
      else (lineHere rules (count + 1) false r).add ⟨c, true⟩
    else if c == '\\' && !rules.raw then lineHere rules count true r
    else if c == rules.delimiter && !rules.exact then ⟨[], r, true⟩
    else (lineHere rules (count + 1) false r).add ⟨c, false⟩

/-- The character separates fields. -/
def Marked.separates (separators : Octets) (m : Marked) : Bool :=
  !m.quoted && separators.contains m.char

/-- The character is a blank that separates fields. -/
def Marked.isGap (separators : Octets) (m : Marked) : Bool :=
  m.separates separators && (m.char == ' ' || m.char == '\t' || m.char == '\n')

/-- The first field of a line and what follows its separator: blanks, and among them at most one
separator that is none. -/
def fieldHere (separators : Octets) (line : List Marked) : List Marked × List Marked :=
  let line := line.dropWhile (·.isGap separators)
  let field := line.takeWhile fun m => !m.separates separators
  let after := match line.drop field.length with
    | m :: r =>
      let r := r.dropWhile (·.isGap separators)
      match m.isGap separators, r with
      | true, n :: s =>
        if n.separates separators then s.dropWhile (·.isGap separators) else r
      | _, _ => r
    | [] => []
  (field, after)

/-- The characters of a part of a line. -/
def markedText (line : List Marked) : Octets := line.map (·.char)

/-- All fields of a line. -/
def allFields (separators : Octets) : (fuel : Nat) → List Marked → List Octets
  | 0, _ => []
  | fuel + 1, line =>
    let line := line.dropWhile (·.isGap separators)
    if line.isEmpty then []
    else
      let (field, rest) := fieldHere separators line
      markedText field :: allFields separators fuel rest

/-- Assigns the fields of a line to names; the last one takes the rest, without its separator if
that is one field. -/
def assignFields (separators : Octets) : List String → List Marked → Eval Unit
  | [], _ => return
  | [name], line => do
    let (field, rest) := fieldHere separators line
    if rest.isEmpty then assignVariable name (markedText field)
    else
      let kept := line.dropWhile (·.isGap separators)
      let kept := (kept.reverse.dropWhile (·.isGap separators)).reverse
      assignVariable name (markedText kept)
  | name :: rest, line => do
    let (field, after) := fieldHere separators line
    assignVariable name (markedText field)
    assignFields separators rest after

/-- The options of a command that are letters, some of which take a value: what was given, and the
other words; or the word with a letter that is not known or lacks its value. -/
def letterOptions (flags valued : String) :
    List Octets → Except Octets (List (Char × Octets) × List Octets)
  | ['-', '-'] :: rest => .ok ([], rest)
  | ('-' :: c :: r) :: rest =>
    let (letters, last) := (c :: r).span fun c => flags.toList.contains c
    let given := letters.map fun c => (c, ([] : Octets))
    match last with
    | [] => (letterOptions flags valued rest).map fun (more, words) => (given ++ more, words)
    | c :: value =>
      if !valued.toList.contains c then .error (['-', c] ++ octets ": invalid option")
      else match value, rest with
        | [], next :: rest =>
          (letterOptions flags valued rest).map fun (more, words) =>
            (given ++ (c, next) :: more, words)
        | [], [] => .error (['-', c] ++ octets ": option requires an argument")
        | value, rest =>
          (letterOptions flags valued rest).map fun (more, words) =>
            (given ++ (c, value) :: more, words)
  | words => .ok ([], words)

/-- The last value of an option. -/
def givenValue? (given : List (Char × Octets)) (c : Char) : Option Octets :=
  (given.reverse.find? fun (k, _) => k == c).map (·.2)

/-- A usage text behind a message. -/
def withUsage (message : Octets) (usage : String) : Octets :=
  message ++ octets ("\n" ++ usage)

/-- How the command that reads lines is used. -/
def readUsage : String :=
  "read: usage: read [-ers] [-a array] [-d delim] [-i text] [-n nchars] [-N nchars] " ++
    "[-p prompt] [-t timeout] [-u fd] [name ...]"

/-- Reads a line into variables. -/
def readPlain (args : List Octets) : Eval Unit := do
  match letterOptions "r" "p" args with
  | .error e => fails "read" (2, octets "Illegal option " ++ e.take 2) (2, [])
  | .ok (given, names) =>
    match names, names.find? fun n => !isName n with
    | [], _ => fails "read" (2, octets "arg count") (2, [])
    | _, some n => fails "read" (2, n ++ octets ": bad variable name") (2, [])
    | _, none =>
      let rules : ReadRules := ⟨given.any (·.1 == 'r'), '\n', none, false⟩
      let r := lineHere rules 0 false (← peekInput)
      leaveInput r.rest
      assignFields (← getScope).separators (names.map plainString) r.line
      setStatus (if r.ended then 0 else 1)

/-- The text is a number of seconds. -/
def isSeconds (cs : Octets) : Bool :=
  !cs.isEmpty && cs.all (fun c => c.isDigit || c == '.') && (cs.filter (· == '.')).length ≤ 1

/-- Reads a line into variables or the elements of one. -/
def readExtended (args : List Octets) : Eval Unit := do
  match letterOptions "ers" "adinNptu" args with
  | .error e => fails "read" (2, []) (2, withUsage e readUsage)
  | .ok (given, names) =>
    let refuse (message : Octets) : Eval Unit := fails "read" (1, []) (1, message)
    let list := givenValue? given 'a'
    let limit := (givenValue? given 'N').or (givenValue? given 'n')
    let descriptor := ((givenValue? given 'u').bind natural?).getD 0
    let wrong := (list.toList ++ names).find? fun n =>
      !isName (n.takeWhile (· != '['))
    match wrong, limit with
    | some n, _ =>
      refuse (octets "\x60" ++ n ++ octets "': not a valid identifier")
      return
    | none, some n =>
      if (natural? n).isNone then
        refuse (n ++ octets ": invalid number")
        return
    | none, none => pure ()
    match givenValue? given 't', givenValue? given 'u' with
    | some t, _ =>
      if !isSeconds t then
        refuse (t ++ octets ": invalid timeout specification")
        return
    | none, _ => pure ()
    let scope ← getScope
    if (scope.channel? descriptor).isNone then
      match givenValue? given 'u' with
      | some u => refuse (u ++ octets ": invalid file descriptor: Bad file descriptor")
      | none => refuse (octets "read error: 0: Bad file descriptor")
      return
    let input ← peekFrom descriptor
    let waits := (givenValue? given 't').all fun t => t.any fun c => c.isDigit && c != '0'
    if !waits then setStatus 0
    else
      let rules : ReadRules :=
        { raw := given.any (·.1 == 'r')
          delimiter := match givenValue? given 'd' with
            | some cs => cs.head?.getD '\x00'
            | none => '\n'
          limit := limit.bind natural?
          exact := given.any (·.1 == 'N') }
      let r := lineHere rules 0 false input
      leaveIn descriptor r.rest 0
      let ended := r.ended || rules.limit.any fun n => n ≤ r.line.length
      match list, names with
      | some name, _ =>
        assignElements (plainString name) (allFields scope.separators (r.line.length + 1) r.line)
      | none, [] => assignVariable "REPLY" (markedText r.line)
      | none, first :: more =>
        if rules.exact then
          assignVariable (plainString first) (markedText r.line)
          more.forM fun n => assignVariable (plainString n) []
        else do
          let places ← (first :: more).mapM fun n => do
            match ← placeOf? n with
            | some (name, index) => placeAt name index
            | none => return ⟨plainString n, none⟩
          assignPlaces scope.separators places r.line
      setStatus (if ended then 0 else 1)
where
  /-- Assigns the fields of a line to variables and elements. -/
  assignPlaces (separators : Octets) : List Place → List Marked → Eval Unit
    | [], _ => return
    | [place], line => do
      match place.key with
      | none => assignFields separators [place.name] line
      | some _ =>
        let kept := line.dropWhile (·.isGap separators)
        let kept := (kept.reverse.dropWhile (·.isGap separators)).reverse
        assignPlace place false (markedText kept)
    | place :: rest, line => do
      let (field, after) := fieldHere separators line
      assignPlace place false (markedText field)
      assignPlaces separators rest after

/-- Reads a line. -/
def readBuiltin (args : List Octets) : Eval Unit := do
  match (← getScope).dialect with
  | .plain => readPlain args
  | .extended => readExtended args

/-- The parts of a text up to a delimiter each, with the delimiter. -/
def delimited (delimiter : Char) (cs : Octets) : List Octets :=
  let pieces := Text.splitOn delimiter cs
  let ended := pieces.dropLast.map (· ++ [delimiter])
  match pieces.getLast? with
  | some [] | none => ended
  | some last => ended ++ [last]

/-- Reads lines into the elements of a variable. -/
def mapfileBuiltin (name : String) (args : List Octets) : Eval Unit := do
  match letterOptions "t" "dnOsuCc" args with
  | .error e =>
    fails name (2, []) (2, withUsage e (name ++ ": usage: " ++ name ++
      " [-d delim] [-n count] [-O origin] [-s count] [-t] [-u fd] [-C callback] [-c quantum] " ++
      "[array]"))
  | .ok (given, names) =>
    let number (c : Char) : Option Nat := (givenValue? given c).bind natural?
    let target := names.head?.getD (octets "MAPFILE")
    if !isName target then
      fails name (1, []) (1, octets "\x60" ++ target ++ octets "': not a valid identifier")
    else
      let descriptor := (number 'u').getD 0
      let delimiter := match givenValue? given 'd' with
        | some cs => cs.head?.getD '\x00'
        | none => '\n'
      let lines := delimited delimiter (← peekFrom descriptor)
      let skipped := (number 's').getD 0
      let taken := match number 'n' with
        | some 0 | none => lines.length
        | some n => skipped + n
      leaveIn descriptor (lines.drop taken).flatten 0
      let kept := (lines.take taken).drop skipped
      let texts := kept.map fun line =>
        if given.any (·.1 == 't') && line.getLast? == some delimiter then line.dropLast else line
      let texts := texts.map fun line => line.filter (· != '\x00')
      let target := plainString target
      match number 'O' with
      | none => assignElements target texts
      | some origin =>
        texts.zipIdx.forM fun (text, i) =>
          assignPlace ⟨target, some (.number ((origin + i : Nat) : Int))⟩ false text
      setStatus 0

end MatrixFlow.Script
