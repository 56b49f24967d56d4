import MatrixFlow.Script.Read.Word

/-!
# Reading signs, documents and redirections

* `signHere?`: the sign that begins here; `unexpectedHere` names what begins here in a fault.
* `newline`: takes a line ending, and the documents whose text follows it.
* `readRedirect?`: the redirection that begins here.
-/

namespace MatrixFlow.Script

/-! ## Signs -/

/-- The signs of every dialect, longer ones first. -/
def plainSigns : List String :=
  ["<<-", "&&", "||", ";;", "<<", ">>", "<&", ">&", "<>", ">|", "&", "|", ";", "<", ">", "(", ")"]

/-- Further signs. -/
def extendedSigns : List String :=
  ["<<<", "&>>", "&>", ";;&", ";&", "|&"]

/-- The sign that begins here. A path for the output of a script is none. -/
def signHere? (dialect : Dialect) (cs : Octets) : Option String :=
  match dialect with
  | .plain => plainSigns.find? fun s => Text.startsWith s.toList cs
  | .extended =>
    if Text.startsWith ['<', '('] cs then none
    else (extendedSigns ++ plainSigns).find? fun s => Text.startsWith s.toList cs

/-- A word begins here. -/
def isWordHere (c : Cursor) : Bool :=
  match c.rest with
  | [] => false
  | d :: r => !isMeta d || (c.dialect = .extended && d == '<' && r.head? == some '(')

/-- Words that cannot begin a command, and others with a meaning of their own. -/
def closingWords : List String :=
  ["then", "else", "elif", "fi", "do", "done", "esac", "\x7d", "in", "!"]

/-- What begins here. -/
def tokenHere (fuel : Nat) : Scan Token := do
  let saved ← get
  match saved.rest with
  | [] => return .ending
  | '\n' :: _ => return .newline
  | cs =>
    match signHere? saved.dialect cs with
    | some s => return .sign s
    | none =>
      let word ← readWord fuel
      let after ← get
      set saved
      match plainText? word with
      | some text =>
        if closingWords.contains (String.ofList text) then return .reserved (String.ofList text)
        else return .word text
      | none => return .word (cs.take (cs.length - after.rest.length))

/-- Fails at what begins here. In the plain dialect, a line ending belongs to the next line. -/
def unexpectedHere {α : Type} (fuel : Nat) (expected : Option String) : Scan α := do
  let c ← get
  let token ← tokenHere fuel
  let late := c.dialect = .plain && token = .newline
  throw (.unexpected (if late then c.line + 1 else c.line) token expected)

/-- Fails at what begins here where the line must not end. In the extended dialect, the end of the
script is the end of a line. -/
def unexpectedInLine {α : Type} (fuel : Nat) (expected : Option String) : Scan α := do
  let c ← get
  if c.dialect = .extended && c.rest.isEmpty then throw (.unexpected c.line .newline expected)
  else unexpectedHere fuel expected

/-! ## Documents -/

/-- The lines of a document up to the one that ends it, what follows, and whether it was ended. -/
def takeDocument (p : Pending) : (fuel : Nat) → Octets → Octets × Octets × Bool
  | 0, cs => ([], cs, false)
  | _, [] => ([], [], false)
  | fuel + 1, cs =>
    let (line, rest) := splitLine cs
    let ended := line.length < cs.length
    let line := if p.stripTabs then line.dropWhile (· == '\t') else line
    if line == p.ending then ([], rest, true)
    else
      let (body, rest, closed) := takeDocument p fuel rest
      ((if ended then line ++ ['\n'] else line) ++ body, rest, closed)

/-- Reads the documents that begin at this line. -/
def readDocuments (fuel : Nat) : List Pending → Scan Unit
  | [] => return
  | p :: rest => do
    let c ← get
    let (body, after, closed) := takeDocument p (c.rest.length + 1) c.rest
    let count := (fullLines (c.rest.take (c.rest.length - after.length))).length
    let extended := c.dialect = .extended
    let body := if !closed && extended && body.getLast?.any (· != '\n') then body ++ ['\n']
      else body
    let word ← if p.quoted then pure [WordPart.text true body]
      else do
        set { c with rest := body }
        readParts fuel .whole
    let lines := ((c.rest.take (c.rest.length - after.length)).filter (· == '\n')).length
    set { c with
      rest := after
      line := c.line + (if extended then lines else count)
      unended := if closed then c.unended else c.unended ++ [(c.line + count - 1, p.line, p.ending)]
      documents := (p.number, word) :: c.documents }
    readDocuments fuel rest

/-- Takes a line ending, and the documents behind it. -/
def newline (fuel : Nat) : Scan Unit := do
  advance 1
  let c ← get
  set { c with pending := [] }
  readDocuments fuel c.pending

/-- Takes blanks and line endings. -/
def skipLines (fuel : Nat) : (steps : Nat) → Scan Unit
  | 0 => return
  | steps + 1 => do
    skipBlanks fuel
    match (← get).rest with
    | '\n' :: _ =>
      newline fuel
      skipLines fuel steps
    | _ => return

/-! ## Redirections -/

/-- The kind of redirection that a sign asks for, if it asks for one. -/
def redirectKind? : String → Option RedirectKind
  | "<" | "<>" => some .read
  | ">" => some .write
  | ">|" => some .overwrite
  | ">>" => some .append
  | "<&" | ">&" => some .duplicate
  | "&>" => some (.both false)
  | "&>>" => some (.both true)
  | "<<" | "<<-" => some .document
  | "<<<" => some .literal
  | _ => none

/-- The redirection that begins here, if there is one. -/
def readRedirect? (fuel : Nat) : Scan (Option Redirect) := do
  let saved ← get
  let digits := saved.rest.takeWhile Char.isDigit
  match signHere? saved.dialect (saved.rest.drop digits.length) with
  | none => return none
  | some sign =>
    match redirectKind? sign with
    | none => return none
    | some kind =>
      if sign.toList.head? = some '&' ∧ ¬digits.isEmpty then return none
      let standard := if sign.toList.head? == some '<' then 0 else 1
      let descriptor := ((String.ofList digits).toNat?).getD standard
      advance (digits.length + sign.length)
      skipBlanks fuel
      let target ← readWord fuel
      if target.isEmpty then unexpectedInLine fuel none
      let c ← get
      if kind = .document then
        let (ending, quoted) := literalText target
        let pending : Pending := ⟨c.count, saved.line, ending, sign == "<<-", quoted⟩
        set { c with count := c.count + 1, pending := c.pending ++ [pending] }
      return some ⟨descriptor, kind, target, c.count⟩

/-- The redirections that begin here. -/
def readRedirects (fuel : Nat) : (steps : Nat) → Scan (List Redirect)
  | 0 => return []
  | steps + 1 => do
    skipBlanks fuel
    match ← readRedirect? fuel with
    | none => return []
    | some r => return r :: (← readRedirects fuel steps)

end MatrixFlow.Script
