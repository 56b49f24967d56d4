import MatrixFlow.Script.Read.Redirect

/-!
# Reading simple commands

* `assigned?`: what an assignment is made to.
* `readElements`: the elements of a list.
* `readSimple`: assignments, words and redirections.
-/

namespace MatrixFlow.Script

/-! ## Assignments -/

/-- The name at the start of a text, if one is there. -/
def nameHere (cs : Octets) : Octets :=
  if cs.head?.any isNameStart then cs.takeWhile isNameRest else []

/-- What an assignment that begins here is made to: a name, the text of an index, and whether the
value goes behind the old one; and how many characters that takes with the equals sign. -/
def assigned? (extended : Bool) (cs : Octets) : Option (Octets × Option Octets × Bool × Nat) :=
  let name := nameHere cs
  let after := cs.drop name.length
  let (index, after) := match extended, after with
    | true, '[' :: r =>
      match takeIndex 0 r with
      | some (inner, rest) => (some inner, rest)
      | none => (none, after)
    | _, _ => (none, after)
  if name.isEmpty then none
  else match extended, after with
    | _, '=' :: rest => some (name, index, false, cs.length - rest.length)
    | true, '+' :: '=' :: rest => some (name, index, true, cs.length - rest.length)
    | _, _ => none

/-- The elements of a list up to its bracket, each with its index if it has one. -/
def readElements (fuel : Nat) : (steps : Nat) → Scan (List (Word × Word))
  | 0 => return []
  | steps + 1 => do
    skipLines fuel fuel
    let c ← get
    match c.rest with
    | ')' :: _ =>
      advance 1
      return []
    | '[' :: r =>
      let index := match takeIndex 0 r with
        | some (inner, '=' :: rest) => some (inner, rest)
        | _ => none
      match index with
      | some (inner, rest) =>
        advance (c.rest.length - rest.length)
        let key ← readInner fuel .regular inner
        let value ← readWord fuel
        return (key, value) :: (← readElements fuel steps)
      | none =>
        let value ← readWord fuel
        return ([], value) :: (← readElements fuel steps)
    | [] => throw (.unclosed c.line ")")
    | _ =>
      if !isWordHere c then unexpectedHere fuel (some ")")
      let value ← readWord fuel
      return ([], value) :: (← readElements fuel steps)

/-- A list of elements, from behind the bracket that opens it. -/
def readListed (fuel : Nat) (appends : Bool) (name : Octets) : Scan WordPart := do
  let start := (← get).line
  try
    return .elements appends name (← readElements fuel fuel)
  catch f => match f with
    | .unclosed _ ")" => throw (.listed (.unclosed start ")"))
    | f => throw (.listed f)

/-- The assignment that begins here, if there is one. -/
def readAssignment? (fuel : Nat) : Scan (Option Assignment) := do
  let c ← get
  let extended := c.dialect = .extended
  let name := nameHere c.rest
  match c.rest.drop name.length with
  | '[' :: r =>
    if extended && !name.isEmpty && (takeIndex 0 r).isNone then throw (.unclosed c.line "]")
  | _ => pure ()
  match assigned? extended c.rest with
  | none => return none
  | some (name, index, appends, n) =>
    let key ← match index with
      | some cs => readInner fuel .regular cs
      | none => pure []
    advance n
    let listed := extended && (← get).rest.head? == some '('
    let value ← if listed then do
        advance 1
        pure [← readListed fuel appends name]
      else readWord fuel
    return some ⟨String.ofList name, key, appends, value⟩

/-- Commands whose arguments may be assignments. -/
def declaringWords : List String :=
  ["declare", "typeset", "local", "export", "readonly"]

/-- The assignments, words and redirections of a simple command. -/
structure Simple where
  assignments : List Assignment
  words : List Word
  redirects : List Redirect
  /-- The line of the command. In the extended dialect that is the line on which its second element
  ends, if the first one is no assignment. -/
  line : Nat

/-- The command declares variables. -/
def Simple.declares (s : Simple) : Bool :=
  match s.words.head?.bind plainText? with
  | some cs => declaringWords.contains (String.ofList cs)
  | none => false

/-- An argument of a simple command. -/
def readArgument (fuel : Nat) (declares : Bool) : Scan Word := do
  let c ← get
  let named := if declares && c.dialect = .extended then assigned? true c.rest else none
  match named with
  | some (name, none, appends, n) =>
    if (c.rest.drop n).head? == some '(' then
      advance (n + 1)
      return [← readListed fuel appends name]
    else readWord fuel
  | _ => readWord fuel

/-- Only one element has been read, and it is no assignment. -/
def Simple.isYoung (s : Simple) : Bool :=
  s.assignments.isEmpty && s.words.length + s.redirects.length = 1

/-- Reads on in a simple command. -/
def readSimple (fuel : Nat) : (steps : Nat) → Simple → Scan Simple
  | 0, s => return s
  | steps + 1, s => do
    skipBlanks fuel
    let young := (← get).dialect = .extended && s.isYoung
    let placed : Scan Simple := do
      let line := (← get).line
      return if young then { s with line := line } else s
    match ← readRedirect? fuel with
    | some r =>
      let s ← placed
      readSimple fuel steps { s with redirects := s.redirects ++ [r] }
    | none =>
      if !isWordHere (← get) then placed
      else
        let assignment ← if s.words.isEmpty then readAssignment? fuel else pure none
        match assignment with
        | some a => readSimple fuel steps { s with assignments := s.assignments ++ [a] }
        | none =>
          let word ← readArgument fuel s.declares
          let s ← placed
          readSimple fuel steps { s with words := s.words ++ [word] }

end MatrixFlow.Script
