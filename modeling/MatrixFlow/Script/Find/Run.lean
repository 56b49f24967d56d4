import MatrixFlow.Script.Channel
import MatrixFlow.Script.Find.Query
import MatrixFlow.Script.Program

/-!
# Asking about files

A walk asks a question about each file at some paths and below.

* `FoundFile`: a file that a walk has come to.
* `Walk.holds`: the answer to a question, with what it does.
* `Walk.visit`: a file and what is below it.
* `findProgram`: the program `find`.
-/

namespace MatrixFlow.Script

/-- A file that a walk has come to. -/
structure FoundFile where
  /-- The path as it is shown, and the one that the walk began with. -/
  shown : Octets
  start : Octets
  path : List String
  depth : Nat
  /-- What it is, and what a link leads to. -/
  entry : FileEntry
  other : Option FileEntry

/-- What a walk has come to so far. -/
structure WalkState where
  pruned : Bool
  quits : Bool
  failed : Bool
  /-- The files that commands are waiting for, the last first. -/
  batches : List (Nat × List Octets × List Octets)

/-- How a walk is asked for. -/
structure WalkMode where
  name : Octets
  plan : WalkPlan
  query : FileQuery
  run : ProgramRunner

/-- Something that happens on a walk. -/
abbrev Walk := ReaderT WalkMode (StateT WalkState Eval)

namespace FoundFile

/-- The last name of the path. -/
def name (f : FoundFile) : Octets :=
  let cs := (f.shown.reverse.dropWhile (· == '/')).reverse
  if cs.isEmpty then ['/'] else lastName cs

/-- Everything in front of the last name. -/
def above (f : FoundFile) : Octets :=
  if f.depth = 0 && f.shown.getLast? == some '/' then f.shown.dropLast
  else match f.shown.reverse.dropWhile (· != '/') with
    | [] => ['.']
    | ['/'] => ['/']
    | _ :: r => r.reverse

/-- The path behind the one that the walk began with. -/
def below (f : FoundFile) : Octets :=
  let cs := f.shown.drop f.start.length
  if cs.head? == some '/' then cs.drop 1 else cs

/-- The letter of a kind. -/
def kindLetter : FileEntry → Char
  | .directory => 'd'
  | .link _ => 'l'
  | .zeros _ => 'c'
  | .file .. | .program => 'f'

/-- One sign of a format; none if it is unknown. -/
def field? (f : FoundFile) : Char → Option Octets
  | 'p' => some f.shown
  | 'f' => some (if f.depth = 0 then lastNameWhole f.shown else f.name)
  | 'h' => some f.above
  | 'P' => some f.below
  | 'H' => some f.start
  | 'd' => some (numberOctets f.depth)
  | 's' => some (numberOctets (entrySize f.entry))
  | 'k' => some (numberOctets (entryBlocks f.entry))
  | 'b' => some (numberOctets (2 * entryBlocks f.entry))
  | 'n' => some (if f.entry.isDirectory then ['2'] else ['1'])
  | 'm' => some (Nat.toDigits 8 (entryRights f.entry))
  | 'M' => some (rightLetters f.entry)
  | 'u' | 'g' => some (octets "root")
  | 'U' | 'G' | 'i' | 'D' => some ['0']
  | 'y' => some [kindLetter f.entry]
  | 'Y' => some (match f.entry, f.other with
    | .link _, some e => [kindLetter e]
    | .link _, none => ['N']
    | e, _ => [kindLetter e])
  | 'l' => some (match f.entry with
    | .link target => octets target
    | _ => [])
  | '%' => some ['%']
  | _ => none
where
  /-- The last name of a path that a walk begins with, with the stroke behind it. -/
  lastNameWhole (cs : Octets) : Octets :=
    let body := (cs.reverse.dropWhile (· == '/')).reverse
    if body.isEmpty then cs else lastName body ++ cs.drop body.length

/-- A format with its signs replaced, and what is wrong with it. A sign may tell how wide its field
is. -/
def formatted (f : FoundFile) : (fuel : Nat) → Octets → Octets × List Octets
  | 0, _ | _, [] => ([], [])
  | fuel + 1, '%' :: r =>
    let flags := r.takeWhile fun c => "-0 #+".toList.contains c
    let width := (r.drop flags.length).takeWhile Char.isDigit
    let rest := r.drop (flags.length + width.length)
    let (precision, rest) := match rest with
      | '.' :: more =>
        let digits := more.takeWhile Char.isDigit
        ((natural? digits).or (some 0), more.drop digits.length)
      | _ => (none, rest)
    match rest with
    | [] => (['%'] ++ flags ++ width, [])
    | c :: rest =>
      let (more, faults) := formatted f fuel rest
      match f.field? c with
      | some cs =>
        let d : Directive := ⟨flags, (natural? width).getD 0, precision, 's'⟩
        (d.text cs ++ more, faults)
      | none =>
        if c == '\\' then
          let (more, faults) := formatted f fuel ('\\' :: rest)
          ('%' :: more, octets "unrecognized format directive \x60%\\\x27" :: faults)
        else (['%', c] ++ more, (octets "unrecognized format directive \x60%" ++ [c, '\x27']) :: faults)
  | fuel + 1, '\\' :: r =>
    match r with
    | [] => (['\\'], [octets "escape \x60\\\x27 followed by nothing at all"])
    | 'c' :: _ => ([], [])
    | c :: rest =>
      let (value, count) := leadingNumber 8 3 (c :: rest)
      if count > 0 then
        let (more, faults) := formatted f fuel (r.drop count)
        (Char.ofNat (value % 256) :: more, faults)
      else
        let (more, faults) := formatted f fuel rest
        match if c == '\\' then some '\\' else if c == 'b' then some '\x08' else Regex.letter? c with
        | some d => (d :: more, faults)
        | none =>
          (['\\', c] ++ more, (octets "unrecognized escape \x60\\" ++ [c, '\x27']) :: faults)
  | fuel + 1, c :: r =>
    let (more, faults) := formatted f fuel r
    (c :: more, faults)

end FoundFile

namespace Walk

/-- Something from the surroundings. -/
def outside {α : Type} (m : Eval α) : Walk α := fun _ s => do
  return (← m, s)

/-- A message, and the walk has failed. -/
def fail (text : Octets) : Walk Unit := do
  outside (warnAs (← read).name text)
  modify fun s => { s with failed := true }

/-- A message about a path. -/
def failAt (path : Octets) (e : FileFault) : Walk Unit :=
  fail (quotedPath path ++ octets (": " ++ e.text))

/-- Runs a command; true if it succeeds. -/
def runs (words : List Octets) : Walk Bool := do
  let mode ← read
  let program := words.head?.getD []
  let found ← outside do
    let s ← MonadState.get
    return s.scope.program s.files program
  match found with
  | .unusable f =>
    outside (warnAs mode.name (quotedPath program ++ octets (": " ++ f.text)))
    return false
  | _ =>
    outside (mode.run words)
    return (← outside getScope).status = 0

/-- A word in which the path stands in for its sign. -/
def withPath (path : Octets) : (fuel : Nat) → Octets → Octets
  | 0, w => w
  | fuel + 1, w =>
    match Text.cut? ['\x7b', '\x7d'] w with
    | some (before, after) => before ++ path ++ withPath path fuel after
    | none => w

/-- Runs a command in a directory. -/
def inDirectory (path : List String) (body : Walk Bool) : Walk Bool := do
  let old := (← outside getScope).directory
  outside (modifyScope fun s => { s with directory := path })
  let answer ← body
  outside (modifyScope fun s => { s with directory := old })
  return answer

/-- Asks whether a command may run. -/
def allows (words : List Octets) (path : Octets) : Walk Bool := do
  outside (emit 2 (octets "< " ++ words.head?.getD [] ++ octets " ... " ++ path ++ octets " > ? "))
  outside do
    let input ← peekInput
    leaveInput ((input.dropWhile (· != '\n')).drop 1)
    return input.head? == some 'y' || input.head? == some 'Y'

/-- The answer to a test. -/
def testHolds (f : FoundFile) (t : FileTest) : Walk Bool := do
  let files := (← outside MonadState.get).files
  match t with
  | .answer b => return b
  | .name p ignoreCase => return p.matchesIn ignoreCase f.name
  | .path p ignoreCase => return p.matchesIn ignoreCase f.shown
  | .target p ignoreCase =>
    return match f.entry with
      | .link target => p.matchesIn ignoreCase (octets target)
      | _ => false
  | .regex r ignoreCase =>
    let found := Regex.places ⟨ignoreCase, false⟩ true r ⟨0, [], f.shown, []⟩
    return found.any fun p => p.rest.isEmpty
  | .kind letters => return letters.contains (FoundFile.kindLetter f.entry)
  | .otherKind letters =>
    return letters.contains (FoundFile.kindLetter (f.other.getD f.entry))
  | .empty =>
    return match f.entry with
      | .directory => (files.list f.path).isEmpty
      | .file bytes _ => bytes.isEmpty
      | _ => false
  | .executable =>
    return entryRights (f.other.getD f.entry) / 64 % 2 = 1
  | .size rule limit unit => return rule.holds ((entrySize f.entry + unit - 1) / unit) limit
  | .links rule limit => return rule.holds (if f.entry.isDirectory then 2 else 1) limit
  | .age rule limit => return rule.holds 0 limit
  | .owner id => return id = 0
  | .rightsAre rights => return entryRights f.entry = rights
  | .rightsHave rights => return Nat.land (entryRights f.entry) rights = rights
  | .rightsMeet rights => return rights = 0 || Nat.land (entryRights f.entry) rights ≠ 0
  | .same path =>
    let parts := (← outside getScope).resolve path
    return files.place parts == files.place f.path

/-- Deletes a file; true if that succeeds. -/
def deletes (f : FoundFile) : Walk Bool := do
  let s ← outside MonadState.get
  let fault : Option FileFault := match f.entry with
    | .directory => if (s.files.list f.path).isEmpty then none else some .notEmpty
    | _ => none
  if f.shown == ['.'] then return true
  match fault with
  | some e =>
    fail (octets "cannot delete " ++ quotedPath f.shown ++ octets (": " ++ e.text))
    return false
  | none =>
    outside (modify fun s => { s with files := s.files.remove (s.files.place f.path) })
    return true

/-- Does something with a file; the answer tells whether that succeeds. -/
def does (f : FoundFile) (a : FileAction) : Walk Bool := do
  match a with
  | .print ending =>
    outside (emit 1 (f.shown ++ ending))
    return true
  | .printTo file ending =>
    let _ ← outside (writePath file true (f.shown ++ ending))
    return true
  | .format text =>
    outside (emit 1 (f.formatted (text.length + 1) text).1)
    return true
  | .delete => deletes f
  | .prune =>
    modify fun s => { s with pruned := true }
    return true
  | .quit =>
    modify fun s => { s with quits := true }
    return true
  | .run inside asks words =>
    let path := if inside then octets "./" ++ f.name else f.shown
    let words := words.map fun w => withPath path (w.length + 1) w
    if asks then
      if !(← allows words f.shown) then return false
    if inside then inDirectory f.path.dropLast (runs words) else runs words
  | .runOnce number words =>
    modify fun s =>
      if s.batches.any fun (n, _) => n == number then
        { s with batches := s.batches.map fun (n, w, paths) =>
          if n == number then (n, w, f.shown :: paths) else (n, w, paths) }
      else { s with batches := (number, words, [f.shown]) :: s.batches }
    return true

/-- The answer to a question, with what it does. Nothing is asked any more once the walk ends. -/
def holds (f : FoundFile) : FileQuery → Walk Bool
  | .test t => testHolds f t
  | .act a => does f a
  | .both a b => do
    if !(← holds f a) || (← get).quits then return false
    holds f b
  | .either a b => do
    if ← holds f a then return true
    if (← get).quits then return false
    holds f b
  | .negated a => do
    return !(← holds f a)
  | .series a b => do
    let _ ← holds f a
    if (← get).quits then return false
    holds f b

/-- A file at a path, as the walk sees it. -/
def look (shown start : Octets) (path : List String) (depth : Nat) :
    Walk (Except FileFault FoundFile) := do
  let mode ← read
  let files := (← outside MonadState.get).files
  let follows := mode.plan.follows || (mode.plan.followsFirst && depth = 0)
    || (depth = 0 && shown.getLast? == some '/')
  match files.findOwn path with
  | .error e => return .error e
  | .ok own =>
    match files.find path, follows with
    | .ok found, true => return .ok ⟨shown, start, path, depth, found, some own⟩
    | .ok found, false => return .ok ⟨shown, start, path, depth, own, some found⟩
    | .error _, _ => return .ok ⟨shown, start, path, depth, own, none⟩

/-- Asks about a file, and about what is below it. -/
def visit (shown start : Octets) (path : List String) : (fuel : Nat) → (depth : Nat) → Walk Unit
  | 0, _ => return
  | fuel + 1, depth => do
    if (← get).quits then return
    match ← look shown start path depth with
    | .error e => failAt shown e
    | .ok f =>
      let mode ← read
      let plan := mode.plan
      let ask : Walk Unit := do
        if plan.least ≤ depth && !(← get).quits then
          let _ ← holds f mode.query
      let goesDown := f.entry.isDirectory && plan.most.all (depth < ·)
      modify fun s => { s with pruned := false }
      if !plan.depthFirst then ask
      if goesDown && !(!plan.depthFirst && (← get).pruned) && !(← get).quits then
        let files := (← outside MonadState.get).files
        if !files.isDirectory path then failAt shown .missing
        else
          let front := if shown.getLast? == some '/' then shown else shown ++ ['/']
          (files.list path).forM fun n =>
            visit (front ++ octets n) start (path ++ [n]) fuel (depth + 1)
      if plan.depthFirst then ask

/-- Runs the commands that have been waiting for all files. -/
def runBatches : Walk Unit := do
  let waiting := (← get).batches
  waiting.reverse.forM fun (_, words, paths) => do
    if !(← runs (words ++ paths.reverse)) then modify fun s => { s with failed := true }

/-- Tells what is wrong with formats, before anything is shown. -/
def checkFormats : FileQuery → Walk Unit
  | .act (.format text) => do
    let f : FoundFile := ⟨[], [], [], 1, .directory, none⟩
    (f.formatted (text.length + 1) text).2.forM fun fault =>
      do outside (warnAs (← read).name (octets "warning: " ++ fault))
  | .act (.printTo file _) => do
    let _ ← outside (writePath file false [])
  | .test _ | .act _ => return
  | .negated a => checkFormats a
  | .both a b | .either a b | .series a b => do
    checkFormats a
    checkFormats b

end Walk

/-- Options in front of the paths, as they change the plan. -/
def walkOptions (plan : WalkPlan) : List Octets → WalkPlan × List Octets
  | ['-', 'L'] :: rest => walkOptions { plan with follows := true } rest
  | ['-', 'H'] :: rest => walkOptions { plan with followsFirst := true } rest
  | ['-', 'P'] :: rest => walkOptions { plan with follows := false, followsFirst := false } rest
  | ['-', '-'] :: rest => (plan, rest)
  | ['-', 'O', _] :: rest => walkOptions plan rest
  | rest => (plan, rest)

/-- The program `find`. -/
def findProgram (run : ProgramRunner) (name : Octets) (args : List Octets) : Eval Unit := do
  let s ← get
  let plan : WalkPlan := ⟨[], false, 0, none, false, false, false, 0, none⟩
  let (plan, words) := walkOptions plan args
  let paths := words.takeWhile fun w => !beginsQuery w
  let words := words.drop paths.length
  match readQuery s.files s.scope.resolve plan words with
  | .error f =>
    warnAs name f.text
    match f with
    | .latePath _ (some word) =>
      warnAs name (octets "possible unquoted pattern after predicate " ++ oldQuoted word ++ ['?'])
    | _ => pure ()
    setStatus 1
  | .ok (plan, query) =>
    let paths := if paths.isEmpty then [['.']] else paths
    let fuel := s.files.entries.length + 50
    let walk : Walk Unit := do
      Walk.checkFormats query
      paths.forM fun path => do
        let parts := (← Walk.outside getScope).resolve path
        if path.isEmpty then Walk.failAt path .missing
        else Walk.visit path path parts fuel 0
      Walk.runBatches
    let (_, done) ← (walk.run ⟨name, plan, query, run⟩).run ⟨false, false, false, []⟩
    setStatus (if done.failed then 1 else 0)

end MatrixFlow.Script
