import MatrixFlow.Script.Channel
import MatrixFlow.Script.Edit.Read
import MatrixFlow.Script.Tool.Basic

/-!
# Running edit commands

Each line is read, worked on by the commands, and shown.

* `EditState`: the line that is worked on, what is held, and what is left of the input.
* `runCycles`: works on all lines.
* `editProgram`: the program `sed`.
-/

namespace MatrixFlow.Script

/-! ## Replacing -/

/-- Letters in the way that is asked for. -/
def LetterCase.apply (w : LetterCase) (cs : Octets) : Octets :=
  match w with
  | .kept => cs
  | .upper => cs.map Char.toUpper
  | .lower => cs.map Char.toLower

/-- The text of a replacement: how all letters are written from here on, and how the next one
is. -/
def replacementText (found : Octets) (groups : List (Nat × Octets)) :
    (all one : LetterCase) → List ReplacementPart → Octets
  | _, _, [] => []
  | _, _, .turn w :: rest => replacementText found groups w .kept rest
  | all, _, .turnOne w :: rest => replacementText found groups all w rest
  | all, one, .text cs :: rest => put all one cs (replacementText found groups all one rest)
      (replacementText found groups all .kept rest)
  | all, one, .group n :: rest =>
    let cs := if n = 0 then found
      else ((groups.find? fun (k, _) => k == n).map (·.2)).getD []
    put all one cs (replacementText found groups all one rest)
      (replacementText found groups all .kept rest)
where
  /-- A text in front of the rest; an empty one leaves the next letter to the rest. -/
  put (all one : LetterCase) (cs same changed : Octets) : Octets :=
    match all.apply cs with
    | [] => same
    | c :: r => one.apply [c] ++ r ++ changed

/-- A text with something in the place of matches, from the one with the number `first` on; none
if there are none. Of the matches, `count` have been passed; `adjacent` tells that the last one
ended here, where an empty one does not count. -/
def substituteFrom (search : EditSearch) (parts : List ReplacementPart) (first : Nat)
    (everywhere : Bool) : (fuel count : Nat) → (adjacent : Bool) → (before : Octets) → Octets →
    Option Octets
  | 0, _, _, _, _ => none
  | fuel + 1, count, adjacent, before, cs =>
    match search.regex.findFrom? search.rules before cs with
    | none => none
    | some (skipped, found, after, groups) =>
      let goOn := substituteFrom search parts first everywhere fuel
      if adjacent && skipped.isEmpty && found.isEmpty then
        match cs with
        | [] => none
        | c :: r => (goOn count false (c :: before) r).map (c :: ·)
      else
        let passed := found.reverse ++ skipped.reverse ++ before
        let others : Option Octets := match found, after with
          | [], [] => none
          | [], c :: r => (goOn (count + 1) false (c :: passed) r).map (c :: ·)
          | _, _ => goOn (count + 1) true passed after
        if count + 1 < first then others.map fun cs => skipped ++ found ++ cs
        else
          let text := replacementText found groups .kept .kept parts
          some (skipped ++ text ++ if everywhere then others.getD after else after)

/-! ## State -/

/-- A line of the input. -/
structure EditLine where
  text : Octets
  /-- It has an ending. -/
  ended : Bool
  file : Octets

/-- Whether the lines of two addresses have begun. -/
inductive RangeState where
  | idle
  /-- They have, and go on up to a line if its number is known. -/
  | running (last : Option Nat)
  | over
deriving DecidableEq, Repr

/-- What comes behind a line when the commands are done with it. -/
inductive Appended where
  | text (cs : Octets)
  | file (path : Octets)

/-- How a run is asked for. -/
structure EditMode where
  name : Octets
  quiet : Bool
  /-- What lines end in. -/
  ending : Char
  /-- How wide lines are that are shown plainly. -/
  width : Nat
  commands : Array EditCommand
  /-- Files are edited one by one. -/
  separate : Bool
  /-- No more is read than is worked on. -/
  unbuffered : Bool
  ended : EditSpot

/-- Where a run has got to. -/
structure EditState where
  /-- The line that is worked on, and whether it has an ending. -/
  line : Octets
  ended : Bool
  file : Octets
  number : Nat
  held : Octets
  heldEnded : Bool
  lines : List EditLine
  /-- Files that have not been opened. -/
  files : List Octets
  replaced : Bool
  ranges : List (Nat × RangeState)
  appended : List Appended
  search : Option EditSearch
  /-- What is left of the files that are read line by line. -/
  readers : List (Octets × List EditLine)
  /-- What has been written to the main output, the last first. -/
  output : List Octets
  /-- Outputs whose last line has no ending; nothing stands for the main output. -/
  lacking : List (Option Octets)
  code : Nat
  lost : Bool

/-- Something that happens in a run. -/
abbrev Edit := ReaderT EditMode (StateT EditState Eval)

/-- Where the commands go on. -/
inductive EditMove where
  | onward
  | jump (index : Nat)
  /-- The next line; this one is shown first if it `shows`. -/
  | cycle (shows : Bool)
  /-- The commands once more, without reading a line. -/
  | restart
  | stop (shows : Bool) (code : Nat)
  | fail (f : EditFault)

namespace Edit

/-- The lines of a text. -/
def linesOf (ending : Char) (file cs : Octets) : List EditLine :=
  let pieces := Text.splitOn ending cs
  let own := pieces.dropLast.map fun p => (⟨p, true, file⟩ : EditLine)
  match pieces.getLast? with
  | none | some [] => own
  | some p => own ++ [⟨p, false, file⟩]

/-- Something from the surroundings. -/
def outside {α : Type} (m : Eval α) : Edit α := fun _ s => do
  return (← m, s)

/-- Hands over what has been written. -/
def flush : Edit Unit := do
  let s ← get
  outside (emit 1 (s.output.reverse.flatMap id))
  modify fun s => { s with output := [] }

/-- Writes to an output; nothing stands for the main output. -/
def put (target : Option Octets) (cs : Octets) : Edit Unit := do
  let mode ← read
  let s ← get
  let cs := if s.lacking.contains target then mode.ending :: cs else cs
  set { s with lacking := s.lacking.filter (· != target) }
  match target with
  | none => modify fun s => { s with output := cs :: s.output }
  | some path =>
    let _ ← outside (writePath path true cs)

/-- Writes a line to an output. -/
def putLine (target : Option Octets) (cs : Octets) (ended : Bool) : Edit Unit := do
  let mode ← read
  put target (if ended then cs ++ [mode.ending] else cs)
  if !ended then modify fun s => { s with lacking := target :: s.lacking }

/-- Opens files until there is a line, or no file is left. -/
def openNext : (fuel : Nat) → Edit Unit
  | 0 => return
  | fuel + 1 => do
    let s ← get
    match s.lines, s.files with
    | [], path :: rest =>
      set { s with files := rest }
      match ← outside (readPath path) with
      | .ok cs =>
        let mode ← read
        modify fun s => { s with lines := linesOf mode.ending path cs }
      | .error .isDirectory =>
        outside (warnAs (← read).name (octets "read error on " ++ path ++ octets ": Is a directory"))
        modify fun s => { s with files := [], code := 4 }
      | .error e =>
        outside (warnAs (← read).name (octets "can\x27t read " ++ path ++ octets (": " ++ e.text)))
        modify fun s => { s with lost := true }
      openNext fuel
    | _, _ => return

/-- No line follows. -/
def isLast : Edit Bool := do
  openNext ((← get).files.length + 1)
  return (← get).lines.isEmpty

/-- Writes what comes behind the line. -/
def putAppended : Edit Unit := do
  let waiting := (← get).appended
  modify fun s => { s with appended := [] }
  waiting.reverse.forM fun a => do
    match a with
    | .text cs => put none cs
    | .file path =>
      match ← outside (readPath path) with
      | .ok cs => if !cs.isEmpty then put none cs
      | .error _ => pure ()

/-- Reads the next line; false if there is none. -/
def readLine : Edit (Option EditLine) := do
  if ← isLast then return none
  putAppended
  let s ← get
  match s.lines with
  | [] => return none
  | l :: rest =>
    set { s with
      lines := rest, ended := l.ended, file := l.file, number := s.number + 1
      replaced := false }
    return some l

/-! ### Addresses -/

/-- An expression, or the last one. -/
def resolveSearch (search : Option EditSearch) : Edit (Option EditSearch) := do
  match search with
  | some s =>
    modify fun t => { t with search := some s }
    return some s
  | none => return (← get).search

/-- The line is one that an address names by itself; none if an expression is missing. -/
def names (a : LineAddress) : Edit (Option Bool) := do
  let s ← get
  match a with
  | .line n => return some (s.number = n)
  | .step first step => return some (first ≤ s.number && (s.number - first) % step = 0)
  | .lastLine => return some (← isLast)
  | .matching search =>
    match ← resolveSearch search with
    | some search => return some (search.regex.findFrom? search.rules [] s.line).isSome
    | none => return none
  | .more _ | .multiple _ => return some false

/-- Sets whether the lines of a command have begun. -/
def setRange (index : Nat) (range : RangeState) : Edit Unit :=
  modify fun s => { s with
    ranges := (index, range) :: s.ranges.filter fun (i, _) => i != index }

/-- Whether the lines of a command have begun. At line zero they have at once. -/
def range (index : Nat) (c : EditCommand) : Edit RangeState := do
  match (← get).ranges.find? fun (i, _) => i == index with
  | some (_, range) => return range
  | none =>
    return match c.first, c.last with
      | some (.line 0), some _ => .running none
      | _, _ => .idle

/-- The lines of two addresses begin here: how far they go if that is known, or only here. -/
def firstRange (number : Nat) (last : LineAddress) : RangeState :=
  let upTo (n : Nat) : RangeState := if n ≤ number then .over else .running (some n)
  match last with
  | .line n => upTo n
  | .more k => upTo (number + k)
  | .multiple m => upTo (if m = 0 then number else (number / m + 1) * m)
  | _ => .running none

/-- The line is one of those that a command is for, whether or not that is turned around. -/
def selects (index : Nat) (c : EditCommand) : Edit (Option Bool) := do
  match c.first, c.last with
  | none, _ => return some true
  | some first, none => names first
  | some first, some last =>
    let number := (← get).number
    let range ← range index c
    match range with
    | .running (some n) =>
      if n ≤ number then setRange index .over
      return some (number ≤ n)
    | .running none =>
      let some ends ← names last
        | return none
      if ends then setRange index .over
      return some true
    | _ =>
      let begins ← match first, last with
        | .line n, .line m =>
          pure (some (number = n || (n ≤ number && number ≤ m && range = .idle)))
        | .line n, _ => pure (some (n ≤ number && range = .idle))
        | _, _ => names first
      match begins with
      | none => return none
      | some false => return some false
      | some true =>
        setRange index (firstRange number last)
        return some true

/-! ### Commands -/

/-- The end of a block that begins at a place. -/
def blockEnd (commands : Array EditCommand) : (fuel depth index : Nat) → Nat
  | 0, _, index => index
  | fuel + 1, depth, index =>
    match commands[index]? with
    | none => index
    | some c =>
      match c.action with
      | .openBlock => blockEnd commands fuel (depth + 1) (index + 1)
      | .closeBlock =>
        if depth ≤ 1 then index else blockEnd commands fuel (depth - 1) (index + 1)
      | _ => blockEnd commands fuel depth (index + 1)

/-- Where a label stands; without a name, the end. -/
def goal (commands : Array EditCommand) (name : Octets) : Nat :=
  if name.isEmpty then commands.size
  else (commands.findIdx? fun c => c.action.isLabel name).getD commands.size

/-- The next line of a file that is read line by line. -/
def nextOf (path : Octets) : Edit (Option EditLine) := do
  let mode ← read
  let known := ((← get).readers.find? fun (p, _) => p == path).map (·.2)
  let lines ← match known with
    | some lines => pure lines
    | none =>
      match ← outside (readPath path) with
      | .ok cs => pure (linesOf mode.ending path cs)
      | .error _ => pure []
  modify fun s => { s with
    readers := (path, lines.drop 1) :: s.readers.filter fun (p, _) => p != path }
  return lines.head?

/-- The output of a script in a shell. -/
def outputOf (run : ProgramRunner) (source : Octets) : Edit Octets := do
  flush
  let (_, output) ← outside (captured (run.script source))
  return output

/-- The line becomes the output of itself as a script, without its ending. -/
def runLine (run : ProgramRunner) : Edit Unit := do
  let mode ← read
  let output ← outputOf run (← get).line
  let cs := if output.getLast? == some mode.ending then output.dropLast else output
  modify fun s => { s with line := cs }

/-- Where the standard output is the main output of the run, files of that name are too. -/
def sink (path : Octets) : Edit (Option Octets) := do
  return if path == octets "/dev/stdout" && !(← read).separate then none else some path

/-- Carries out a substitution. -/
def substitute (run : ProgramRunner) (sub : Substitution) : Edit EditMove := do
  match ← resolveSearch sub.search with
  | none => return .fail .noExpression
  | some search =>
    let s ← get
    match substituteFrom search sub.replacement sub.first sub.everywhere (2 * s.line.length + 4) 0
      false [] s.line with
    | none => return .onward
    | some cs =>
      set { s with line := cs, replaced := true }
      if sub.runs then runLine run
      let s ← get
      if sub.shows then putLine none s.line s.ended
      match sub.file with
      | some path => putLine (← sink path) s.line s.ended
      | none => pure ()
      return .onward

/-- A text whose last character is the ending of lines. -/
def endedText (mode : EditMode) (cs : Octets) : Octets :=
  if cs.isEmpty then cs else cs.dropLast ++ [mode.ending]

/-- The character that stands in for another one. -/
def translated (table : List (Char × Char)) (c : Char) : Char :=
  match table.find? fun (k, _) => k == c with
  | some (_, d) => d
  | none => c

/-- Carries out what a command does. -/
def act (run : ProgramRunner) (index : Nat) (c : EditCommand) : Edit EditMove := do
  let mode ← read
  let s ← get
  let firstLine := s.line.takeWhile (· != mode.ending)
  match c.action with
  | .openBlock | .closeBlock | .label _ | .nothing => return .onward
  | .branch rule name =>
    let jumps := match rule with
      | .always => true
      | .ifReplaced => s.replaced
      | .unlessReplaced => !s.replaced
    if rule ≠ .always then set { s with replaced := false }
    return if jumps then .jump (goal mode.commands name) else .onward
  | .append cs =>
    set { s with appended := .text cs :: s.appended }
    return .onward
  | .insert cs =>
    put none (endedText mode cs)
    return .onward
  | .change cs =>
    match ← range index c with
    | .running _ => pure ()
    | _ => put none (endedText mode cs)
    return .cycle false
  | .delete => return .cycle false
  | .deleteFirst =>
    if firstLine.length = s.line.length then return .cycle false
    else
      set { s with line := s.line.drop (firstLine.length + 1) }
      return .restart
  | .print =>
    putLine none s.line s.ended
    return .onward
  | .printFirst =>
    putLine none firstLine true
    return .onward
  | .printPlainly width =>
    put none (endedText mode (shownPlainly (width.getD mode.width) s.line))
    return .onward
  | .printNumber =>
    putLine none (numberOctets s.number) true
    return .onward
  | .printName =>
    putLine none s.file true
    return .onward
  | .next =>
    if ← isLast then return .cycle true
    if !mode.quiet then putLine none s.line s.ended
    match ← readLine with
    | some l => modify fun s => { s with line := l.text }
    | none => pure ()
    return .onward
  | .nextToo =>
    match ← readLine with
    | some l =>
      modify fun s => { s with line := s.line ++ mode.ending :: l.text }
      return .onward
    | none => return .cycle true
  | .hold =>
    set { s with held := s.line, heldEnded := s.ended }
    return .onward
  | .holdToo =>
    set { s with held := s.held ++ mode.ending :: s.line }
    return .onward
  | .recall =>
    set { s with line := s.held, ended := s.heldEnded }
    return .onward
  | .recallToo =>
    set { s with line := s.line ++ mode.ending :: s.held }
    return .onward
  | .exchange =>
    set { s with line := s.held, ended := s.heldEnded, held := s.line, heldEnded := s.ended }
    return .onward
  | .clear =>
    set { s with line := [] }
    return .onward
  | .quit shows code => return .stop shows (code % 256)
  | .readFile path =>
    set { s with appended := .file path :: s.appended }
    return .onward
  | .readLine path =>
    match ← nextOf path with
    | some l =>
      let cs := if l.ended then l.text ++ [mode.ending] else l.text
      modify fun s => { s with appended := .text cs :: s.appended }
    | none => pure ()
    return .onward
  | .writeLine path =>
    putLine (← sink path) s.line s.ended
    return .onward
  | .writeFirst path =>
    putLine (← sink path) firstLine true
    return .onward
  | .substitute sub => substitute run sub
  | .translate table =>
    set { s with line := s.line.map (translated table) }
    return .onward
  | .run none =>
    runLine run
    return .onward
  | .run (some source) =>
    put none (← outputOf run source)
    return .onward

/-- How the commands leave a line. -/
inductive Ending where
  | cycle (shows : Bool)
  | restart
  | stop (shows : Bool) (code : Nat)
  | fail (f : EditFault)

/-- Carries out the commands from one on. -/
def runFrom (run : ProgramRunner) : (fuel : Nat) → (index : Nat) → Edit (Nat × Ending)
  | 0, _ => outside runOut
  | fuel + 1, index => do
    let mode ← read
    match mode.commands[index]? with
    | none => return (fuel, .cycle true)
    | some c =>
      match ← selects index c with
      | none => return (fuel, .fail .noExpression)
      | some selected =>
        let move ← if selected != c.negated then act run index c
          else match c.action with
            | .openBlock =>
              pure (.jump (blockEnd mode.commands mode.commands.size 0 index))
            | _ => pure .onward
        match move with
        | .onward => runFrom run fuel (index + 1)
        | .jump goal => runFrom run fuel goal
        | .cycle shows => return (fuel, .cycle shows)
        | .restart => return (fuel, .restart)
        | .stop shows code => return (fuel, .stop shows code)
        | .fail f => return (fuel, .fail f)

/-- Shows the line at the end of its commands, unless that is not wanted. -/
def showLine (shows : Bool) : Edit Unit := do
  let mode ← read
  let s ← get
  if shows && !mode.quiet then putLine none s.line s.ended

/-- Works on the lines that are left; true if the run is to stop. -/
def runCycles (run : ProgramRunner) (reads : Bool) : (fuel : Nat) → Edit Bool
  | 0 => outside runOut
  | fuel + 1 => do
    let there ← if reads then do
        match ← readLine with
        | some l =>
          modify fun s => { s with line := l.text }
          pure true
        | none => pure false
      else pure true
    if !there then return false
    let (fuel', ending) ← runFrom run fuel 0
    match ending with
    | .cycle shows =>
      showLine shows
      putAppended
      runCycles run true (min fuel fuel')
    | .restart =>
      putAppended
      runCycles run false (min fuel fuel')
    | .stop shows code =>
      if shows then
        showLine true
        putAppended
      modify fun s => { s with code := code }
      return true
    | .fail f =>
      let mode ← read
      flush
      outside (warnAs mode.name (mode.ended.text ++ f.text))
      modify fun s => { s with code := 1 }
      return true

end Edit

/-! ## The program -/

/-- How many steps a run takes at most. -/
def editFuel : Nat := 2000000

/-- The options of `sed`. -/
def editOptions : OptionSpec :=
  ⟨"nErszub", "efl", "i", [("quiet", "n"), ("silent", "n"), ("sandbox", "sandbox"), ("expression", "e"), ("file", "f"),
    ("regexp-extended", "E"), ("in-place", "i"), ("line-length", "l"), ("separate", "s"),
    ("null-data", "z"), ("zero-terminated", "z"), ("unbuffered", "u"), ("posix", "posix"),
    ("debug", "debug"), ("follow-symlinks", "follow-symlinks"),
    ("binary", "b"), ("version", "version"), ("help", "help")], true, 1⟩

/-- How the program is used, in short. -/
def editUsage : Octets :=
  octets "Usage: sed [OPTION]... \x7bscript-only-if-no-other-script\x7d [input-file]...\n\n"

/-- The pieces of a script, or what is said about a file that cannot be read. -/
def editPieces (o : ToolOptions) : Eval (Except Octets (List EditPiece)) := do
  let named := o.given.filter fun (k, _) => k == "e" || k == "f"
  if named.isEmpty then
    return .ok (o.rest.head?.toList.map fun text => ⟨text, 1, none⟩)
  let pieces ← named.zipIdx.mapM fun ((kind, text), i) => do
    let number := ((named.take (i + 1)).filter fun (k, _) => k == "e").length
    let piece (cs : Octets) (file : Option Octets) : Except Octets EditPiece := .ok ⟨cs, number, file⟩
    if kind == "e" then return piece text none
    else match ← readPath text with
      | .ok cs => return piece cs (some text)
      | .error e =>
        return .error (octets "couldn\x27t open file " ++ text ++ octets (": " ++ e.text))
  return pieces.mapM id

/-- The files that commands write to. -/
def writtenFiles (commands : Array EditCommand) : List Octets :=
  (commands.toList.filterMap fun c => match c.action with
    | .writeLine path | .writeFirst path => some path
    | .substitute s => s.file
    | _ => none).eraseDups

/-- The name of the copy of a file, by the ending that was asked for. A star stands for the
name. -/
def copyName (suffix path : Octets) : Octets :=
  let name := (path.reverse.takeWhile (· != '/')).reverse
  let front := path.take (path.length - name.length)
  if suffix.contains '*' then
    let copy := suffix.flatMap fun c => if c == '*' then name else [c]
    if copy.contains '/' then copy else front ++ copy
  else path ++ suffix

/-- The state in front of the first line. -/
def EditState.start (files : List Octets) : EditState :=
  { line := [], ended := true, file := ['-'], number := 0, held := [], heldEnded := true
    lines := [], files := files, replaced := false, ranges := [], appended := [], search := none
    readers := [], output := [], lacking := [], code := 0, lost := false }

/-- Edits each file by itself; with a `suffix`, in its place. -/
def editEach (run : ProgramRunner) (suffix : Option Octets) : List Octets → Edit Unit
  | [] => return
  | path :: rest => do
    let mode ← read
    let start ← get
    set { start with
      number := 0, ranges := [], lines := [], files := [path], held := [], heldEnded := true }
    let found ← Edit.outside do
      let s ← MonadState.get
      return s.files.find (s.scope.resolve path)
    let (there, directory) := match found with
      | .ok .directory => (true, suffix.isSome)
      | .ok _ => (true, false)
      | .error _ => (false, false)
    if directory then
      Edit.outside (warnAs mode.name
        (octets "couldn\x27t edit " ++ path ++ octets ": not a regular file"))
      modify fun s => { s with code := 4 }
    else
      let stops ← Edit.runCycles run true editFuel
      match suffix with
      | some suffix =>
        if there then
          let output := (← get).output.reverse.flatMap id
          if !suffix.isEmpty then
            match ← Edit.outside (readPath path) with
            | .ok cs =>
              let _ ← Edit.outside (writePath (copyName suffix path) false cs)
            | .error _ => pure ()
          let _ ← Edit.outside (writePath path false output)
          modify fun s => { s with output := [], lacking := s.lacking.filter (·.isSome) }
      | none => pure ()
      if !stops then editEach run suffix rest

/-- Makes the files that commands write to; a message about the first that cannot be made. -/
def makeFiles : List Octets → Eval (Option Octets)
  | [] => return none
  | path :: rest => do
    let made ← if (device? path).isSome then pure (Except.ok ()) else writePath path false []
    match made with
    | .ok () => makeFiles rest
    | .error e => return some (octets "couldn\x27t open file " ++ path ++ octets (": " ++ e.text))

/-- Runs a script on files. -/
def runEdit (run : ProgramRunner) (mode : EditMode) (suffix : Option Octets)
    (paths : List Octets) : Eval Unit := do
  match ← makeFiles (writtenFiles mode.commands) with
  | some message =>
    warnAs mode.name message
    setStatus 4
  | none =>
    let files := if paths.isEmpty then [['-']] else paths
    let s ← get
    let input := s.readable 0
    let size := match s.scope.channel 0 with
      | .source slot => (s.source? slot).bind (·.size)
      | _ => none
    let body : Edit Unit := do
      if mode.separate then editEach run suffix files
      else
        let _ ← Edit.runCycles run true editFuel
      Edit.flush
    let (_, s) ← (body.run mode).run (.start files)
    -- A file that is the input stays open where the run has stopped.
    if files == [['-']] then
      let left := s.lines.flatMap fun l => if l.ended then l.text ++ [mode.ending] else l.text
      let used := input.length - left.length
      let exact := size.isSome || mode.unbuffered
      leaveBlocks input used (if exact then 1 else 4096)
    setStatus (if s.lost && s.code ≠ 4 && s.code ≠ 1 then 2 else s.code)

/-- The program `sed`. -/
def editProgram (run : ProgramRunner) (name : Octets) (args : List Octets) : Eval Unit := do
  let o := ToolOptions.read editOptions none args
  match o.fault with
  | some f =>
    warnAs name f.text
    emit 2 editUsage
    setStatus 1
  | none =>
    if o.hasName "version" then
      emit 1 (octets "sed (GNU sed) 4.9\n")
      setStatus 0
    else if o.hasName "help" then
      emit 1 editUsage
      setStatus 0
    else match ← editPieces o with
      | .error message =>
        warnAs name message
        setStatus 4
      | .ok [] =>
        emit 2 editUsage
        setStatus 1
      | .ok pieces =>
        let style : EditStyle := ⟨o.has 'E' || o.has 'r', o.hasName "sandbox", o.has 'z'⟩
        match readPieces style pieces with
        | .error f =>
          warnAs name f.text
          setStatus f.code
        | .ok script =>
          let given := o.has 'e' || o.has 'f'
          let paths := if given then o.rest else o.rest.drop 1
          let suffix := o.value? 'i'
          if suffix.isSome && paths.isEmpty then
            warnAs name (octets "no input files")
            setStatus 4
          else
            let width := ((o.value? 'l').bind natural?).getD 70
            runEdit run
              ⟨name, o.has 'n' || script.quiet, if o.has 'z' then '\x00' else '\n',
                width, script.commands, suffix.isSome || o.has 's', o.has 'u',
                script.ended⟩
              suffix paths

end MatrixFlow.Script
