import MatrixFlow.Script.Pattern
import MatrixFlow.Script.Tool.Files
import MatrixFlow.Script.Tool.Sort

/-!
# Tools that tell about files

* `lsTool`: the names in directories.
* `statTool`: what is known about a file, in a format.
* `readlinkTool`, `realpathTool`: where paths lead.
-/

namespace MatrixFlow.Script

open ToolM

/-! ## Entries -/

/-- How many bytes a directory counts for. -/
def directorySize : Nat := 4096

/-- How many bytes an entry has. -/
def entrySize : FileEntry → Nat
  | .file bytes _ => bytes.length
  | .directory => directorySize
  | .link target => (octets target).length
  | .zeros _ | .program => 0

/-- How many blocks of 1024 bytes an entry takes. -/
def entryBlocks : FileEntry → Nat
  | .file bytes _ => (bytes.length + 4095) / 4096 * 4
  | .directory => 4
  | _ => 0

/-- The rights of an entry as an octal number. -/
def entryRights : FileEntry → Nat
  | .file _ true | .directory | .program => 493
  | .file _ false => 420
  | .zeros _ => 438
  | .link _ => 511

/-- The rights of an entry as letters, with the letter of its kind. -/
def rightLetters (e : FileEntry) : Octets :=
  let kind := match e with
    | .directory => 'd'
    | .link _ => 'l'
    | .zeros _ => 'c'
    | .file .. | .program => '-'
  let rights := entryRights e
  kind :: [64, 8, 1].flatMap fun place =>
    [(4, 'r'), (2, 'w'), (1, 'x')].map fun (bit, c) =>
      if rights / place / bit % 2 = 1 then c else '-'

/-- The kind of an entry in words. -/
def entryKind : FileEntry → String
  | .directory => "directory"
  | .link _ => "symbolic link"
  | .zeros _ => "character special file"
  | .file bytes _ => if bytes.isEmpty then "regular empty file" else "regular file"
  | .program => "regular file"

/-! ## Lists of names -/

/-- Something to list: how it is shown, where it is, and what it is. -/
structure Listed where
  shown : Octets
  path : List String
  entry : FileEntry

/-- The options of `ls`. -/
def lsOptions : OptionSpec :=
  ⟨"aAbBcCdfFgGhHiklLmnNopqQrRsStuUvxXZ1", "ITw", "", [("all", "a"), ("almost-all", "A"),
    ("directory", "d"), ("reverse", "r"), ("recursive", "R"), ("classify", "F"),
    ("size", "s"), ("inode", "i"), ("human-readable", "h"), ("ignore", "I"), ("quote-name", "Q"),
    ("color", "color="), ("sort", "sort="), ("format", "format="), ("file-type", "p"),
    ("group-directories-first", "first"), ("width", "w"), ("ignore-backups", "B"),
    ("time-style", "time-style="), ("numeric-uid-gid", "n"), ("literal", "N"),
    ("escape", "b"), ("dereference", "L")], true, 2⟩

/-- What stands behind a name. -/
def nameMark (o : ToolOptions) (e : FileEntry) : Octets :=
  if o.has 'F' then
    match e with
    | .directory => ['/']
    | .link _ => ['@']
    | .program | .file _ true => ['*']
    | _ => []
  else if o.has 'p' && e.isDirectory then ['/']
  else []

/-- The ending of a name. -/
def nameEnding (cs : Octets) : Octets :=
  let ending := (cs.reverse.takeWhile (· != '.')).reverse
  if ending.length < cs.length then ending else []

/-- The order that options ask for. -/
def listOrder (o : ToolOptions) (a b : Listed) : Bool :=
  let way := match o.last? ['S', 'X', 'v', 't', 'U', 'f'], o.valueOf? "sort=" with
    | some c, _ => some c
    | none, some w => [("size", 'S'), ("extension", 'X'), ("version", 'v'), ("none", 'U')].findSome?
        fun (k, c) => if octets k == w then some c else none
    | none, none => none
  let names := byBytes a.shown b.shown
  let order := match way with
    | some 'S' => (compare (entrySize b.entry) (entrySize a.entry)).then names
    | some 'X' => (byBytes (nameEnding a.shown) (nameEnding b.shown)).then names
    | some 'v' => byVersion a.shown b.shown
    | _ => names
  let order := if o.has 'r' then order.swap else order
  let order := if o.hasName "first" then
      (compare b.entry.isDirectory.toNat a.entry.isDirectory.toNat).then order
    else order
  order != .gt

/-- A text at the right of a column. -/
def rightColumn (width : Nat) (cs : Octets) : Octets :=
  List.replicate (width - cs.length) ' ' ++ cs

/-- A list with everything that is known about its entries. -/
def longRows (o : ToolOptions) (all : List Listed) : List Octets :=
  let sizes := all.map fun l => numberOctets (entrySize l.entry)
  let width := (sizes.map List.length).foldl max 0
  let links := all.map fun l => numberOctets (if l.entry.isDirectory then 2 else 1)
  let owner := if o.has 'n' then octets "0 " else octets "root "
  let owners := (if o.has 'g' then [] else owner) ++ (if o.has 'o' then [] else owner)
  (all.zip (sizes.zip links)).map fun (l, size, links) =>
    let target := match l.entry with
      | .link target => octets " -> " ++ octets target
      | _ => nameMark o l.entry
    rightLetters l.entry ++ ' ' :: links ++ ' ' :: owners ++ rightColumn width size ++
      octets " Jan  1 00:00 " ++ l.shown ++ target

/-- Shows a list of entries. -/
def showList (o : ToolOptions) (asDirectory : Bool) (all : List Listed) : ToolM Unit := do
  let ordered := if o.has 'U' || o.has 'f' then all else all.mergeSort (listOrder o)
  let long := o.has 'l' || o.has 'g' || o.has 'o' || o.has 'n'
  let blocks (l : Listed) : Octets := if o.has 's' then
      numberOctets (entryBlocks l.entry) ++ [' '] else []
  let width := (ordered.map fun l => (blocks l).length).foldl max 0
  if asDirectory && (long || o.has 's') then
    sayLine (octets "total " ++ numberOctets (total (ordered.map fun l => entryBlocks l.entry)))
  let quote (cs : Octets) : Octets := if o.has 'Q' then '\x22' :: cs ++ ['\x22'] else cs
  let rows := if long then longRows o ordered
    else ordered.map fun l => quote l.shown ++ nameMark o l.entry
  let rows := (ordered.zip rows).map fun (l, row) => rightColumn width (blocks l) ++ row
  if o.has 'm' && !long then
    if !rows.isEmpty then sayLine (Text.joinWith [',', ' '] rows)
  else rows.forM sayLine

/-- What is in a directory, as options want it. -/
def listedIn (o : ToolOptions) (files : FileTree) (path : List String) : List Listed :=
  let path := files.settle path
  let hidden := o.last? ['a', 'A', 'f']
  let ignored := o.values 'I'
  let matchesIgnored (n : String) : Bool := ignored.any fun p =>
    (Pattern.ofMarked false (p.map fun c => ⟨c, false⟩)).matchesText (octets n)
  let names := (files.list path).filter fun n =>
    (hidden.isSome || !n.startsWith ".") && !matchesIgnored n && !(o.has 'B' && n.endsWith "~")
  let inside := names.map fun n =>
    (⟨octets n, path ++ [n], (files.entry? (path ++ [n])).getD .directory⟩ : Listed)
  if hidden == some 'a' || hidden == some 'f' then
    ⟨['.'], path, .directory⟩ :: ⟨['.', '.'], path.dropLast, .directory⟩ :: inside
  else inside

/-- A directory and those below it, with their lists. -/
def directoryLists (o : ToolOptions) (files : FileTree) :
    (fuel : Nat) → Listed → List (Octets × List Listed)
  | 0, _ => []
  | fuel + 1, l =>
    let inside := listedIn o files l.path
    let own := (l.shown, inside)
    if o.has 'R' then
      let front := if l.shown.getLast? == some '/' then l.shown else l.shown ++ ['/']
      let below := (inside.mergeSort (listOrder o)).filter fun m =>
        m.entry.isDirectory && m.shown != ['.'] && m.shown != ['.', '.']
      own :: below.flatMap fun m =>
        directoryLists o files fuel { m with shown := front ++ m.shown }
    else [own]

/-- The tool `ls`. -/
def lsTool : Tool := withOptions lsOptions fun o => do
  let files := (← get).files
  let paths := if o.rest.isEmpty then [['.']] else o.rest
  let long := o.has 'l' || o.has 'g' || o.has 'o' || o.has 'n'
  let found ← paths.mapM fun path => do
    let parts ← resolve path
    let own := files.findOwn parts
    let keepsLink := (long || o.has 'd' || o.has 'F') && path.getLast? != some '/'
    match if keepsLink then own else files.find parts with
    | .ok entry =>
      if path.getLast? == some '/' && !entry.isDirectory then
        warn (quotedMessage "cannot access" path .notDirectory)
        return none
      else return some (⟨path, parts, entry⟩ : Listed)
    | .error e =>
      warn (quotedMessage "cannot access" path e)
      return none
  let known := found.filterMap id
  let (directories, plain) := known.partition fun l => l.entry.isDirectory && !o.has 'd'
  if !plain.isEmpty then showList o false plain
  let lists := (directories.mergeSort (listOrder o)).flatMap
    (directoryLists o files (files.entries.length + 1))
  let headed := paths.length > 1 || o.has 'R'
  lists.zipIdx.forM fun ((shown, inside), i) => do
    if headed then
      if i > 0 || !plain.isEmpty then say ['\n']
      sayLine (shown ++ [':'])
    showList o true inside
  return if found.all Option.isSome then 0 else 2

/-! ## What is known about a file -/

/-- One sign of a format. -/
def statField (path : Octets) (e : FileEntry) : Char → Octets
  | 'n' => path
  | 'N' => match e with
    | .link target => quotedPath path ++ octets " -> " ++ quotedPath (octets target)
    | _ => quotedPath path
  | 's' => numberOctets (entrySize e)
  | 'a' => Nat.toDigits 8 (entryRights e)
  | 'A' => rightLetters e
  | 'F' => octets (entryKind e)
  | 'U' | 'G' => octets "root"
  | 'u' | 'g' => ['0']
  | 'h' => if e.isDirectory then ['2'] else ['1']
  | 'b' => numberOctets (2 * entryBlocks e)
  | 'B' => octets "512"
  | 'o' => octets "4096"
  | '%' => ['%']
  | c => ['?', c]

/-- A format with the signs behind percent signs replaced. -/
def statText (path : Octets) (e : FileEntry) : Octets → Octets
  | '%' :: c :: r => statField path e c ++ statText path e r
  | c :: r => c :: statText path e r
  | [] => []

/-- The tool `stat`, of which only formats are known. -/
def statTool : Tool :=
  withOptions ⟨"Lft", "c", "", [("format", "c"), ("printf", "printf="), ("dereference", "L"),
    ("terse", "t")], true, 1⟩ fun o => do
    if o.rest.isEmpty then missingOperand
    else forPaths o.rest fun path => do
      let files := (← get).files
      let parts ← resolve path
      match if o.has 'L' then files.find parts else files.findOwn parts with
      | .error e => refuse "cannot statx" path e
      | .ok entry =>
        match o.value? 'c', o.valueOf? "printf=" with
        | some format, _ => sayLine (statText path entry format)
        | none, some format => say (statText path entry (EscapeRules.toolEcho.apply format).1)
        | none, none => sayLine (statText path entry (octets "  File: %n\n  Size: %s"))
        return true

/-! ## Where paths lead -/

/-- The tool `readlink`. -/
def readlinkTool : Tool :=
  withOptions (.of "femnqsvz" "" [("canonicalize", "f"), ("no-newline", "n"),
      ("canonicalize-existing", "e"), ("canonicalize-missing", "m")]) fun o => do
    if o.rest.isEmpty then missingOperand
    else forPaths o.rest fun path => do
      let files := (← get).files
      let parts ← resolve path
      let ending := if o.has 'n' then [] else ['\n']
      if o.has 'f' || o.has 'e' || o.has 'm' then
        let goal := files.settle parts
        let there := if o.has 'e' then (files.get? goal).isSome
          else o.has 'm' || files.isDirectory goal.dropLast
        if there then say (pathText goal ++ ending)
        return there
      else match files.findOwn parts with
        | .ok (.link target) =>
          say (octets target ++ ending)
          return true
        | _ => return false

/-- A path from a directory to another path. -/
def relativePath (start goal : List String) : Octets :=
  let shared := ((start.zip goal).takeWhile fun (a, b) => a == b).length
  let names := List.replicate (start.length - shared) ".." ++ goal.drop shared
  if names.isEmpty then ['.'] else octets ("/".intercalate names)

/-- The tool `realpath`. -/
def realpathTool : Tool :=
  withOptions (.of "emLPqsz" "" [("canonicalize-existing", "e"), ("canonicalize-missing", "m"),
      ("strip", "s"), ("no-symlinks", "s"), ("quiet", "q"), ("relative-to", "relative-to="),
      ("relative-base", "relative-base=")]) fun o => do
    if o.rest.isEmpty then missingOperand
    else forPaths o.rest fun path => do
      let files := (← get).files
      let parts ← resolve path
      let goal := if o.has 's' then parts else files.settle parts
      let fault := if o.has 'm' then none
        else if o.has 'e' then (match files.find parts with | .error e => some e | .ok _ => none)
        else match files.find goal.dropLast with
          | .ok .directory => none
          | .ok _ => some FileFault.notDirectory
          | .error e => some e
      match fault with
      | some e =>
        if !o.has 'q' then warn (fileMessage path e)
        return false
      | none =>
        match o.valueOf? "relative-to=" with
        | some start => sayLine (relativePath (files.settle (← resolve start)) goal)
        | none => sayLine (pathText goal)
        return true

end MatrixFlow.Script
