import MatrixFlow.Script.Tool.Basic

/-!
# Tools that change files

Tools that make, copy, move and remove files and directories.
-/

namespace MatrixFlow.Script

open ToolM

/-- A message about a path in quotation marks. -/
def quotedMessage (before : String) (path : Octets) (e : FileFault) : Octets :=
  octets before ++ octets " \x27" ++ path ++ octets "\x27: " ++ octets e.text

/-- Does something for each path; the exit code tells whether all went well. -/
def forPaths (paths : List Octets) (act : Octets → ToolM Bool) : Tool := do
  let done ← paths.mapM act
  return if done.all id then 0 else 1

/-- A message with the advice to ask for help. -/
def misused (message : Octets) : Tool := do
  warn (message ++ octets "\nTry '" ++ (← read).name ++ octets " \x2d\x2dhelp' for more information.")
  return 1

/-- What a tool says when it has nothing to work on. -/
def missingOperand : Tool := misused (octets "missing operand")

/-- A message about a path; the answer is false. -/
def refuse (before : String) (path : Octets) (e : FileFault) : ToolM Bool := do
  warn (quotedMessage before path e)
  return false

/-- A path between quotation marks. -/
def quotedPath (path : Octets) : Octets := '\x27' :: path ++ ['\x27']

/-- Says what was done, if that is wanted. -/
def report (wanted : Bool) (before : String) (path : Octets) : ToolM Unit := do
  if wanted then sayLine (octets before ++ quotedPath path)

/-- Changes the files. -/
def changeFiles (f : FileTree → FileTree) : ToolM Unit :=
  modify fun s => { s with files := f s.files }

/-! ## Making and removing -/

/-- The beginnings of a path, each with one name more, and how they are written. -/
def pathSteps (path : Octets) : List Octets :=
  let names := Text.splitOn '/' path
  let steps := (List.range names.length).map fun n => Text.joinWith ['/'] (names.take (n + 1))
  (steps.zip names).filterMap fun (step, name) => if name.isEmpty then none else some step

/-- The tool `mkdir`. -/
def mkdirTool : Tool :=
  withOptions (.of "pvZ" "m" [("parents", "p"), ("verbose", "v"), ("mode", "m")]) fun o => do
    if o.rest.isEmpty then missingOperand
    else forPaths o.rest fun path => do
      let say := report (o.has 'v') ((plainString (← read).name) ++ ": created directory ")
      let make (path : Octets) (again : Bool) : ToolM Bool := do
        let files := (← get).files
        let parts ← resolve path
        match files.find parts with
        | .ok .directory =>
          if again then return true else refuse "cannot create directory" path .present
        | .ok _ => refuse "cannot create directory" path .present
        | .error .missing =>
          if files.isDirectory parts.dropLast then
            changeFiles fun t => t.put parts .directory
            say path
            return true
          else refuse "cannot create directory" path .missing
        | .error e => refuse "cannot create directory" path e
      if o.has 'p' then
        (pathSteps path).foldlM (fun ok step => if ok then make step true else return false) true
      else make path false

/-- The tool `rmdir`. -/
def rmdirTool : Tool :=
  withOptions (.of "pv" "" [("parents", "p"), ("verbose", "v"),
      ("ignore-fail-on-non-empty", "ignore")]) fun o => do
    if o.rest.isEmpty then missingOperand
    else forPaths o.rest fun path => do
      let name := plainString (← read).name
      let drop (path : Octets) : ToolM Bool := do
        let files := (← get).files
        let parts ← resolve path
        report (o.has 'v') (name ++ ": removing directory, ") path
        match files.find parts with
        | .ok .directory =>
          if (files.list parts).isEmpty then
            changeFiles fun t => t.remove parts
            return true
          else if o.hasName "ignore" then return true
          else refuse "failed to remove" path .notEmpty
        | .ok _ => refuse "failed to remove" path .notDirectory
        | .error e => refuse "failed to remove" path e
      let steps := if o.has 'p' then (pathSteps path).reverse else [path]
      steps.foldlM (fun ok step => if ok then drop step else return false) true

/-- What stands at a path and below, the inner ones first. -/
def belowFirst (files : FileTree) : (fuel : Nat) → (path : Octets) → List String →
    List (Octets × List String)
  | 0, path, parts => [(path, parts)]
  | fuel + 1, path, parts =>
    let front := if path.getLast? == some '/' then path else path ++ ['/']
    (files.list parts).flatMap (fun n =>
      belowFirst files fuel (front ++ octets n) (parts ++ [n])) ++ [(path, parts)]

/-- The tool `rm`. -/
def rmTool : Tool :=
  withOptions (.of "frRidvI" "" [("force", "f"), ("recursive", "r"), ("dir", "d"),
      ("verbose", "v"), ("one-file-system", "one"), ("no-preserve-root", "all"),
      ("preserve-root", "kept")]) fun o => do
    let forced := o.has 'f'
    let deep := o.has 'r' || o.has 'R'
    if o.rest.isEmpty then (if forced then return 0 else missingOperand)
    else forPaths o.rest fun path => do
      let files := (← get).files
      let parts := files.place (← resolve path)
      let found := files.findOwn parts
      let last := (path.reverse.dropWhile (· == '/')).takeWhile (· != '/')
      match found with
      | .ok .directory =>
        if deep && (last == ['.'] || last == ['.', '.']) then
          warn (octets "refusing to remove '.' or '..' directory: skipping " ++ quotedPath path)
          return false
        else if deep && parts.isEmpty then
          warn (octets "it is dangerous to operate recursively on '/'\n" ++ (← read).name ++
            octets ": use \x2d\x2dno-preserve-root to override this failsafe")
          return false
        else if deep || (o.has 'd' && (files.list parts).isEmpty) then
          if o.has 'v' then
            (belowFirst files (files.entries.length) path parts).forM fun (p, q) =>
              report true (if files.isDirectory q then "removed directory " else "removed ") p
          changeFiles fun t => t.remove parts
          return true
        else refuse "cannot remove" path (if o.has 'd' then .notEmpty else .isDirectory)
      | .ok _ =>
        report (o.has 'v') "removed " path
        changeFiles fun t => t.remove parts
        return true
      | .error e =>
        if forced && (e == .missing || e == .notDirectory) then return true
        else refuse "cannot remove" path e

/-- The tool `unlink`. -/
def unlinkTool : Tool :=
  withOptions (.of "" "" []) fun o => do
    match o.rest with
    | [] => missingOperand
    | [path] =>
      let files := (← get).files
      let parts := files.place (← resolve path)
      let found := files.findOwn parts
      match found with
      | .ok .directory => warn (quotedMessage "cannot unlink" path .isDirectory)
      | .ok _ =>
        changeFiles fun t => t.remove parts
        return 0
      | .error e => warn (quotedMessage "cannot unlink" path e)
      return 1
    | _ :: extra :: _ => misused (octets "extra operand " ++ quotedPath extra)

/-- The tool `touch`. -/
def touchTool : Tool :=
  withOptions (.of "acmfh" "dtr" [("no-create", "c"), ("date", "d"), ("reference", "r"),
      ("time", "time="), ("no-dereference", "h")]) fun o => do
    if o.rest.isEmpty then misused (octets "missing file operand")
    else forPaths o.rest fun path => do
      let files := (← get).files
      let parts ← resolve path
      match files.find parts with
      | .ok _ => return true
      | .error _ =>
        if o.has 'c' then return true
        match files.write parts [] with
        | .ok files =>
          modify fun s => { s with files := files }
          return true
        | .error e => refuse "cannot touch" path e

/-! ## Copying and moving -/

/-- Copies what stands at a path and below to another path. -/
def copyTree (files : FileTree) (source target : List String) : FileTree :=
  let below := files.entries.filter fun (p, _) => p.take source.length == source
  below.foldl (fun t (p, entry) => t.put (target ++ p.drop source.length) entry) files

/-- The last name of a path, as it is written. -/
def lastName (path : Octets) : Octets :=
  ((path.reverse.dropWhile (· == '/')).takeWhile (· != '/')).reverse

/-- Copies or moves one thing to a path. -/
def transferOne (moves : Bool) (o : ToolOptions) (source goal : Octets) : ToolM Bool := do
  let files := (← get).files
  let deep := moves || o.has 'r' || o.has 'R' || o.has 'a'
  let keepsLinks := deep || o.has 'P' || o.has 'd'
  let own := files.place (← resolve source)
  let isLink := keepsLinks && (files.entry? own).any (·.isLink)
  let parts := if isLink then own else files.settle own
  let goalParts := files.settle (← resolve goal)
  let refuseTo (text : Octets) : ToolM Bool := do
    warn text
    return false
  match if isLink then .ok ((files.entry? parts).getD .directory) else files.find parts with
  | .error e => refuse "cannot stat" source e
  | .ok entry =>
    let there := files.get? goalParts
    if entry.isDirectory && !deep then
      refuseTo (octets "-r not specified; omitting directory " ++ quotedPath source)
    else if goalParts == parts then
      refuseTo (quotedPath source ++ octets " and " ++ quotedPath goal ++
        octets " are the same file")
    else if entry.isDirectory && goalParts.take parts.length == parts then
      refuseTo (if moves then
          octets "cannot move " ++ quotedPath source ++ octets " to a subdirectory of itself, " ++
            quotedPath goal
        else
          octets "cannot copy a directory, " ++ quotedPath source ++ octets ", into itself, " ++
            quotedPath goal)
    else if o.has 'n' && there.isSome then return true
    else if there.any (·.isDirectory) && !entry.isDirectory then
      refuseTo (octets "cannot overwrite directory " ++ quotedPath goal ++
        octets " with non-directory")
    else if entry.isDirectory && there.any (!·.isDirectory) then
      refuseTo (octets "cannot overwrite non-directory " ++ quotedPath goal ++
        octets " with directory " ++ quotedPath source)
    else
      let above := match files.find goalParts with
        | .error .missing =>
          if files.isDirectory goalParts.dropLast then none else some FileFault.missing
        | .error e => some e
        | .ok _ => none
      match above with
      | some e =>
        if moves then refuseTo (octets "cannot move " ++ quotedPath source ++ octets " to " ++
          quotedPath goal ++ octets (": " ++ e.text))
        else refuse (if entry.isDirectory then "cannot create directory"
          else "cannot create regular file") goal e
      | none =>
        if moves && there.any (·.isDirectory) && !(files.list goalParts).isEmpty then
          refuseTo (octets "cannot move " ++ quotedPath source ++ octets " to " ++
            quotedPath goal ++ octets ": Directory not empty")
        else
          let kept := match entry, there with
            | .file bytes _, some (.file _ executable) =>
              if moves then none else some (FileEntry.file bytes executable)
            | _, _ => none
          changeFiles fun t =>
            match kept with
            | some entry => t.put goalParts entry
            | none =>
              let t := copyTree t parts goalParts
              if moves then t.remove parts else t
          if o.has 'v' then
            sayLine ((if moves then octets "renamed " else []) ++ quotedPath source ++
              octets " -> " ++ quotedPath goal)
          return true

/-- Copies or moves files. -/
def transfer (moves : Bool) : Tool :=
  withOptions (.of (if moves then "finvuTbZ" else "abdfHilLnPpRrsTuvxZ") "tS"
      [("recursive", "r"), ("force", "f"), ("no-clobber", "n"), ("verbose", "v"),
        ("target-directory", "t"), ("no-target-directory", "T"), ("archive", "a"),
        ("update", "u"), ("interactive", "i"), ("preserve", "p")]) fun o => do
    let into := o.value? 't'
    match into, o.rest.reverse with
    | _, [] => misused (octets "missing file operand")
    | none, [only] =>
      misused (octets "missing destination file operand after " ++ quotedPath only)
    | _, last :: before =>
      let target := into.getD last
      let sources := if into.isSome then o.rest else before.reverse
      let isDirectory := (← get).files.isDirectory (← resolve target)
      let named := target.getLast? == some '/' && target.length > 1
      if (into.isSome || sources.length > 1) && !isDirectory then
        let found := (← get).files.find (← resolve target)
        warn (octets "target " ++ quotedPath target ++ octets (match found with
          | .ok _ => ": Not a directory"
          | .error e => ": " ++ e.text))
        return 1
      else forPaths sources fun source => do
        let goal := if isDirectory && !o.has 'T' then
            target ++ (if named || target == ['/'] then [] else ['/']) ++ lastName source
          else target
        transferOne moves o source goal

/-- The tool `ln`. A link that is not symbolic is a copy. -/
def lnTool : Tool :=
  withOptions (.of "bdFfiLnPrsTv" "tS" [("symbolic", "s"), ("force", "f"), ("verbose", "v"),
      ("no-dereference", "n"), ("no-target-directory", "T"), ("target-directory", "t"),
      ("relative", "r")]) fun o => do
    let symbolic := o.has 's'
    let make (source goal : Octets) : ToolM Bool := do
      let files := (← get).files
      let goalParts := files.place (← resolve goal)
      let kind := if symbolic then "failed to create symbolic link" else "failed to create hard link"
      let sourceParts ← resolve source
      let found := if symbolic then .ok (.link (plainString source)) else files.find sourceParts
      match found with
      | .error e => refuse "failed to access" source e
      | .ok .directory =>
        warn (quotedPath source ++ octets ": hard link not allowed for directory")
        return false
      | .ok entry =>
        if (files.entry? goalParts).isSome && !o.has 'f' then refuse kind goal .present
        else if !files.isDirectory goalParts.dropLast then refuse kind goal .missing
        else
          changeFiles fun t => t.put goalParts entry
          if o.has 'v' then
            sayLine (quotedPath goal ++ octets (if symbolic then " -> " else " => ") ++
              quotedPath source)
          return true
    let isDirectory (path : Octets) : ToolM Bool := do
      let files := (← get).files
      let parts ← resolve path
      let linked := o.has 'n' && (files.entry? (files.place parts)).any (·.isLink)
      return files.isDirectory parts && !linked && !o.has 'T'
    let within (directory source : Octets) : Octets :=
      directory ++ (if directory.getLast? == some '/' then [] else ['/']) ++ lastName source
    match o.value? 't', o.rest.reverse with
    | _, [] => misused (octets "missing file operand")
    | some directory, _ => forPaths o.rest fun source => make source (within directory source)
    | none, [source] => forPaths [source] fun source => make source (within ['.'] source)
    | none, goal :: sources =>
      if ← isDirectory goal then
        forPaths sources.reverse fun source => make source (within goal source)
      else match sources with
        | [source] => forPaths [source] fun source => make source goal
        | _ =>
          warn (octets "target " ++ quotedPath goal ++ octets ": Not a directory")
          return 1

/-- The tool `install`, which copies files that can be run, or makes directories. -/
def installTool : Tool :=
  withOptions (.of "bcCdDpsvTZ" "gmotS" [("directory", "d"), ("mode", "m"), ("owner", "o"),
      ("group", "g"), ("target-directory", "t"), ("verbose", "v")]) fun o => do
    let mode := o.value? 'm'
    let executable := mode.all fun m => m.any fun c => ['1', '3', '5', '7', 'x'].contains c
    if o.has 'd' then forPaths o.rest fun path => do
      let parts ← resolve path
      changeFiles fun t => ((List.range (parts.length + 1)).map parts.take).foldl
        (fun t p => if (t.get? p).isSome then t else t.put p .directory) t
      return true
    else match o.rest.reverse with
      | [] => misused (octets "missing file operand")
      | [only] =>
        misused (octets "missing destination file operand after " ++ quotedPath only)
      | target :: sources => forPaths sources.reverse fun source => do
        let files := (← get).files
        let parts ← resolve target
        let goal := if files.isDirectory parts then parts ++ [plainString (lastName source)]
          else parts
        match files.read (← resolve source) with
        | .error e => refuse "cannot stat" source e
        | .ok bytes =>
          let files := if o.has 'D' then files.putFile goal bytes executable else files
          if files.isDirectory goal.dropLast then
            changeFiles fun _ => files.put goal (.file bytes executable)
            return true
          else refuse "cannot create regular file" target .missing

/-! ## Rights -/

/-- Whether files can be run after a change of rights: a number, or letters with signs. None if the
change cannot be read. -/
def modeChange? (mode : Octets) : Option (Bool → Bool) :=
  if !mode.isEmpty && mode.all fun c => '0' ≤ c && c ≤ '7' then
    some fun _ => (mode.drop (mode.length - 3)).any fun c => c.toNat % 2 = 1
  else (Text.splitOn ',' mode).foldlM (fun change clause =>
    let who := clause.takeWhile fun c => ['u', 'g', 'o', 'a'].contains c
    match clause.drop who.length with
    | sign :: letters =>
      let known := letters.all fun c =>
        ['r', 'w', 'x', 'X', 's', 't', 'u', 'g', 'o', '+', '-', '='].contains c
      if ['+', '-', '='].contains sign && known then
        some fun old =>
          let old := change old
          let hit := letters.contains 'x' || (letters.contains 'X' && old)
          if sign == '=' then hit || (old && !who.contains 'u' && !who.contains 'a' && !who.isEmpty)
          else if hit then sign == '+' else old
      else none
    | [] => none) id

/-- The tool `chmod`, of which only the right to be run counts. -/
def chmodTool : Tool := do
  let call ← read
  let isOption (a : Octets) : Bool :=
    match a with
    | '-' :: c :: _ => ['R', 'v', 'c', 'f', '-'].contains c
    | _ => false
  let deep := call.args.any fun a => a == ['-', 'R'] || a == octets "--recursive"
  match call.args.filter fun a => !isOption a with
  | [] => missingOperand
  | [mode] => misused (octets "missing operand after " ++ quotedPath mode)
  | mode :: paths =>
    match modeChange? mode with
    | none => misused (octets "invalid mode: " ++ quotedPath mode)
    | some change =>
      forPaths paths fun path => do
        let files := (← get).files
        let parts ← resolve path
        match files.find parts with
        | .error e => refuse "cannot access" path e
        | .ok _ =>
          let meant (p : List String) : Bool :=
            p == parts || (deep && p.take parts.length == parts)
          changeFiles fun t => ⟨t.entries.map fun (p, e) =>
            match e with
            | .file bytes executable =>
              if meant p then (p, .file bytes (change executable)) else (p, e)
            | e => (p, e)⟩
          return true

/-- The tool `tee`. -/
def teeTool : Tool :=
  withOptions (.of "aip" "" [("append", "a"), ("ignore-interrupts", "i")]) fun o => do
    let input ← standardInput
    say input
    forPaths o.rest fun path => do
      let files := (← get).files
      let parts ← resolve path
      let written := if o.has 'a' then files.append parts (bytesOf input)
        else files.write parts (bytesOf input)
      match written with
      | .ok files =>
        modify fun s => { s with files := files }
        return true
      | .error e =>
        warn (fileMessage path e)
        return false

end MatrixFlow.Script
