import MatrixFlow.Script.Regex
import MatrixFlow.Script.Tool.Lines

/-!
# Searching lines

* `LineSearch`: what is searched for, and what counts as a match.
* `grepTool`: shows the lines that match.
-/

namespace MatrixFlow.Script

open ToolM

/-- What is searched for in a line, and what counts as a match. -/
structure LineSearch where
  regex : Regex
  ignoreCase : Bool
  /-- A match stands between other characters than those of words. -/
  words : Bool
  /-- A match is the whole line. -/
  lines : Bool

namespace LineSearch

/-- The longest match that begins at a place. -/
def matchHere? (s : LineSearch) (before cs : Octets) : Option (Octets × Octets) :=
  let start : Regex.Place := ⟨0, before, cs, []⟩
  let found := Regex.places ⟨s.ignoreCase, false⟩ (s.regex.looksBack || s.words || s.lines) s.regex
    start
  let counts (p : Regex.Place) : Bool :=
    (!s.lines || (before.isEmpty && p.rest.isEmpty)) &&
      (!s.words || (!before.head?.any Regex.isWordChar && !p.rest.head?.any Regex.isWordChar))
  (Regex.longest? (found.filter counts)).map fun p =>
    ((p.before.take p.offset).reverse, p.rest)

/-- The first match from a place on: what stands before it, the match, and what follows. -/
def findFrom? (s : LineSearch) (before : Octets) : Octets → Option (Octets × Octets × Octets)
  | [] => (s.matchHere? before []).map fun (text, after) => ([], text, after)
  | c :: rest =>
    let rules : Regex.MatchRules := ⟨s.ignoreCase, false⟩
    let here := if s.regex.mayBeEmpty || s.regex.mayBegin rules c then
        s.matchHere? before (c :: rest)
      else none
    match here with
    | some (text, after) => some ([], text, after)
    | none =>
      (findFrom? s (c :: before) rest).map fun (skipped, text, after) => (c :: skipped, text, after)

/-- The line matches. -/
def isIn (s : LineSearch) (line : Octets) : Bool := (s.findFrom? [] line).isSome

/-- All matches in a line that are not empty, with their positions. -/
def matchesFrom (s : LineSearch) : (fuel : Nat) → (offset : Nat) → Octets → Octets →
    List (Nat × Octets)
  | 0, _, _, _ => []
  | fuel + 1, offset, before, cs =>
    match s.findFrom? before cs with
    | none => []
    | some (skipped, text, after) =>
      let passed := text.reverse ++ skipped.reverse ++ before
      match text, after with
      | [], [] => []
      | [], c :: after =>
        matchesFrom s fuel (offset + skipped.length + 1) (c :: passed) after
      | _, _ =>
        (offset + skipped.length, text) ::
          matchesFrom s fuel (offset + skipped.length + text.length) passed after

end LineSearch

/-! ## Files below directories -/

/-- The files at a path and below, by paths that begin with the one that is given; some names are
left out. -/
def filesBelow (keeps : String → Bool) (keepsDirectory : String → Bool) (path : Octets) :
    ToolM (List Octets) := do
  let files := (← get).files
  let parts ← resolve path
  if !files.isDirectory parts then return [path]
  let below := files.entries.filterMap fun (p, e) =>
    let inner := p.drop parts.length
    let isFile := match e with | .file .. => true | _ => false
    if p.take parts.length == parts && !inner.isEmpty && isFile && keeps (inner.getLast?.getD "")
        && inner.dropLast.all keepsDirectory then
      some inner
    else none
  let front := if path.getLast? == some '/' then path else path ++ ['/']
  return below.map fun inner => front ++ octets ("/".intercalate inner)

/-- A name matches a pattern for paths. -/
def nameMatches (pattern : Octets) (name : String) : Bool :=
  (Pattern.ofMarked false (pattern.map fun c => ⟨c, false⟩)).matchesText (octets name)

/-! ## The tool -/

/-- The options of `grep`. -/
def grepOptions : OptionSpec :=
  ⟨"EFGPivwxyclLqsonHhbarRIUzTuZ0123456789", "efmABCdD", "", [("regexp", "e"), ("file", "f"),
    ("ignore-case", "i"), ("no-ignore-case", "no-ignore-case"), ("invert-match", "v"),
    ("word-regexp", "w"), ("line-regexp", "x"), ("count", "c"), ("files-with-matches", "l"),
    ("files-without-match", "L"), ("quiet", "q"), ("silent", "q"), ("no-messages", "s"),
    ("only-matching", "o"), ("line-number", "n"), ("with-filename", "H"), ("no-filename", "h"),
    ("byte-offset", "b"), ("text", "a"), ("recursive", "r"), ("dereference-recursive", "R"),
    ("max-count", "m"), ("after-context", "A"), ("before-context", "B"), ("context", "C"),
    ("include", "include="), ("exclude", "exclude="), ("exclude-dir", "exclude-dir="),
    ("label", "label="), ("null", "Z"), ("null-data", "z"), ("extended-regexp", "E"),
    ("fixed-strings", "F"), ("basic-regexp", "G"), ("perl-regexp", "P"),
    ("binary-files", "binary-files="), ("directories", "d"), ("line-buffered", "line-buffered"),
    ("initial-tab", "T"), ("color", "u"), ("colour", "u")], true, 2⟩

/-- How lines of one file are shown. -/
structure LineReport where
  search : LineSearch
  options : ToolOptions
  named : Bool
  before : Nat
  after : Nat
  most : Option Nat

namespace LineReport

/-- What stands in front of a line. -/
def label (r : LineReport) (path : Octets) (sign : Char) (n offset : Nat) : Octets :=
  (if r.named then path ++ [if r.options.has 'Z' then '\x00' else sign] else []) ++
    (if r.options.has 'n' then numberOctets n ++ [sign] else []) ++
    (if r.options.has 'b' then numberOctets offset ++ [sign] else [])

/-- The lines of a text, each with its offset and whether it is selected. -/
def select (r : LineReport) (ls : List Octets) : List (Octets × Nat × Bool) :=
  (ls.foldl (fun (found, offset) line =>
    ((line, offset, r.search.isIn line != r.options.has 'v') :: found, offset + line.length + 1))
    (([] : List _), 0)).1.reverse

/-- The numbers of the lines that are selected, at most so many. -/
def hits (r : LineReport) (rows : List (Octets × Nat × Bool)) : List Nat :=
  let all := (rows.zipIdx.filter fun ((_, _, hit), _) => hit).map (·.2)
  match r.most with
  | some n => all.take n
  | none => all

/-- Shows the lines of a file: those that are selected, and those around them. -/
def showLines (r : LineReport) (path : Octets) (rows : List (Octets × Nat × Bool))
    (hits : List Nat) : ToolM Unit := do
  let stop := match r.most, hits.getLast? with
    | some n, some last =>
      if hits.length = n then
        let next := (rows.zipIdx.find? fun ((_, _, hit), i) => hit && last < i).map (·.2)
        next.getD rows.length
      else rows.length
    | _, _ => rows.length
  let isHit := hits.foldl (fun (a : Array Bool) i => a.setIfInBounds i true)
    (Array.replicate rows.length false)
  let near := hits.foldl (fun (a : Array Bool) i =>
    (List.range (r.before + r.after + 1)).foldl (fun a k =>
      if i + k < r.before then a
      else
        let j := i + k - r.before
        if j < stop || j ≤ i then a.setIfInBounds j true else a) a)
    (Array.replicate rows.length false)
  let _ ← rows.zipIdx.foldlM (fun (last : Option Nat) ((line, offset, _), i) => do
    if !near.getD i false then return last
    if (r.before > 0 || r.after > 0) && last.any (fun l => l + 1 < i) then sayLine ['-', '-']
    let hit := isHit.getD i false
    if r.options.has 'o' then
      if hit && !r.options.has 'v' then
        (r.search.matchesFrom (line.length + 1) 0 [] line).forM fun (at', text) =>
          sayLine (r.label path ':' (i + 1) (offset + at') ++ text)
    else
      sayLine (r.label path (if hit then ':' else '-') (i + 1) offset ++ line)
    return some i) none

end LineReport

/-- The patterns that are searched for; lines of a text are patterns of their own. -/
def grepPatterns (o : ToolOptions) : ToolM (Except Octets (List Octets × List Octets)) := do
  let lists ← (o.values 'f').mapM fun path => do
    match ← contents path with
    | .ok text => return Except.ok (bareLines text)
    | .error e => return .error (fileMessage path e)
  match lists.mapM id with
  | .error message => return .error message
  | .ok lists =>
    let given := (o.values 'e').flatMap (Text.splitOn '\n') ++ lists.flatten
    if (o.value? 'e').isSome || (o.value? 'f').isSome then return .ok (given, o.rest)
    else return .ok ((o.rest.head?.map (Text.splitOn '\n')).getD [], o.rest.drop 1)

/-- The expression that one of the patterns is, in the form that options ask for. -/
def grepRegex (name : Octets) (o : ToolOptions) (patterns : List Octets) :
    Except RegexFault (Option Regex) := do
  let kind := (o.last? ['E', 'F', 'G', 'P']).getD
    (if name == octets "egrep" then 'E' else if name == octets "fgrep" then 'F' else 'G')
  let parts ← patterns.mapM fun p =>
    match kind with
    | 'F' => .ok (Regex.literal p)
    | 'E' => Regex.ofText .search p
    | 'P' => Regex.ofText .lettered p
    | _ => Regex.ofText .basicSearch p
  match parts with
  | [] => return none
  | first :: rest => return some (rest.foldl Regex.either first)

/-- The tool `grep`. -/
def grepTool : Tool := do
  let call ← read
  let o := ToolOptions.read grepOptions none call.args
  let usage : Tool := do
    modify fun s => { s with writes := (2, octets
      "Usage: grep [OPTION]... PATTERNS [FILE]...\nTry 'grep --help' for more information.\n") ::
      s.writes }
    return 2
  match o.fault with
  | some f =>
    warn f.text
    usage
  | none =>
    if o.rest.isEmpty && (o.value? 'e').isNone && (o.value? 'f').isNone then usage
    else match ← grepPatterns o with
      | .error message =>
        warn message
        return 2
      | .ok (patterns, paths) =>
        match grepRegex call.name o patterns with
        | .error f =>
          warn (octets f.text)
          return 2
        | .ok regex => search o regex paths
where
  /-- Searches files. -/
  search (o : ToolOptions) (regex : Option Regex) (paths : List Octets) : Tool := do
    let short := o.given.filterMap fun (k, _) => match k.toList with
      | [c] => if c.isDigit then some c else none
      | _ => none
    let context := ((o.value? 'C').or (if short.isEmpty then none else some short)).bind natural?
    let number (c : Char) : Nat := (((o.value? c).bind natural?).or context).getD 0
    let deep := o.has 'r' || o.has 'R' || o.value? 'd' == some (octets "recurse")
    let keeps (name : String) : Bool :=
      let included := (o.given.filter fun (k, _) => k == "include=").map (·.2)
      let excluded := (o.given.filter fun (k, _) => k == "exclude=").map (·.2)
      (included.isEmpty || included.any fun p => nameMatches p name) &&
        !(excluded.any fun p => nameMatches p name)
    let keepsDirectory (name : String) : Bool :=
      !(o.given.any fun (k, p) => k == "exclude-dir=" && nameMatches p name)
    let all ← if !deep then pure paths
      else if paths.isEmpty then do
        let found ← filesBelow keeps keepsDirectory ['.']
        pure (found.map (·.drop 2))
      else List.flatten <$> paths.mapM (filesBelow keeps keepsDirectory)
    let named := (deep || paths.length > 1 || o.has 'H') && o.last? ['h', 'H'] != some 'h'
    let report : LineReport := {
      search := ⟨regex.getD .empty, o.has 'i' || o.has 'y', o.has 'w', o.has 'x'⟩
      options := o, named, before := number 'B', after := number 'A'
      most := (o.value? 'm').bind natural? }
    let shown := if all.isEmpty && !deep then [['-']] else all
    let results ← shown.mapM fun path => do
      match ← contents path with
      | .error e =>
        let quiet := o.has 's' || (e == .isDirectory && o.value? 'd' == some (octets "skip"))
        if !quiet then warn (fileMessage path e)
        return (0, e == .isDirectory && o.value? 'd' == some (octets "skip"))
      | .ok text =>
        let label := if path == ['-'] then (o.valueOf? "label=").getD (octets "(standard input)")
          else path
        let ended := if o.has 'z' then '\x00' else '\n'
        let pieces := Text.splitOn ended text
        let ls := if pieces.getLast? == some [] then pieces.dropLast else pieces
        let rows := report.select ls
        let rows := if regex.isSome then rows
          else rows.map fun (line, offset, _) => (line, offset, o.has 'v')
        let hits := report.hits rows
        let most := if o.has 'q' || o.has 'l' || o.has 'L' then some 1 else report.most
        match most, (hits.take (most.getD 0)).getLast? with
        | some n, some last =>
          let used := total ((ls.take (last + 1)).map (·.length + 1))
          let isFile := (← read).inputSize.isSome
          let used := if isFile && report.most.isNone then roundedUp used 98304 else used
          if n ≤ hits.length then leaveBehind path text used 65536
        | _, _ => pure ()
        let binary := text.contains '\x00' && !o.has 'a' && !o.has 'z'
        if o.has 'q' then pure ()
        else if o.has 'c' then
          let front := if named then label ++ [':'] else []
          sayLine (front ++ numberOctets hits.length)
        else if o.has 'l' then
          if !hits.isEmpty then sayLine label
        else if o.has 'L' then
          if hits.isEmpty then sayLine label
        else if binary then
          if !hits.isEmpty then sayLine (octets "grep: " ++ label ++ octets ": binary file matches")
        else report.showLines label rows hits
        return (hits.length, true)
    let found := results.any fun (n, _) => n > 0
    let failed := results.any fun (_, read) => !read
    return if failed && !(o.has 'q' && found) then 2 else if found then 0 else 1

end MatrixFlow.Script
