import MatrixFlow.Script.Tool.Basic

/-!
# Tools for lines

Tools that show lines or parts of them, number them, join them or break them.

* `catTool`, `tacTool`, `revTool`, `headTool`, `tailTool`: the lines of files.
* `nlTool`, `pasteTool`, `foldTool`, `expandTool`: lines with something added.
* `wcTool`: counts.
-/

namespace MatrixFlow.Script

open ToolM

/-- Blanks. -/
def blanks (n : Nat) : Octets := List.replicate n ' '

/-- A text at the right end of a field. -/
def atRight (width : Nat) (cs : Octets) : Octets := blanks (width - cs.length) ++ cs

/-! ## Whole lines -/

/-- A character as it is made visible. -/
def visible (c : Char) : Octets :=
  let n := c.toNat
  let low (n : Nat) : Octets :=
    if n < 32 then ['^', Char.ofNat (n + 64)] else if n = 127 then ['^', '?'] else [Char.ofNat n]
  if c == '\n' || c == '\t' then [c]
  else if n < 128 then low n else 'M' :: '-' :: low (n - 128)

/-- Of blank lines that follow one another only the first stays. -/
def squeezeBlank : List Octets → List Octets
  | a :: b :: rest =>
    if a == ['\n'] && b == ['\n'] then squeezeBlank (b :: rest) else a :: squeezeBlank (b :: rest)
  | rest => rest

/-- Lines with their numbers, from one on. -/
def numberLines (skipsBlank : Bool) : Nat → List Octets → List Octets
  | _, [] => []
  | n, line :: rest =>
    if skipsBlank && line == ['\n'] then line :: numberLines skipsBlank n rest
    else (atRight 6 (numberOctets n) ++ '\t' :: line) :: numberLines skipsBlank (n + 1) rest

/-- The options of `cat`. -/
def catOptions : OptionSpec :=
  .of "AbeEnstTuv" "" [("show-all", "A"), ("number-nonblank", "b"), ("show-ends", "E"),
    ("number", "n"), ("squeeze-blank", "s"), ("show-tabs", "T"), ("show-nonprinting", "v")]

/-- The tool `cat`. -/
def catTool : Tool := withOptions catOptions fun o => do
  let any (letters : List Char) : Bool := letters.any o.has
  if o.given.all fun (k, _) => k == "u" then
    let lost ← forInputs o.rest fileMessage fun _ text => say text
    return if lost = 0 then 0 else 1
  else
    let (found, lost) ← inputs o.rest fileMessage
    let ls := fullLines (found.flatMap (·.2))
    let ls := if o.has 's' then squeezeBlank ls else ls
    let ls := ls.map fun line =>
      let line := if any ['A', 'v', 'e', 't'] then line.flatMap visible else line
      let line := if any ['A', 'T', 't'] then
          line.flatMap fun c => if c == '\t' then ['^', 'I'] else [c]
        else line
      if any ['A', 'E', 'e'] && line.getLast? == some '\n' then line.dropLast ++ ['$', '\n']
      else line
    let blank (line : Octets) : Bool := line == ['\n'] || line == ['$', '\n']
    let ls := if o.has 'b' then
        let numbered := numberLines true 1 (ls.map fun l => if blank l then ['\n'] else l)
        (numbered.zip ls).map fun (n, l) => if blank l then l else n
      else if o.has 'n' then numberLines false 1 ls else ls
    say ls.flatten
    return if lost = 0 then 0 else 1

/-- The tool `tac`. -/
def tacTool : Tool :=
  withOptions (.of "br" "s" [("before", "b"), ("regex", "r"), ("separator", "s")]) fun o => do
    let lost ← forInputs o.rest openMessage fun _ text => say (fullLines text).reverse.flatten
    return if lost = 0 then 0 else 1

/-- The tool `rev`. -/
def revTool : Tool := withOptions (.of "" "" []) fun o => do
  let lost ← forInputs o.rest fileMessage fun _ text =>
    (fullLines text).forM fun line =>
      say (if line.getLast? = some '\n' then line.dropLast.reverse ++ ['\n'] else line.reverse)
  return if lost = 0 then 0 else 1

/-! ## Ends of files -/

/-- A count with the letter of a unit. -/
def countWithUnit? (cs : Octets) : Option Nat :=
  let digits := cs.takeWhile Char.isDigit
  let factor := match String.ofList (cs.drop digits.length) with
    | "" => some 1
    | "b" => some 512
    | "K" | "k" | "KiB" => some 1024
    | "kB" | "KB" => some 1000
    | "M" | "MiB" => some (1024 * 1024)
    | "MB" => some 1000000
    | "G" | "GiB" => some (1024 * 1024 * 1024)
    | "GB" => some 1000000000
    | _ => none
  match natural? digits, factor with
  | some n, some f => some (n * f)
  | none, some f => if digits.isEmpty && f > 1 then some f else none
  | _, none => none

/-- A count of lines in the short form, as an option of its own. -/
def shortCount : List Octets → List Octets
  | ('-' :: c :: r) :: rest =>
    if c.isDigit then
      let digits := (c :: r).takeWhile Char.isDigit
      let letters := (c :: r).drop digits.length
      let flags := if letters.isEmpty then [] else ['-' :: letters]
      ['-', 'n'] :: digits :: flags ++ rest
    else ('-' :: c :: r) :: rest
  | args => args

/-- The options of `head` and `tail`. -/
def endOptions : OptionSpec :=
  .of "qvzfF" "ncs" [("lines", "n"), ("bytes", "c"), ("quiet", "q"), ("silent", "q"),
    ("verbose", "v"), ("zero-terminated", "z"), ("follow", "f"), ("sleep-interval", "s")]

/-- Shows one end of each file. With `first`, what follows it is not used. -/
def showEnd (first : Bool) (part : (bytes : Bool) → Octets → Octets → Option Octets) : Tool := do
  let call ← read
  (withOptions endOptions fun o => do
    let bytes := o.last? ['c', 'n'] == some 'c'
    let count := (if bytes then o.value? 'c' else o.value? 'n').getD ['1', '0']
    if (part bytes count []).isNone then
      let digits := if count.head? == some '-' then count.drop 1 else count
      warn (octets (if bytes then "invalid number of bytes: '" else "invalid number of lines: '") ++
        digits ++ ['\x27'])
      return 1
    let many := o.has 'v' || (o.rest.length > 1 && !o.has 'q')
    let paths := if o.rest.isEmpty then [['-']] else o.rest
    let done ← paths.zipIdx.mapM fun (path, i) => do
      let title : ToolM Unit := do
        if many then
          if i > 0 then say ['\n']
          sayLine (octets "==> " ++ (if path == ['-'] then octets "standard input" else path) ++
            octets " <==")
      match ← contents path with
      | .ok text =>
        title
        let shown := (part bytes count text).getD []
        say shown
        if first then leaveBehind path text shown.length (if bytes then 1 else 8192)
        return true
      | .error .isDirectory =>
        title
        warn (octets "error reading '" ++ path ++ octets "': Is a directory")
        return false
      | .error e =>
        warn (openMessage path e)
        return false
    return if done.all id then 0 else 1).run { call with args := shortCount call.args }

/-- The first lines or bytes; with a minus sign, all but so many at the end. -/
def firstPart (bytes : Bool) (count text : Octets) : Option Octets :=
  let (butLast, digits) := match count with
    | '-' :: r => (true, r)
    | r => (false, r)
  (countWithUnit? digits).map fun n =>
    if bytes then (if butLast then text.take (text.length - n) else text.take n)
    else
      let ls := fullLines text
      (if butLast then ls.take (ls.length - n) else ls.take n).flatten

/-- The last lines or bytes; with a plus sign, those from a position on. -/
def lastPart (bytes : Bool) (count text : Octets) : Option Octets :=
  let (fromStart, digits) := match count with
    | '+' :: r => (true, r)
    | '-' :: r => (false, r)
    | r => (false, r)
  (countWithUnit? digits).map fun n =>
    if bytes then (if fromStart then text.drop (n - 1) else text.drop (text.length - n))
    else
      let ls := fullLines text
      (if fromStart then ls.drop (n - 1) else ls.drop (ls.length - n)).flatten

/-- The tool `head`. -/
def headTool : Tool := showEnd true firstPart

/-- The tool `tail`. -/
def tailTool : Tool := showEnd false lastPart

/-! ## Counts -/

/-- Words are separated by blanks. -/
def wordCount (inWord : Bool) : Octets → Nat
  | [] => if inWord then 1 else 0
  | c :: r =>
    if c == ' ' || ('\t' ≤ c && c ≤ '\r') then (if inWord then 1 else 0) + wordCount false r
    else wordCount true r

/-- How many columns a line takes. -/
def lineColumns (line : Octets) : Nat :=
  line.foldl (fun n c =>
    if c == '\t' then n + 8 - n % 8 else if c.toNat < 32 || c.toNat ≥ 127 then n else n + 1) 0

/-- The options of `wc`. -/
def wcOptions : OptionSpec :=
  .of "lwcmL" "" [("lines", "l"), ("words", "w"), ("bytes", "c"), ("chars", "m"),
    ("max-line-length", "L")]

/-- The tool `wc`. -/
def wcTool : Tool := withOptions wcOptions fun o => do
  let call ← read
  let standard := o.given.isEmpty
  let counts (text : Octets) : List Nat :=
    (if standard || o.has 'l' then [(text.filter (· == '\n')).length] else []) ++
    (if standard || o.has 'w' then [wordCount false text] else []) ++
    (if o.has 'm' then [text.length] else []) ++
    (if standard || o.has 'c' then [text.length] else [])
  let longest (text : Octets) : List Nat :=
    if o.has 'L' then [((bareLines text).map lineColumns).foldl max 0] else []
  let paths := if o.rest.isEmpty then [['-']] else o.rest
  let found ← paths.mapM fun path => do
    return (path, ← contents path)
  let isFile (path : Octets) : ToolM Bool := do
    return match (← get).files.find (← resolve path) with
      | .ok (.file ..) => true
      | _ => false
  let sizes ← found.mapM fun (path, text) => do
    match text with
    | .ok cs =>
      if path == ['-'] then return (call.inputSize, true)
      else return (if ← isFile path then some cs.length else none, true)
    | .error e => return (none, e == .isDirectory)
  let columns := (counts []).length + (longest []).length
  let width := if paths.length = 1 && columns = 1 then 1
    else if (sizes.head?.map (·.2)) == some false then 1
    else
      let known := sizes.filter (·.2)
      let size := (numberOctets (total (known.filterMap (·.1)))).length
      if known.all fun (n, _) => n.isSome then size else max 7 size
  let row (path : Octets) (ns : List Nat) : ToolM Unit := do
    let line := Text.joinWith [' '] (ns.map fun n => atRight width (numberOctets n))
    sayLine (if path.isEmpty then line else line ++ ' ' :: path)
  found.forM fun (path, text) => do
    let shown := if o.rest.isEmpty then [] else path
    match text with
    | .ok cs => row shown (counts cs ++ longest cs)
    | .error e =>
      warn (fileMessage path e)
      if e == .isDirectory then row shown (counts [] ++ longest [])
  let texts := found.filterMap fun (_, text) => text.toOption
  if o.rest.length > 1 then
    let sums := (texts.map counts).foldl (fun a b => a.zipWith (· + ·) b) (counts [])
    let most := (texts.map longest).foldl (fun a b => a.zipWith max b) (longest [])
    row (octets "total") (sums ++ most)
  return if texts.length = found.length then 0 else 1

/-! ## Numbers in front of lines -/

/-- The options of `nl`. -/
def nlOptions : OptionSpec :=
  .of "p" "bdfhilnsvw" [("body-numbering", "b"), ("line-increment", "i"), ("number-format", "n"),
    ("number-separator", "s"), ("starting-line-number", "v"), ("number-width", "w"),
    ("join-blank-lines", "l")]

/-- The tool `nl`. -/
def nlTool : Tool := withOptions nlOptions fun o => do
  let style := (o.value? 'b').getD ['t']
  let step := ((o.value? 'i').bind natural?).getD 1
  let start := ((o.value? 'v').bind natural?).getD 1
  let width := ((o.value? 'w').bind natural?).getD 6
  let separator := (o.value? 's').getD ['\t']
  let format := (o.value? 'n').getD ['r', 'n']
  let (found, lost) ← inputs o.rest fileMessage
  let ls := bareLines (found.flatMap (·.2))
  let number (n : Nat) : Octets :=
    let digits := numberOctets n
    let gap := width - digits.length
    match format with
    | ['l', 'n'] => digits ++ blanks gap
    | ['r', 'z'] => List.replicate gap '0' ++ digits
    | _ => blanks gap ++ digits
  let counts (line : Octets) : Bool := style == ['a'] || (style != ['n'] && !line.isEmpty)
  let _ ← ls.foldlM (fun (n : Nat) line => do
    if counts line then
      sayLine (number n ++ separator ++ line)
      return n + step
    else
      sayLine (blanks (width + separator.length) ++ line)
      return n) start
  return if lost = 0 then 0 else 1

/-! ## Columns of files -/

/-- The separators of a list, with escapes. -/
def separatorList : Octets → List Octets
  | '\\' :: c :: r =>
    (match c with
      | 'n' => ['\n']
      | 't' => ['\t']
      | '0' => []
      | c => [c]) :: separatorList r
  | c :: r => [c] :: separatorList r
  | [] => []

/-- Texts with separators between them, which take turns. -/
def joinInTurns (separators : List Octets) : Nat → List Octets → Octets
  | _, [] => []
  | _, [last] => last
  | i, a :: rest =>
    a ++ (separators[i % max 1 separators.length]?).getD [] ++ joinInTurns separators (i + 1) rest

/-- The tool `paste`. -/
def pasteTool : Tool :=
  withOptions (.of "sz" "d" [("serial", "s"), ("delimiters", "d")]) fun o => do
    let separators := separatorList ((o.value? 'd').getD ['\t'])
    let paths := if o.rest.isEmpty then [['-']] else o.rest
    let found ← paths.mapM fun path => do
      match ← contents path with
      | .ok text => return some (path, bareLines text)
      | .error e =>
        warn (fileMessage path e)
        return none
    if found.any Option.isNone && !o.has 's' then return 1
    let files := found.filterMap id
    if o.has 's' then
      files.forM fun (_, ls) => sayLine (joinInTurns separators 0 ls)
    else
      let shares := (files.filter fun (path, _) => path == ['-']).length
      let dealt := files.zipIdx.map fun ((path, ls), i) =>
        if path == ['-'] then
          let own := ((files.take i).filter fun (p, _) => p == ['-']).length
          (ls.zipIdx.filter fun (_, j) => j % shares = own).map (·.1)
        else ls
      let rows := (dealt.map List.length).foldl max 0
      (List.range rows).forM fun i =>
        sayLine (joinInTurns separators 0 (dealt.map fun ls => (ls[i]?).getD []))
    return if found.all Option.isSome then 0 else 1

/-! ## Breaking lines -/

/-- The column behind a character. -/
def columnAfter (bytes : Bool) (column : Nat) (c : Char) : Nat :=
  if bytes then column + 1
  else if c == '\t' then column + 8 - column % 8
  else if c == '\x08' then column - 1
  else if c == '\r' then 0
  else column + 1

/-- A line in pieces of at most a width; `piece` is the present one, reversed. -/
def foldLine (bytes atBlanks : Bool) (width : Nat) (column : Nat) (piece : Octets) :
    Octets → List Octets
  | [] => if piece.isEmpty then [] else [piece.reverse]
  | c :: r =>
    let next := columnAfter bytes column c
    if next ≤ width || piece.isEmpty then foldLine bytes atBlanks width next (c :: piece) r
    else
      let tail := piece.takeWhile (· != ' ')
      if atBlanks && tail.length < piece.length then
        let kept := piece.drop tail.length
        let column := tail.reverse.foldl (columnAfter bytes) 0
        kept.reverse :: foldLine bytes atBlanks width (columnAfter bytes column c) (c :: tail) r
      else piece.reverse :: foldLine bytes atBlanks width (columnAfter bytes 0 c) [c] r

/-- The tool `fold`. -/
def foldTool : Tool :=
  withOptions (.of "bs" "w" [("bytes", "b"), ("spaces", "s"), ("width", "w")]) fun o => do
    let width := ((o.value? 'w').bind natural?).getD 80
    let lost ← forInputs o.rest fileMessage fun _ text =>
      (fullLines text).forM fun line => do
        let ended := line.getLast? == some '\n'
        let pieces := foldLine (o.has 'b') (o.has 's') width 0 []
          (if ended then line.dropLast else line)
        say (Text.joinWith ['\n'] pieces ++ if ended then ['\n'] else [])
    return if lost = 0 then 0 else 1

/-- A line with blanks in the place of tabs. -/
def withoutTabs (size : Nat) (initial : Bool) (column : Nat) : Octets → Octets
  | [] => []
  | c :: r =>
    if c == '\t' then
      let gap := size - column % size
      blanks gap ++ withoutTabs size initial (column + gap) r
    else if initial && c != ' ' then c :: r
    else c :: withoutTabs size initial (column + 1) r

/-- The tool `expand`. -/
def expandTool : Tool :=
  withOptions (.of "i" "t" [("initial", "i"), ("tabs", "t")]) fun o => do
    let size := max 1 (((o.value? 't').bind natural?).getD 8)
    let lost ← forInputs o.rest fileMessage fun _ text =>
      (fullLines text).forM fun line => say (withoutTabs size (o.has 'i') 0 line)
    return if lost = 0 then 0 else 1

/-- A line with tabs in the place of blanks that reach a tab stop; `gap` blanks are waiting. -/
def withTabs (size : Nat) (all : Bool) (column gap : Nat) : Octets → Octets
  | [] => blanks gap
  | c :: r =>
    if c == ' ' then
      if (column + 1) % size = 0 && (gap > 0 || column % size = size - 1) then
        (if gap = 0 then [' '] else ['\t']) ++ withTabs size all (column + 1) 0 r
      else withTabs size all (column + 1) (gap + 1) r
    else if c == '\t' then '\t' :: withTabs size all (column + size - column % size) 0 r
    else if all then blanks gap ++ c :: withTabs size all (column + 1) 0 r
    else blanks gap ++ c :: r

/-- The tool `unexpand`. -/
def unexpandTool : Tool :=
  withOptions (.of "a" "t" [("all", "a"), ("tabs", "t")]) fun o => do
    let size := max 1 (((o.value? 't').bind natural?).getD 8)
    let all := o.has 'a' || (o.value? 't').isSome
    let lost ← forInputs o.rest fileMessage fun _ text =>
      (fullLines text).forM fun line => say (withTabs size all 0 0 line)
    return if lost = 0 then 0 else 1

end MatrixFlow.Script
