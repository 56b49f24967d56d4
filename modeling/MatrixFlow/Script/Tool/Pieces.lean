import MatrixFlow.Script.Cursor
import MatrixFlow.Script.Directive
import MatrixFlow.Script.Tool.Basic

/-!
# Tools that cut files

* `splitTool`: the tool `split`, which writes pieces of a file to files of their own.
* `truncateTool`: the tool `truncate`, which sets the size of files.
* `mktempTool`: the tool `mktemp`, which makes files with new names.
* `ddTool`: the tool `dd`, which copies blocks.
-/

namespace MatrixFlow.Script

open ToolM

/-! ## Sizes -/

/-- The factor of a suffix: powers of 1024, or of 1000 in front of a `B`. -/
def sizeFactor? (suffix : Octets) : Option Nat :=
  let power? (c : Char) : Option Nat :=
    ['K', 'M', 'G', 'T', 'P', 'E'].findIdx? (· == c) |>.map (· + 1)
  match suffix with
  | [] => some 1
  | ['b'] => some 512
  | ['c'] => some 1
  | ['w'] => some 2
  | ['k'] => some 1024
  | ['k', 'B'] => some 1000
  | [c] => (power? c).map (Nat.pow 1024)
  | [c, 'B'] => (power? c).map (Nat.pow 1000)
  | [c, 'i', 'B'] => (power? c).map (Nat.pow 1024)
  | _ => none

/-- A size with its suffix. -/
def sizeNumber? (cs : Octets) : Option Nat :=
  let digits := cs.takeWhile Char.isDigit
  if digits.isEmpty then none
  else (sizeFactor? (cs.drop digits.length)).map
    fun k => (leadingNumber 10 digits.length digits).1 * k

/-! ## Splitting -/

/-- How a file is split. -/
inductive SplitRule where
  | lines (n : Nat)
  | bytes (n : Nat)
  /-- Whole lines, as many as fit. -/
  | lineBytes (n : Nat)
  /-- So many pieces; of whole lines, or with the lines handed out in turn. -/
  | chunks (n : Nat)
  | lineChunks (n : Nat)
  | turns (n : Nat)
  /-- Only one of the pieces. -/
  | one (k : Nat) (rule : SplitRule)

/-- Pieces of so many items. -/
def groupsOf {α : Type} (n : Nat) : (fuel : Nat) → List α → List (List α)
  | 0, _ => []
  | _, [] => []
  | fuel + 1, items => items.take n :: groupsOf n fuel (items.drop n)

/-- Whole lines as long as they fit, in front of which some stand already. -/
def packLines (n : Nat) (packed : Octets) : List Octets → List Octets
  | [] => if packed.isEmpty then [] else [packed]
  | line :: rest =>
    if packed.length + line.length ≤ n then packLines n (packed ++ line) rest
    else if packed.isEmpty then
      groupsOf n (line.length + 1) line ++ packLines n [] rest
    else
      let cut := groupsOf n (line.length + 1) line
      if line.length ≤ n then packed :: packLines n line rest
      else packed :: cut.dropLast ++ packLines n (cut.getLast?.getD []) rest

/-- The pieces of a file whose number is given; lines end in a character. -/
def SplitRule.pieces (ending : Char) (cs : Octets) : SplitRule → List Octets
  | .lines n => (groupsOf n (cs.length + 1) (lines cs)).map List.flatten
  | .bytes n => groupsOf n (cs.length + 1) cs
  | .lineBytes n => packLines n [] (lines cs)
  | .chunks n =>
    let size := cs.length / n
    let larger := cs.length % n
    (List.range n).map fun i =>
      (cs.drop (i * size + min i larger)).take (size + if i < larger then 1 else 0)
  | .lineChunks n =>
    let size := cs.length / n
    let larger := cs.length % n
    let starts := (lines cs).foldl
      (fun (found : List (Nat × Octets) × Nat) line =>
        ((found.2, line) :: found.1, found.2 + line.length)) ([], 0)
    let ends (i : Nat) : Nat := (i + 1) * size + min (i + 1) larger
    (List.range n).map fun i =>
      (starts.1.reverse.filter fun (start, _) =>
        start < ends i && (i = 0 || ends (i - 1) ≤ start)).flatMap (·.2)
  | .turns n =>
    let numbered := (lines cs).zipIdx
    (List.range n).map fun i => (numbered.filter fun (_, k) => k % n = i).flatMap (·.1)
  | .one k rule => [(pieces ending cs rule).getD (k - 1) []]
where
  /-- The lines with their endings. -/
  lines (cs : Octets) : List Octets :=
    let pieces := Text.splitOn ending cs
    let ended := pieces.dropLast.map (· ++ [ending])
    match pieces.getLast? with
    | some [] | none => ended
    | some last => ended ++ [last]

/-- The letters of a number at the end of a name. -/
def nameDigits (alphabet : List Char) (width n : Nat) : Octets :=
  match width with
  | 0 => []
  | width + 1 =>
    nameDigits alphabet width (n / alphabet.length) ++
      [alphabet.getD (n % alphabet.length) 'a']

/-- How the pieces are asked for with the option for chunks. -/
def chunkRule? (text : Octets) : Option SplitRule :=
  let plain (make : Nat → SplitRule) (cs : Octets) : Option SplitRule :=
    match (Text.splitOn '/' cs).map sizeNumber? with
    | [some n] => if n = 0 then none else some (make n)
    | [some k, some n] => if k = 0 || n < k then none else some (.one k (make n))
    | _ => none
  match text with
  | 'l' :: '/' :: r => plain .lineChunks r
  | 'r' :: '/' :: r => plain .turns r
  | r => plain .chunks r

/-- The rule that options ask for, or what is wrong with them. -/
def splitRule (o : ToolOptions) : Except Octets SplitRule :=
  let asked := o.given.filter fun (k, _) =>
    ["l", "b", "C", "n"].contains k || k.toList.all Char.isDigit
  match asked with
  | [] => .ok (.lines 1000)
  | [(k, text)] =>
    let counted (what : String) (make : Nat → SplitRule) : Except Octets SplitRule :=
      match sizeNumber? text with
      | some n =>
        if n = 0 then .error (octets ("invalid number of " ++ what ++ ": '") ++ text ++ ['\x27'])
        else .ok (make n)
      | none => .error (octets ("invalid number of " ++ what ++ ": '") ++ text ++ ['\x27'])
    match k with
    | "b" => counted "bytes" .bytes
    | "C" => counted "lines" .lineBytes
    | "n" =>
      match chunkRule? text with
      | some rule => .ok rule
      | none => .error (octets "invalid number of chunks: '" ++ text ++ ['\x27'])
    | _ => counted "lines" .lines
  | _ => .error (octets "cannot split in more than one way")

/-- Arguments where a count of lines may stand as an option by itself. -/
def withLineCounts (args : List Octets) : List Octets :=
  args.map fun a =>
    match a with
    | '-' :: c :: r => if c.isDigit then ['-', 'l'] ++ c :: r else a
    | a => a

/-- The tool `split`. -/
def splitTool : Tool := do
  let call ← read
  ReaderT.adapt (fun c => { c with args := withLineCounts call.args }) <| withOptions
    ⟨"dxeuz", "lbCnat", "", [("lines", "l"), ("bytes", "b"), ("line-bytes", "C"), ("number", "n"),
      ("suffix-length", "a"), ("numeric-suffixes", "d"), ("hex-suffixes", "x"),
      ("additional-suffix", "more="), ("elide-empty-files", "e"), ("unbuffered", "u"),
      ("verbose", "verbose"), ("separator", "t")], true, 1⟩ fun o => do
    let help := octets "\nTry '" ++ call.name ++ octets " \x2d\x2dhelp' for more information."
    match o.rest.drop 2 with
    | extra :: _ =>
      warn (octets "extra operand '" ++ extra ++ ['\x27'] ++ help)
      return 1
    | [] =>
      match splitRule o with
      | .error message =>
        warn (message ++ if message == octets "cannot split in more than one way" then help else [])
        return 1
      | .ok rule =>
        let path := o.rest.headD ['-']
        let front := (o.rest.drop 1).headD ['x']
        match ← contents path with
        | .error e =>
          warn (openMessage path e)
          return 1
        | .ok cs =>
          let ending := match o.value? 't' with
            | some (c :: _) => c
            | _ => '\n'
          let pieces := rule.pieces ending cs
          let alphabet := if o.has 'd' then "0123456789".toList
            else if o.has 'x' then "0123456789abcdef".toList
            else "abcdefghijklmnopqrstuvwxyz".toList
          let width := match (o.value? 'a').bind sizeNumber? with
            | some n => if n = 0 then 2 else n
            | none => 2
          match rule with
          | .one .. =>
            say pieces.flatten
            return 0
          | _ =>
            let pieces := if o.has 'e' then pieces.filter fun p => !p.isEmpty else pieces
            if Nat.pow alphabet.length width < pieces.length then
              warn (octets "output file suffixes exhausted")
              return 1
            pieces.zipIdx.forM fun (piece, i) => do
              let name := front ++ nameDigits alphabet width i ++
                (o.valueOf? "more=").getD []
              if o.hasName "verbose" then sayLine (octets "creating file '" ++ name ++ ['\x27'])
              let parts ← resolve name
              modify fun s => match s.files.write parts (bytesOf piece) with
                | .ok files => { s with files := files }
                | .error _ => s
            return 0

/-! ## Sizes of files -/

/-- How a size is changed. -/
def newSize? (old : Nat) (text : Octets) : Option Nat :=
  match text with
  | '+' :: r => (sizeNumber? r).map (old + ·)
  | '-' :: r => (sizeNumber? r).map (old - ·)
  | '<' :: r => (sizeNumber? r).map (min old)
  | '>' :: r => (sizeNumber? r).map (max old)
  | '/' :: r => (sizeNumber? r).bind fun n => if n = 0 then none else some (old / n * n)
  | '%' :: r => (sizeNumber? r).bind fun n =>
    if n = 0 then none else some ((old + n - 1) / n * n)
  | r => sizeNumber? r

/-- The tool `truncate`. -/
def truncateTool : Tool :=
  withOptions (.of "co" "sr" [("no-create", "c"), ("io-blocks", "o"), ("size", "s"),
      ("reference", "r")]) fun o => do
    let help := octets "\nTry '" ++ (← read).name ++ octets " \x2d\x2dhelp' for more information."
    let model ← match o.value? 'r' with
      | some path => do
        match ← contents path with
        | .ok cs => pure (some cs.length)
        | .error _ => pure none
      | none => pure none
    match o.value? 's', o.value? 'r', model with
    | none, none, _ =>
      warn (octets "you must specify either '\x2d\x2dsize' or '\x2d\x2dreference'" ++ help)
      return 1
    | none, some path, none =>
      warn (octets "cannot stat '" ++ path ++ octets "': No such file or directory")
      return 1
    | text, _, model =>
      if o.rest.isEmpty then
        warn (octets "missing file operand" ++ help)
        return 1
      else if text.any fun t => (newSize? 0 t).isNone then
        warn (octets "Invalid number: '" ++ text.getD [] ++ ['\x27'])
        return 1
      else
        let done ← o.rest.mapM fun path => do
          let files := (← get).files
          let parts ← resolve path
          let old := (files.read parts).toOption
          if old.isNone && o.has 'c' then return true
          let bytes := old.getD []
          let start := model.getD bytes.length
          let size := match text with
            | some t => (newSize? start t).getD start
            | none => start
          match files.write parts (bytes.take size ++ List.replicate (size - bytes.length) 0) with
          | .ok files =>
            modify fun s => { s with files := files }
            return true
          | .error e =>
            warn (octets "cannot open '" ++ path ++ octets "' for writing: " ++ octets e.text)
            return false
        return if done.all id then 0 else 1

/-! ## New names -/

/-- The letters that stand in for the marks of a template; `n` tells how many names are taken. -/
def templateLetters (count n : Nat) : Octets :=
  nameDigits "abcdefghijklmnopqrstuvwxyz0123456789".toList count (n + 1234567891)

/-- The tool `mktemp`. -/
def mktempTool : Tool :=
  withOptions ⟨"duqt", "p", "", [("directory", "d"), ("dry-run", "u"), ("quiet", "q"),
      ("suffix", "more="), ("tmpdir", "t")], true, 1⟩ fun o => do
    let call ← read
    match o.rest with
    | _ :: _ :: _ =>
      warn (octets "too many templates\nTry '" ++ call.name ++
        octets " \x2d\x2dhelp' for more information.")
      return 1
    | rest =>
      let template := rest.headD (octets "tmp.XXXXXXXXXX")
      let ending := (o.valueOf? "more=").getD []
      let marks := (template.reverse.dropWhile (· != 'X')).takeWhile (· == 'X')
      let behind := template.reverse.takeWhile (· != 'X') |>.reverse
      if marks.length < 3 then
        if !o.has 'q' then
          warn (octets "too few X's in template '" ++ template ++ ending ++ ['\x27'])
        return 1
      let front := template.take (template.length - marks.length - behind.length)
      let shared := ((call.environment.find? fun (k, _) => k == "TMPDIR").map (·.2)).getD
        (octets "/tmp")
      let directory := match o.value? 'p' with
        | some path => some path
        | none => if rest.isEmpty || o.has 't' then some shared else none
      let files := (← get).files
      let name := front ++ templateLetters marks.length files.entries.length ++ behind ++ ending
      let path := match directory with
        | some d => d ++ '/' :: name
        | none => name
      let parts ← resolve path
      if o.has 'u' then
        sayLine path
        return 0
      else if !files.isDirectory parts.dropLast then
        if !o.has 'q' then
          let shown := match directory with
            | some d => d ++ '/' :: template
            | none => template
          warn (octets (if o.has 'd' then "failed to create directory via template '"
              else "failed to create file via template '") ++ shown ++
            octets "': No such file or directory")
        return 1
      else
        modify fun s =>
          if o.has 'd' then { s with files := s.files.put parts .directory }
          else match s.files.write parts [] with
            | .ok files => { s with files := files }
            | .error _ => s
        sayLine path
        return 0

/-! ## Blocks -/

/-- What `dd` is asked for. -/
structure BlockRequest where
  source : Octets
  target : Option Octets
  inSize : Nat
  outSize : Nat
  count : Option Nat
  skip : Nat
  seek : Nat
  conversions : List String
  shows : String

/-- One operand of `dd`. -/
def BlockRequest.take (r : BlockRequest) (word : Octets) : Except Octets BlockRequest :=
  match Text.cut? ['='] word with
  | none => .error (octets "unrecognized operand '" ++ word ++ ['\x27'])
  | some (name, value) =>
    let number : Except Octets Nat := match sizeNumber? value with
      | some n => .ok n
      | none => .error (octets "invalid number: '" ++ value ++ ['\x27'])
    match plainString name with
    | "if" => .ok { r with source := value }
    | "of" => .ok { r with target := some value }
    | "bs" => number.map fun n => { r with inSize := n, outSize := n }
    | "ibs" => number.map fun n => { r with inSize := n }
    | "obs" => number.map fun n => { r with outSize := n }
    | "count" => number.map fun n => { r with count := some n }
    | "skip" | "iseek" => number.map fun n => { r with skip := n }
    | "seek" | "oseek" => number.map fun n => { r with seek := n }
    | "conv" => .ok { r with
        conversions := r.conversions ++ (Text.splitOn ',' value).map plainString }
    | "status" => .ok { r with shows := plainString value }
    | "iflag" | "oflag" | "cbs" => .ok r
    | _ => .error (octets "unrecognized operand '" ++ word ++ ['\x27'])

/-- Bytes with each two of them in turn. -/
def swapped : Octets → Octets
  | a :: b :: r => b :: a :: swapped r
  | r => r

/-- The tool `dd`. -/
def ddTool : Tool := do
  let call ← read
  let start : BlockRequest := ⟨['-'], none, 512, 512, none, 0, 0, [], ""⟩
  match call.args.foldlM BlockRequest.take start with
  | .error message =>
    let help := octets "\nTry '" ++ call.name ++ octets " \x2d\x2dhelp' for more information."
    warn (message ++ if (Text.startsWith (octets "unrec") message) then help else [])
    return 1
  | .ok r =>
    match ← contents r.source with
    | .error e =>
      warn (octets "failed to open '" ++ r.source ++ octets "': " ++ octets e.text)
      return 1
    | .ok cs =>
      if let some n := r.count then leaveBehind r.source cs ((r.skip + n) * r.inSize) 1
      let read := cs.drop (r.skip * r.inSize)
      let read := match r.count with
        | some n => read.take (n * r.inSize)
        | none => read
      let letters (c : Char) : Char :=
        if r.conversions.contains "ucase" then c.toUpper
        else if r.conversions.contains "lcase" then c.toLower else c
      let bytes := read.map letters
      let bytes := if r.conversions.contains "swab" then swapped bytes else bytes
      let blocks (n size : Nat) : Octets :=
        numberOctets (n / max size 1) ++ octets (if n % max size 1 = 0 then "+0" else "+1")
      let written ← match r.target with
        | none => do
          say bytes
          pure true
        | some path => do
          let files := (← get).files
          let parts ← resolve path
          let old := ((files.read parts).toOption.map ofBytes).getD []
          let front := r.seek * r.outSize
          let kept := (old.take front) ++ List.replicate (front - old.length) '\x00'
          let behind := if r.conversions.contains "notrunc" then
              old.drop (front + bytes.length) else []
          match files.write parts (bytesOf (kept ++ bytes ++ behind)) with
          | .ok files =>
            modify fun s => { s with files := files }
            pure true
          | .error e =>
            warn (octets "failed to open '" ++ path ++ octets "': " ++ octets e.text)
            pure false
      if !written then return 1
      let report (text : Octets) : ToolM Unit :=
        modify fun s => { s with writes := (2, text ++ ['\n']) :: s.writes }
      if r.shows != "none" then
        report (blocks read.length r.inSize ++ octets " records in")
        report (blocks bytes.length r.outSize ++ octets " records out")
        if r.shows != "noxfer" then
          report (numberOctets bytes.length ++ octets " bytes copied, 0 s, Infinity B/s")
      return 0

end MatrixFlow.Script
