import MatrixFlow.Script.Directive
import MatrixFlow.Script.Tool.Basic

/-!
# Tools that order lines

* `SortKey`: a part of lines by which they are ordered, and how.
* `sortTool`, `uniqTool`: lines in order, and lines that follow one another.
* `commTool`, `joinTool`: two files in order, side by side.
-/

namespace MatrixFlow.Script

open ToolM

/-! ## Comparing -/

/-- One text comes before another or is the same. -/
def upTo : Octets → Octets → Bool
  | [], _ => true
  | _ :: _, [] => false
  | a :: r, b :: s => if a = b then upTo r s else a < b

/-- The order of two texts by their bytes. -/
def byBytes (a b : Octets) : Ordering :=
  if a == b then .eq else if upTo a b then .lt else .gt

/-- The order of two values. -/
def byOrder {α : Type} [LT α] [DecidableRel (α := α) (· < ·)] (a b : α) : Ordering :=
  if a < b then .lt else if b < a then .gt else .eq

/-- A blank between fields. -/
def isBlank (c : Char) : Bool := c == ' ' || c == '\t'

/-- The decimal number at the start of a text: its sign, digits before the point without zeros in
front, and digits behind it without zeros at the end; and what follows. -/
def decimalStart (cs : Octets) : Bool × Octets × Octets × Octets :=
  let body := cs.dropWhile isBlank
  let (negative, unsigned) := match body with
    | '-' :: r => (true, r)
    | r => (false, r)
  let whole := unsigned.takeWhile Char.isDigit
  let (fraction, rest) := match unsigned.drop whole.length with
    | '.' :: r =>
      let digits := r.takeWhile Char.isDigit
      (digits, r.drop digits.length)
    | r => ([], r)
  (negative, whole.dropWhile (· == '0'), (fraction.reverse.dropWhile (· == '0')).reverse, rest)

/-- The order of two decimal numbers without their signs. -/
def byDigits (a b : Octets × Octets) : Ordering :=
  if a.1.length ≠ b.1.length then byOrder a.1.length b.1.length
  else (byBytes a.1 b.1).then (byBytes a.2 b.2)

/-- The order of the decimal numbers that two texts begin with. -/
def byNumber (a b : Octets) : Ordering :=
  let (m, x, y, _) := decimalStart a
  let (n, u, v, _) := decimalStart b
  let m := m && !(x.isEmpty && y.isEmpty)
  let n := n && !(u.isEmpty && v.isEmpty)
  match m, n with
  | false, false => byDigits (x, y) (u, v)
  | true, true => byDigits (u, v) (x, y)
  | true, false => .lt
  | false, true => .gt

/-- The rank of the unit behind a number. -/
def unitRank (cs : Octets) : Nat :=
  match cs with
  | c :: _ =>
    match "KMGTPEZYRQ".toList.findIdx? fun d => d == c || (c == 'k' && d == 'K') with
    | some i => i + 1
    | none => 0
  | [] => 0

/-- The order of numbers with units. -/
def byUnits (a b : Octets) : Ordering :=
  let rank (cs : Octets) : Int :=
    let (negative, whole, fraction, rest) := decimalStart cs
    let n := if whole.isEmpty && fraction.isEmpty then 0 else unitRank rest
    if negative then -(n : Int) else n
  let sign (cs : Octets) : Int :=
    let (negative, whole, fraction, _) := decimalStart cs
    if whole.isEmpty && fraction.isEmpty then 0 else if negative then -1 else 1
  (byOrder (sign a) (sign b)).then ((byOrder (rank a) (rank b)).then (byNumber a b))

/-- The order of numbers in any form. A text that is none comes first. -/
def byQuantity (a b : Octets) : Ordering :=
  let rank : Option (Quantity × Nat) → Nat
    | none => 0
    | some (.unknown _, _) => 1
    | some (.infinite true, _) => 2
    | some (.finite .., _) => 3
    | some (.infinite false, _) => 4
  let (x, y) := (quantity? a, quantity? b)
  match x, y with
  | some (.finite m p q, _), some (.finite n r s, _) =>
    let signed (negative : Bool) (k : Nat) : Int := if negative then -(k : Int) else k
    byOrder (signed m (p * s)) (signed n (r * q))
  | _, _ => byOrder (rank x) (rank y)

/-- The months by their first letters. -/
def monthRank (cs : Octets) : Nat :=
  let name := String.ofList (((cs.dropWhile isBlank).take 3).map Char.toUpper)
  match ["JAN", "FEB", "MAR", "APR", "MAY", "JUN", "JUL", "AUG", "SEP", "OCT", "NOV",
    "DEC"].findIdx? (· == name) with
  | some i => i + 1
  | none => 0

/-- The rank of a character in a version: a tilde comes before the end, letters before signs. -/
def versionRank : Option Char → Int
  | some '~' => -2
  | none => -1
  | some c => if c.isDigit then 0 else if c.isAlpha then c.toNat else c.toNat + 256

/-- The order of two versions: texts and numbers take turns. -/
def byVersionParts : (fuel : Nat) → Octets → Octets → Ordering
  | 0, _, _ => .eq
  | fuel + 1, a, b =>
    if a.isEmpty && b.isEmpty then .eq
    else
      let x := a.takeWhile fun c => !c.isDigit
      let y := b.takeWhile fun c => !c.isDigit
      let size := max x.length y.length
      let texts := (List.range size).foldl (fun (o : Ordering) i =>
        o.then (byOrder (rankAt x a i) (rankAt y b i))) .eq
      let (a, b) := (a.drop x.length, b.drop y.length)
      let m := a.takeWhile Char.isDigit
      let n := b.takeWhile Char.isDigit
      let digits (cs : Octets) := (cs.dropWhile (· == '0'), ([] : Octets))
      texts.then ((byDigits (digits m) (digits n)).then
        (byVersionParts fuel (a.drop m.length) (b.drop n.length)))
where
  /-- The rank of a character of a text, behind which a number follows or nothing. -/
  rankAt (text whole : Octets) (i : Nat) : Int :=
    match text[i]? with
    | some c => versionRank (some c)
    | none => if i = text.length && text.length < whole.length then 0 else versionRank none

/-- A name without the endings that begin with a point and a letter. -/
def withoutEndings (cs : Octets) : Octets :=
  go cs.length cs
where
  /-- Takes one ending after the other away. -/
  go : Nat → Octets → Octets
    | 0, cs => cs
    | fuel + 1, cs =>
      let tail := (cs.reverse.takeWhile fun c => c != '.').reverse
      let front := cs.take (cs.length - tail.length)
      let isEnding := match tail with
        | c :: r => (c.isAlpha || c == '~') && r.all fun d => d.isAlphanum || d == '~'
        | [] => false
      if isEnding && front.length > 1 then go fuel front.dropLast else cs

/-- The order of two versions. -/
def byVersion (a b : Octets) : Ordering :=
  let parts (x y : Octets) := byVersionParts (x.length + y.length + 1) x y
  if a == b then .eq
  else if a.isEmpty then .lt
  else if b.isEmpty then .gt
  else match a.head?, b.head? with
    | some '.', some '.' => parts a b
    | some '.', _ => .lt
    | _, some '.' => .gt
    | _, _ => (parts (withoutEndings a) (withoutEndings b)).then ((parts a b).then (byBytes a b))

/-! ## Keys -/

/-- Where a key begins or ends: a field, and a character in it; none is the end of the field. -/
structure KeyPlace where
  field : Nat
  char : Option Nat
  /-- Blanks at the start of the field do not count. -/
  skipsBlanks : Bool

/-- A part of lines by which they are ordered, and how. -/
structure SortKey where
  first : KeyPlace
  last : Option KeyPlace
  /-- How the parts are compared, as letters. -/
  how : Octets

/-- Fields of a line: where each begins and ends. -/
def fieldBounds (separator : Option Char) (line : Octets) : List (Nat × Nat) :=
  match separator with
  | some c =>
    ((Text.splitOn c line).foldl (fun (found, start) piece =>
      ((start, start + piece.length) :: found, start + piece.length + 1)) (([] : List _), 0)).1.reverse
  | none => go (line.length + 1) 0 line
where
  /-- A field is blanks and what follows them. -/
  go : Nat → Nat → Octets → List (Nat × Nat)
    | 0, _, _ => []
    | _, _, [] => []
    | fuel + 1, start, cs =>
      let gap := (cs.takeWhile isBlank).length
      let body := ((cs.drop gap).takeWhile fun c => !isBlank c).length
      let stop := start + gap + body
      (start, stop) :: go fuel stop (cs.drop (gap + body))

/-- The part of a line that a key names. -/
def SortKey.part (key : SortKey) (separator : Option Char) (line : Octets) : Octets :=
  let fields := fieldBounds separator line
  let size := line.length
  let skip (on : Bool) (i : Nat) : Nat :=
    if on then i + ((line.drop i).takeWhile isBlank).length else i
  let start := match fields[key.first.field - 1]? with
    | some (a, b) =>
      min (skip key.first.skipsBlanks a + (key.first.char.getD 1 - 1)) (max b size)
    | none => size
  let stop := match key.last with
    | none => size
    | some place =>
      match fields[place.field - 1]?, place.char with
      | some (_, b), none => b
      | some (a, _), some n => min (skip place.skipsBlanks a + n) size
      | none, _ => size
  (line.take stop).drop start

/-- A place in a key, and the letters behind it. -/
def keyPlace? (cs : Octets) : Option (Nat × Option Nat × Octets × Octets) :=
  let digits := cs.takeWhile Char.isDigit
  match natural? digits with
  | none => none
  | some field =>
    let (char, rest) := match cs.drop digits.length with
      | '.' :: r =>
        let digits := r.takeWhile Char.isDigit
        (natural? digits, r.drop digits.length)
      | r => (none, r)
    let letters := rest.takeWhile Char.isAlpha
    some (field, char, letters, rest.drop letters.length)

/-- A key from its text. -/
def sortKey? (cs : Octets) : Option SortKey :=
  match keyPlace? cs with
  | none => none
  | some (field, char, letters, rest) =>
    if field = 0 then none
    else
      let first : KeyPlace := ⟨field, char, letters.contains 'b'⟩
      match rest with
      | [] => some ⟨first, none, letters⟩
      | ',' :: r =>
        match keyPlace? r with
        | some (field, char, more, []) =>
          let char := if char == some 0 then none else char
          some ⟨first, some ⟨field, char, more.contains 'b'⟩, letters ++ more⟩
        | _ => none
      | _ => none

/-- The order of two parts of lines. -/
def orderBy (how : Octets) (a b : Octets) : Ordering :=
  let has (c : Char) : Bool := how.contains c
  let plain (cs : Octets) : Octets :=
    let cs := if has 'd' then cs.filter fun c => isBlank c || c.isAlphanum else cs
    let cs := if has 'i' then cs.filter fun c => ' ' ≤ c && c ≤ '~' else cs
    if has 'f' then cs.map Char.toUpper else cs
  let order := if has 'n' then byNumber a b
    else if has 'h' then byUnits a b
    else if has 'g' then byQuantity a b
    else if has 'M' then byOrder (monthRank a) (monthRank b)
    else if has 'V' then byVersion (plain a) (plain b)
    else byBytes (plain a) (plain b)
  if has 'r' then order.swap else order

/-! ## Sorting -/

/-- The options of `sort`. -/
def sortOptions : OptionSpec :=
  ⟨"bdfghiMnRrVcCmsuz", "koStT", "", [("ignore-leading-blanks", "b"),
    ("dictionary-order", "d"), ("ignore-case", "f"), ("general-numeric-sort", "g"),
    ("human-numeric-sort", "h"), ("ignore-nonprinting", "i"), ("month-sort", "M"),
    ("numeric-sort", "n"), ("random-sort", "R"), ("reverse", "r"), ("version-sort", "V"),
    ("check", "c"), ("merge", "m"), ("stable", "s"), ("unique", "u"), ("zero-terminated", "z"),
    ("key", "k"), ("output", "o"), ("buffer-size", "S"), ("field-separator", "t"),
    ("temporary-directory", "T")], true, 2⟩

/-- The first of lines with the same key. -/
def firstOfEach {α : Type} (same : α → α → Bool) : List α → List α
  | [] => []
  | [a] => [a]
  | a :: b :: rest =>
    if same a b then firstOfEach same (a :: rest) else a :: firstOfEach same (b :: rest)

/-- The first line that should stand before the one in front of it, with its number. -/
def disorder? (order : Octets → Octets → Ordering) (strict : Bool) :
    Nat → List Octets → Option (Nat × Octets)
  | n, a :: b :: rest =>
    let wrong := match order a b with
      | .gt => true
      | .eq => strict
      | .lt => false
    if wrong then some (n + 1, b) else disorder? order strict (n + 1) (b :: rest)
  | _, _ => none

/-- The tool `sort`. -/
def sortTool : Tool := withOptions sortOptions fun o => do
  let (found, lost) ← inputs o.rest fun path e =>
    if e == .isDirectory then octets "read failed: " ++ fileMessage path e
    else octets "cannot read: " ++ fileMessage path e
  if lost > 0 then return 2
  let separator ← match o.value? 't' with
    | none => pure none
    | some [c] => pure (some c)
    | some ['\\', '0'] => pure (some '\x00')
    | some [] =>
      warn (octets "empty tab")
      return 2
    | some cs =>
      warn (octets "multi-character tab '" ++ cs ++ ['\x27'])
      return 2
  let general : Octets := "bdfghiMnrV".toList.filter o.has
  let keys ← (o.values 'k').mapM fun text => do
    match sortKey? text with
    | some key => return some key
    | none =>
      let zero := text.head? == some '0'
      warn (if zero then octets "-: invalid field specification '" ++ text ++ ['\x27']
        else octets "invalid number at field start: invalid count at start of '" ++ text ++
          ['\x27'])
      return none
  if keys.any Option.isNone then return 2
  let keys := (keys.filterMap id).map fun key =>
    if key.how.isEmpty then
      let b := general.contains 'b'
      { key with
        how := general
        first := { key.first with skipsBlanks := b }
        last := key.last.map fun p => { p with skipsBlanks := b } }
    else key
  let whole (line : Octets) : Octets :=
    if general.contains 'b' then line.dropWhile isBlank else line
  let byKeys (a b : Octets) : Ordering :=
    if keys.isEmpty then orderBy general (whole a) (whole b)
    else keys.foldl (fun (order : Ordering) key =>
      order.then (orderBy key.how (key.part separator a) (key.part separator b))) .eq
  let order (a b : Octets) : Ordering :=
    if o.has 's' || o.has 'u' then byKeys a b
    else
      let last := byBytes a b
      (byKeys a b).then (if o.has 'r' then last.swap else last)
  let ls := found.flatMap fun (_, text) => bareLines text
  if o.has 'c' || o.has 'C' then
    match disorder? order (o.has 'u') 1 ls with
    | some (n, line) =>
      let path := (o.rest.head?).getD ['-']
      if !o.has 'C' then
        warn (path ++ ':' :: numberOctets n ++ octets ": disorder: " ++ line)
      return 1
    | none => return 0
  let upTo (a b : Octets) : Bool := order a b != .gt
  let sorted := if o.has 'm' then
      found.foldl (fun done (_, text) => List.merge done (bareLines text) upTo) []
    else ls.mergeSort upTo
  let sorted := if o.has 'u' then firstOfEach (fun a b => byKeys a b == .eq) sorted else sorted
  let text := sorted.flatMap (· ++ ['\n'])
  match o.value? 'o' with
  | none =>
    say text
    return 0
  | some path =>
    match (← get).files.write (← resolve path) (bytesOf text) with
    | .ok files =>
      modify fun s => { s with files := files }
      return 0
    | .error e =>
      warn (octets "open failed: " ++ fileMessage path e)
      return 2

/-! ## Lines that follow one another -/

/-- Groups of lines that are the same and follow one another. -/
def groupLines (same : Octets → Octets → Bool) : List Octets → List (List Octets)
  | [] => []
  | line :: rest =>
    match groupLines same rest with
    | (first :: more) :: groups =>
      if same line first then (line :: first :: more) :: groups
      else [line] :: (first :: more) :: groups
    | groups => [line] :: groups

/-- The options of `uniq`. -/
def uniqOptions : OptionSpec :=
  .of "cdDiuz" "fsw" [("count", "c"), ("repeated", "d"), ("all-repeated", "D"),
    ("skip-fields", "f"), ("ignore-case", "i"), ("skip-chars", "s"), ("unique", "u"),
    ("check-chars", "w"), ("zero-terminated", "z")]

/-- The tool `uniq`. -/
def uniqTool : Tool := withOptions uniqOptions fun o => do
  let (found, lost) ← inputs (o.rest.take 1) fileMessage
  if lost > 0 then return 1
  let number (c : Char) : Nat := ((o.value? c).bind natural?).getD 0
  let skipField (cs : Octets) : Octets := (cs.dropWhile isBlank).dropWhile fun c => !isBlank c
  let part (line : Octets) : Octets :=
    let line := (List.range (number 'f')).foldl (fun cs _ => skipField cs) line
    let line := line.drop (number 's')
    let line := if (o.value? 'w').isSome then line.take (number 'w') else line
    if o.has 'i' then line.map Char.toUpper else line
  let groups := groupLines (fun a b => part a == part b) (bareLines (found.flatMap (·.2)))
  let groups := groups.filter fun g =>
    (!(o.has 'd' || o.has 'D') || g.length > 1) && (!o.has 'u' || g.length = 1)
  let text := groups.flatMap fun g =>
    if o.has 'D' then g.flatMap (· ++ ['\n'])
    else
      let line := g.head?.getD []
      let digits := numberOctets g.length
      let count := if o.has 'c' then List.replicate (7 - digits.length) ' ' ++ digits ++ [' ']
        else []
      count ++ line ++ ['\n']
  match o.rest.drop 1 with
  | [] => say text
  | path :: _ =>
    match (← get).files.write (← resolve path) (bytesOf text) with
    | .ok files => modify fun s => { s with files := files }
    | .error e => warn (fileMessage path e)
  return 0

/-! ## Two files in order -/

/-- Lines of two files in order, each with its column: only the first file has it, only the second
one, or both. -/
def commLines : (fuel : Nat) → List Octets → List Octets → List (Nat × Octets)
  | 0, _, _ => []
  | _, [], bs => bs.map fun b => (2, b)
  | _, as, [] => as.map fun a => (1, a)
  | fuel + 1, a :: as, b :: bs =>
    match byBytes a b with
    | .lt => (1, a) :: commLines fuel as (b :: bs)
    | .gt => (2, b) :: commLines fuel (a :: as) bs
    | .eq => (3, a) :: commLines fuel as bs

/-- The tool `comm`. -/
def commTool : Tool :=
  withOptions (.of "123z" "" [("check-order", "check-order"), ("nocheck-order", "nocheck-order"),
    ("output-delimiter", "output-delimiter="), ("total", "total")]) fun o => do
    match o.rest with
    | [first, second] =>
      match ← contents first, ← contents second with
      | .error e, _ =>
        warn (fileMessage first e)
        return 1
      | _, .error e =>
        warn (fileMessage second e)
        return 1
      | .ok a, .ok b =>
        let (a, b) := (bareLines a, bareLines b)
        let separator := (o.valueOf? "output-delimiter=").getD ['\t']
        let rows := commLines (a.length + b.length + 1) a b
        let shows (n : Nat) : Bool := !o.has (Char.ofNat (48 + n))
        rows.forM fun (n, line) => do
          if shows n then
            let before := ((List.range n).filter fun k => 0 < k && shows k).length
            sayLine ((List.replicate before separator).flatten ++ line)
        let count (n : Nat) : Octets := numberOctets (rows.filter fun (k, _) => k == n).length
        if o.hasName "total" then
          sayLine (Text.joinWith separator [count 1, count 2, count 3, octets "total"])
        let wrong := [a, b].zipIdx.filter fun (ls, _) => (disorder? byBytes false 1 ls).isSome
        if o.hasName "nocheck-order" || wrong.isEmpty then return 0
        wrong.forM fun (_, i) =>
          warn (octets ("file " ++ toString (i + 1) ++ " is not in sorted order"))
        warn (octets "input is not in sorted order")
        return 1
    | [] =>
      warn (octets "missing operand\nTry 'comm --help' for more information.")
      return 1
    | [only] =>
      warn (octets "missing operand after '" ++ only ++
        octets "'\nTry 'comm --help' for more information.")
      return 1
    | _ :: _ :: extra :: _ =>
      warn (octets "extra operand '" ++ extra ++
        octets "'\nTry 'comm --help' for more information.")
      return 1

/-- The fields of a line that is joined. -/
def joinFields (separator : Option Char) (line : Octets) : List Octets :=
  match separator with
  | some c => Text.splitOn c line
  | none => (line.splitOnP isBlank).filter (! ·.isEmpty)

/-- Lines of two files that have a field in common, side by side. `before` and `after` tell which
lines without a partner are shown. -/
def joinLines (key : Nat → List Octets → Octets) (show1 show2 only : Bool)
    (both : List Octets → List Octets → List Octets) (alone : Nat → List Octets → List Octets) :
    (fuel : Nat) → List (List Octets) → List (List Octets) → List (List Octets)
  | 0, _, _ => []
  | fuel + 1, as, bs =>
    match as, bs with
    | [], [] => []
    | a :: as, [] =>
      (if show1 then [alone 1 a] else []) ++
        joinLines key show1 show2 only both alone fuel as []
    | [], b :: bs =>
      (if show2 then [alone 2 b] else []) ++
        joinLines key show1 show2 only both alone fuel [] bs
    | a :: as, b :: bs =>
      match byBytes (key 1 a) (key 2 b) with
      | .lt => (if show1 then [alone 1 a] else []) ++
          joinLines key show1 show2 only both alone fuel as (b :: bs)
      | .gt => (if show2 then [alone 2 b] else []) ++
          joinLines key show1 show2 only both alone fuel (a :: as) bs
      | .eq =>
        let text := key 1 a
        let left := (a :: as).takeWhile fun x => key 1 x == text
        let right := (b :: bs).takeWhile fun x => key 2 x == text
        (if only then [] else left.flatMap fun x => right.map fun y => both x y) ++
          joinLines key show1 show2 only both alone fuel ((a :: as).drop left.length)
            ((b :: bs).drop right.length)

/-- The tool `join`. -/
def joinTool : Tool :=
  withOptions (.of "iz" "12jtaveo" [("ignore-case", "i"), ("nocheck-order", "nocheck-order"),
    ("check-order", "check-order"), ("header", "header")]) fun o => do
    match o.rest with
    | [first, second] =>
      match ← contents first, ← contents second with
      | .error e, _ =>
        warn (fileMessage first e)
        return 1
      | _, .error e =>
        warn (fileMessage second e)
        return 1
      | .ok a, .ok b =>
        let separator := (o.value? 't').bind (·.head?)
        let number (c : Char) : Nat :=
          (((o.value? c).or (o.value? 'j')).bind natural?).getD 1
        let (m, n) := (number '1', number '2')
        let fields (text : Octets) := (bareLines text).map (joinFields separator)
        let key (i : Nat) (row : List Octets) : Octets :=
          let cs := (row[(if i = 1 then m else n) - 1]?).getD []
          if o.has 'i' then cs.map Char.toLower else cs
        let field (i : Nat) (row : List Octets) : Octets :=
          (row[(if i = 1 then m else n) - 1]?).getD []
        let others (i : Nat) (row : List Octets) : List Octets :=
          let k := (if i = 1 then m else n) - 1
          row.take k ++ row.drop (k + 1)
        let missing := (o.value? 'e').getD []
        let wanted := (o.values 'o').flatMap fun list =>
          (list.splitOnP fun c => c == ',' || c == ' ').filter (! ·.isEmpty)
        let chosen (text : Octets) (x y : Option (List Octets)) : List Octets :=
          wanted.map fun w =>
            let cell (row : Option (List Octets)) (digits : Octets) : Octets :=
              match (row.bind fun r => r[(natural? digits).getD 1 - 1]?) with
              | some [] | none => missing
              | some cs => cs
            match w with
            | ['0'] => text
            | '1' :: '.' :: digits => cell x digits
            | '2' :: '.' :: digits => cell y digits
            | _ => []
        let both (x y : List Octets) : List Octets :=
          if wanted.isEmpty then field 1 x :: (others 1 x ++ others 2 y)
          else chosen (field 1 x) (some x) (some y)
        let alone (i : Nat) (x : List Octets) : List Octets :=
          if wanted.isEmpty then field i x :: others i x
          else chosen (field i x) (if i = 1 then some x else none)
            (if i = 2 then some x else none)
        let shows (c : Char) : Bool := (o.values 'a').contains [c] || (o.values 'v').contains [c]
        let (a, b) := (fields a, fields b)
        let rows := joinLines key (shows '1') (shows '2') (o.value? 'v').isSome both alone
          (a.length + b.length + 1) a b
        rows.forM fun row => sayLine (Text.joinWith [separator.getD ' '] row)
        return 0
    | [] =>
      warn (octets "missing operand\nTry 'join --help' for more information.")
      return 1
    | [only] =>
      warn (octets "missing operand after '" ++ only ++
        octets "'\nTry 'join --help' for more information.")
      return 1
    | _ :: _ :: extra :: _ =>
      warn (octets "extra operand '" ++ extra ++
        octets "'\nTry 'join --help' for more information.")
      return 1

end MatrixFlow.Script
