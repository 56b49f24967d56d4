import MatrixFlow.Script.Tool.Lines

/-!
# Tools that compare files

* `Difference.marks`: which lines of two texts have no partner in the other one. A shortest way
  from one text to the other is found from both ends, and its runs of lines are then moved as far
  down as they go.
* `Change`: a run of lines that differ.
* `diffTool`, `cmpTool`: show how files differ.
-/

namespace MatrixFlow.Script

open ToolM

/-! ## A shortest way -/

namespace Difference

/-- The lines of two texts, by numbers. -/
structure Texts where
  left : Array Nat
  right : Array Nat

/-- The lines without a partner that have been found. -/
structure Marks where
  left : Array Bool
  right : Array Bool

/-- Two lines are the same. -/
def Texts.same (t : Texts) (x y : Int) : Bool :=
  t.left.getD x.toNat 0 == t.right.getD y.toNat 0

/-- How far the lines from here on are the same. -/
def slideDown (t : Texts) (xEnd yEnd : Int) : (fuel : Nat) → Int → Int → Int
  | 0, x, _ => x
  | fuel + 1, x, y =>
    if x < xEnd && y < yEnd && t.same x y then slideDown t xEnd yEnd fuel (x + 1) (y + 1) else x

/-- How far the lines up to here are the same. -/
def slideUp (t : Texts) (xStart yStart : Int) : (fuel : Nat) → Int → Int → Int
  | 0, x, _ => x
  | fuel + 1, x, y =>
    if xStart < x && yStart < y && t.same (x - 1) (y - 1) then
      slideUp t xStart yStart fuel (x - 1) (y - 1)
    else x

/-- A search on diagonals: the furthest place on each, and the outermost ones. -/
structure Front where
  places : List (Int × Int)
  low : Int
  high : Int

/-- The place on a diagonal. -/
def Front.at? (f : Front) (d : Int) (otherwise : Int) : Int :=
  ((f.places.find? fun (k, _) => k == d).map (·.2)).getD otherwise

/-- Puts a place on a diagonal. -/
def Front.put (f : Front) (d x : Int) : Front :=
  { f with places := (d, x) :: f.places.filter fun (k, _) => k != d }

/-- The next diagonals of a front, which `edge` keeps between limits; places beyond it are `far`. -/
def Front.widen (f : Front) (least greatest far : Int) : Front :=
  let f := if f.low > least then { f.put (f.low - 2) far with low := f.low - 1 }
    else { f with low := f.low + 1 }
  if f.high < greatest then { f.put (f.high + 2) far with high := f.high + 1 }
  else { f with high := f.high - 1 }

/-- The part of two texts that is looked at. -/
structure Window where
  x : Int
  xEnd : Int
  y : Int
  yEnd : Int

/-- Goes one step down on every other diagonal from `d`. The second answer is the place where it
meets the other front. -/
def stepDown (t : Texts) (w : Window) (odd : Bool) (other : Front) :
    (fuel : Nat) → Int → Front → Front × Option (Int × Int)
  | 0, _, f => (f, none)
  | fuel + 1, d, f =>
    if d < f.low then (f, none)
    else
      let low := f.at? (d - 1) (-1)
      let high := f.at? (d + 1) (-1)
      let start := if low < high then high else low + 1
      let x := slideDown t w.xEnd w.yEnd (w.xEnd - w.x + 1).toNat start (start - d)
      let f := f.put d x
      if odd && other.low ≤ d && d ≤ other.high && other.at? d (-1) ≤ x then
        (f, some (x, x - d))
      else stepDown t w odd other fuel (d - 2) f

/-- The same upwards. -/
def stepUp (t : Texts) (w : Window) (odd : Bool) (far : Int) (other : Front) :
    (fuel : Nat) → Int → Front → Front × Option (Int × Int)
  | 0, _, f => (f, none)
  | fuel + 1, d, f =>
    if d < f.low then (f, none)
    else
      let low := f.at? (d - 1) far
      let high := f.at? (d + 1) far
      let start := if low < high then low else high - 1
      let x := slideUp t w.x w.y (w.xEnd - w.x + 1).toNat start (start - d)
      let f := f.put d x
      if !odd && other.low ≤ d && d ≤ other.high && x ≤ other.at? d (-1) then
        (f, some (x, x - d))
      else stepUp t w odd far other fuel (d - 2) f

/-- A place in the middle of a shortest way. -/
def middle (t : Texts) (w : Window) (odd : Bool) : (fuel : Nat) → Front → Front → Int × Int
  | 0, _, _ => (w.xEnd, w.yEnd)
  | fuel + 1, down, up =>
    let least := w.x - w.yEnd
    let greatest := w.xEnd - w.y
    let far := w.xEnd + w.yEnd + 2
    let steps := (greatest - least + 2).toNat
    let down := down.widen least greatest (-1)
    match stepDown t w odd up steps down.high down with
    | (_, some found) => found
    | (down, none) =>
      let up := up.widen least greatest far
      match stepUp t w odd far down steps up.high up with
      | (_, some found) => found
      | (up, none) => middle t w odd fuel down up

/-- Marks lines from one place up to another. -/
def markFrom (marks : Array Bool) (start stop : Int) : Array Bool :=
  (List.range (stop - start).toNat).foldl (fun m i => m.setIfInBounds (start.toNat + i) true) marks

/-- Marks the lines in a window that have no partner. -/
def mark (t : Texts) : (fuel : Nat) → Window → Marks → Marks
  | 0, _, m => m
  | fuel + 1, w, m =>
    let size := (w.xEnd - w.x + 1).toNat
    let x := slideDown t w.xEnd w.yEnd size w.x w.y
    let y := w.y + (x - w.x)
    let xEnd := slideUp t x y size w.xEnd w.yEnd
    let yEnd := w.yEnd - (w.xEnd - xEnd)
    if x = xEnd then { m with right := markFrom m.right y yEnd }
    else if y = yEnd then { m with left := markFrom m.left x xEnd }
    else
      let w : Window := ⟨x, xEnd, y, yEnd⟩
      let down : Front := ⟨[(x - y, x)], x - y, x - y⟩
      let up : Front := ⟨[(xEnd - yEnd, xEnd)], xEnd - yEnd, xEnd - yEnd⟩
      let odd := ((x - y) - (xEnd - yEnd)) % 2 ≠ 0
      let (midX, midY) := middle t w odd ((xEnd - x) + (yEnd - y) + 2).toNat down up
      mark t fuel { w with x := midX, y := midY }
        (mark t fuel { w with xEnd := midX, yEnd := midY } m)

/-! ## Moving runs -/

/-- Where a run of marked lines is moved: its ends, and the place in the other text. -/
structure Run where
  start : Nat
  stop : Nat
  other : Int
  own : Array Bool

/-- The mark of a line; there is none outside of the text. -/
def marked (marks : Array Bool) (i : Int) : Bool :=
  if i < 0 then false else marks.getD i.toNat false

/-- Goes on while lines are marked, in steps. -/
def pass (marks : Array Bool) (step : Int) : (fuel : Nat) → Int → Int
  | 0, i => i
  | fuel + 1, i => if marked marks i then pass marks step fuel (i + step) else i

/-- Moves a run back as long as the line before it is the same as its last one. -/
def moveBack (lines : Array Nat) (others : Array Bool) : (fuel : Nat) → Run → Run
  | 0, r => r
  | fuel + 1, r =>
    if r.start > 0 && lines.getD (r.start - 1) 0 == lines.getD (r.stop - 1) 0 then
      let own := (r.own.setIfInBounds (r.start - 1) true).setIfInBounds (r.stop - 1) false
      let start := (pass own (-1) (lines.size + 1) ((r.start : Int) - 2) + 1).toNat
      let other := pass others (-1) (others.size + 1) (r.other - 1)
      moveBack lines others fuel ⟨start, r.stop - 1, other, own⟩
    else r

/-- Moves a run forward as long as its first line is the same as the one behind it. `matched` is
the last end at which lines of the other text are marked. -/
def moveForward (lines : Array Nat) (others : Array Bool) :
    (fuel : Nat) → Run → (matched : Nat) → Run × Nat
  | 0, r, matched => (r, matched)
  | fuel + 1, r, matched =>
    if r.stop < lines.size && lines.getD r.start 0 == lines.getD r.stop 0 then
      let own := (r.own.setIfInBounds r.start false).setIfInBounds r.stop true
      let stop := (pass own 1 (lines.size + 1) ((r.stop : Int) + 1)).toNat
      let other := pass others 1 (others.size + 1) (r.other + 1)
      let matched := if other > r.other + 1 then stop else matched
      moveForward lines others fuel ⟨r.start + 1, stop, other, own⟩ matched
    else (r, matched)

/-- Moves a run back and forth until it does not grow any more. -/
def settle (lines : Array Nat) (others : Array Bool) : (fuel : Nat) → Run → Run × Nat
  | 0, r => (r, lines.size)
  | fuel + 1, r =>
    let size := r.stop - r.start
    let back := moveBack lines others (lines.size + 1) r
    let matched := if marked others (back.other - 1) then back.stop else lines.size
    let (forward, matched) := moveForward lines others (lines.size + 1) back matched
    if forward.stop - forward.start = size then (forward, matched)
    else settle lines others fuel forward

/-- Moves a run back to a place at which lines of the other text are marked. -/
def returnTo (others : Array Bool) (matched : Nat) : (fuel : Nat) → Run → Run
  | 0, r => r
  | fuel + 1, r =>
    if matched < r.stop then
      let own := (r.own.setIfInBounds (r.start - 1) true).setIfInBounds (r.stop - 1) false
      let other := pass others (-1) (others.size + 1) (r.other - 1)
      returnTo others matched fuel ⟨r.start - 1, r.stop - 1, other, own⟩
    else r

/-- Moves all runs of a text, from a line and its partner on. -/
def moveRuns (lines : Array Nat) (others : Array Bool) :
    (fuel : Nat) → (i : Nat) → (j : Int) → Array Bool → Array Bool
  | 0, _, _, own => own
  | fuel + 1, i, j, own =>
    if i ≥ lines.size then own
    else if !marked own i then
      moveRuns lines others fuel (i + 1) (pass others 1 (others.size + 1) j + 1) own
    else
      let stop := (pass own 1 (lines.size + 1) i).toNat
      let other := pass others 1 (others.size + 1) j
      let (r, matched) := settle lines others (lines.size + 1) ⟨i, stop, other, own⟩
      let r := returnTo others matched (lines.size + 1) r
      moveRuns lines others fuel r.stop r.other r.own

/-- The numbers of lines: the same number for the same line. -/
def numbered (key : Octets → Octets) (a b : List Octets) : Texts :=
  let keys := (a.map key ++ b.map key).eraseDups
  let number (line : Octets) : Nat := (keys.findIdx? (· == key line)).getD 0
  ⟨(a.map number).toArray, (b.map number).toArray⟩

/-- Which lines of two texts have no partner in the other one. -/
def marks (t : Texts) : Marks :=
  let lacks (other : Array Nat) (lines : Array Nat) : Array Bool :=
    lines.map fun n => !other.contains n
  let start : Marks := ⟨lacks t.right t.left, lacks t.left t.right⟩
  let kept (lines : Array Nat) (gone : Array Bool) : Array Nat :=
    ((List.range lines.size).filter fun i => !gone.getD i false).toArray
  let (xs, ys) := (kept t.left start.left, kept t.right start.right)
  let inner : Texts := ⟨xs.map fun i => t.left.getD i 0, ys.map fun i => t.right.getD i 0⟩
  let none (n : Nat) : Array Bool := Array.replicate n false
  let found := mark inner (xs.size + ys.size + 2) ⟨0, xs.size, 0, ys.size⟩
    ⟨none xs.size, none ys.size⟩
  let merge (gone : Array Bool) (places : Array Nat) (found : Array Bool) : Array Bool :=
    (List.range places.size).foldl (fun m i =>
      if found.getD i false then m.setIfInBounds (places.getD i 0) true else m) gone
  let left := merge start.left xs found.left
  let right := merge start.right ys found.right
  let left := moveRuns t.left right (2 * t.left.size + 2) 0 0 left
  let right := moveRuns t.right left (2 * t.right.size + 2) 0 0 right
  ⟨left, right⟩

end Difference

/-! ## Changes -/

/-- A run of lines that differ: where it begins in each file, and how many lines it has there. -/
structure Change where
  left : Nat
  leftCount : Nat
  right : Nat
  rightCount : Nat
deriving DecidableEq, Repr

/-- The runs of lines that differ, from a place in each file on. -/
def changesFrom (m : Difference.Marks) : (fuel : Nat) → (i j : Nat) → List Change
  | 0, _, _ => []
  | fuel + 1, i, j =>
    let left := ((m.left.toList.drop i).takeWhile id).length
    let right := ((m.right.toList.drop j).takeWhile id).length
    if left > 0 || right > 0 then
      ⟨i, left, j, right⟩ :: changesFrom m fuel (i + left) (j + right)
    else if i < m.left.size || j < m.right.size then changesFrom m fuel (i + 1) (j + 1)
    else []

/-- A text whose lines are compared. -/
structure ComparedText where
  lines : List Octets
  /-- The last line is ended. -/
  ended : Bool

/-- The lines of a text; one that is not ended differs from one that is. -/
def ComparedText.of (cs : Octets) : ComparedText :=
  ⟨bareLines cs, cs.isEmpty || cs.getLast? == some '\n'⟩

/-- The lines as they are compared. -/
def ComparedText.keys (t : ComparedText) : List Octets :=
  if t.ended then t.lines.map (· ++ ['\n'])
  else t.lines.dropLast.map (· ++ ['\n']) ++ (t.lines.getLast?.map fun l => [l]).getD []

/-- Lines from a place on with a mark in front. -/
def ComparedText.shown (t : ComparedText) (before : Octets) (start count : Nat) : List Octets :=
  let chosen := (t.lines.drop start).take count
  chosen.zipIdx.flatMap fun (line, i) =>
    let last := start + i + 1 = t.lines.length && !t.ended
    (before ++ line) :: if last then [octets "\\ No newline at end of file"] else []

/-- A range of lines as it is written. -/
def lineRange (start count : Nat) : Octets :=
  if count = 0 then numberOctets start
  else if count = 1 then numberOctets (start + 1)
  else numberOctets (start + 1) ++ ',' :: numberOctets (start + count)

/-- Changes in the short form. -/
def plainChange (a b : ComparedText) (c : Change) : List Octets :=
  let letter := if c.leftCount = 0 then 'a' else if c.rightCount = 0 then 'd' else 'c'
  (lineRange c.left c.leftCount ++ letter :: lineRange c.right c.rightCount) ::
    a.shown ['<', ' '] c.left c.leftCount ++
    (if letter == 'c' then [['-', '-', '-']] else []) ++
    b.shown ['>', ' '] c.right c.rightCount

/-- Groups of changes that stand so close that their surroundings touch. -/
def changeGroups (context : Nat) : List Change → List (List Change)
  | [] => []
  | c :: rest =>
    match changeGroups context rest with
    | (d :: more) :: groups =>
      if d.left - (c.left + c.leftCount) ≤ 2 * context then (c :: d :: more) :: groups
      else [c] :: (d :: more) :: groups
    | groups => [c] :: groups

/-- A range of lines in a title. -/
def titleRange (start count : Nat) : Octets :=
  if count = 1 then numberOctets (start + 1)
  else numberOctets (if count = 0 then start else start + 1) ++ ',' :: numberOctets count

/-- A group of changes with its surroundings: where it begins and ends in each file. -/
def groupBounds (context : Nat) (a b : ComparedText) (group : List Change) :
    Nat × Nat × Nat × Nat :=
  match group.head?, group.getLast? with
  | some first, some last =>
    let before := min context (min first.left first.right)
    let leftEnd := last.left + last.leftCount
    let rightEnd := last.right + last.rightCount
    let after := min context (a.lines.length - leftEnd)
    let after := min after (max after (b.lines.length - rightEnd))
    (first.left - before, leftEnd + after, first.right - before, rightEnd + after)
  | _, _ => (0, 0, 0, 0)

/-- A group of changes as one text with marks in front of its lines. -/
def unifiedGroup (context : Nat) (a b : ComparedText) (group : List Change) : List Octets :=
  let (left, leftEnd, right, rightEnd) := groupBounds context a b group
  let title := octets "@@ -" ++ titleRange left (leftEnd - left) ++ octets " +" ++
    titleRange right (rightEnd - right) ++ octets " @@"
  let (body, place) := group.foldl (fun (found, place) c =>
    (found ++ a.shown [' '] place (c.left - place) ++ a.shown ['-'] c.left c.leftCount ++
      b.shown ['+'] c.right c.rightCount, c.left + c.leftCount)) (([] : List Octets), left)
  title :: body ++ a.shown [' '] place (leftEnd - place)

/-- One side of a group of changes with marks in front of its lines. -/
def contextSide (mark : Char) (t : ComparedText) (start stop : Nat)
    (runs : List (Nat × Nat × Bool)) : List Octets :=
  if runs.all fun (_, count, _) => count = 0 then []
  else
    let (body, place) := runs.foldl (fun (found, place) (first, count, changed) =>
      (found ++ t.shown [' ', ' '] place (first - place) ++
        t.shown [if changed then '!' else mark, ' '] first count, first + count))
      (([] : List Octets), start)
    body ++ t.shown [' ', ' '] place (stop - place)

/-- A group of changes as two texts. -/
def contextGroup (context : Nat) (a b : ComparedText) (group : List Change) : List Octets :=
  let (left, leftEnd, right, rightEnd) := groupBounds context a b group
  let range (start stop : Nat) : Octets :=
    if stop - start ≤ 1 then numberOctets stop
    else numberOctets (start + 1) ++ ',' :: numberOctets stop
  let both (c : Change) : Bool := c.leftCount > 0 && c.rightCount > 0
  octets "***************" :: (octets "*** " ++ range left leftEnd ++ octets " ****") ::
    contextSide '-' a left leftEnd (group.map fun c => (c.left, c.leftCount, both c)) ++
    (octets "--- " ++ range right rightEnd ++ octets " ----") ::
    contextSide '+' b right rightEnd (group.map fun c => (c.right, c.rightCount, both c))

/-! ## The tool `diff` -/

/-- The options of `diff`. -/
def diffOptions : OptionSpec :=
  ⟨"abBcdeiEnNpqrstTuwyZ0123456789", "CFILSUW", "", [("text", "a"), ("ignore-space-change", "b"),
    ("ignore-blank-lines", "B"), ("context", "c"), ("minimal", "d"), ("ed", "e"),
    ("ignore-case", "i"), ("ignore-tab-expansion", "E"), ("rcs", "n"), ("new-file", "N"),
    ("brief", "q"), ("recursive", "r"), ("report-identical-files", "s"), ("unified", "u"),
    ("ignore-all-space", "w"), ("side-by-side", "y"), ("ignore-trailing-space", "Z"),
    ("label", "L"), ("normal", "normal"), ("strip-trailing-cr", "strip-trailing-cr"),
    ("color", "color="), ("width", "W"), ("suppress-common-lines", "suppress-common-lines")],
    true, 2⟩

/-- A line as it counts when it is compared. -/
def diffKey (o : ToolOptions) (line : Octets) : Octets :=
  let isSpace (c : Char) : Bool := c == ' ' || ('\t' ≤ c && c ≤ '\r')
  let line := if o.has 'i' then line.map Char.toLower else line
  let trimmed (cs : Octets) : Octets := (cs.reverse.dropWhile isSpace).reverse
  if o.has 'w' then line.filter fun c => !isSpace c
  else if o.has 'b' then
    ((trimmed line).foldr (fun c rest => if isSpace c then
      (match rest with | ' ' :: _ => rest | _ => ' ' :: rest) else c :: rest) [])
  else if o.has 'Z' then trimmed line
  else if o.hasName "strip-trailing-cr" then line.filter (· != '\r')
  else line

/-- Two columns of a width, with a mark between them. -/
def sideRows (width : Nat) (a b : ComparedText) (changes : List Change) : List Octets :=
  let half := (width - 3) / 2
  let offset := ((width + 1 - 3) / 2 / 8 + 1) * 8
  let offset := if offset + 8 > width then half else offset
  let column := min half (offset - 2)
  let row (left : Octets) (mark : Char) (right : Octets) : Octets :=
    let left := left.take column
    if mark == ' ' then
      if right.isEmpty then left else left ++ tabsTo left.length offset ++ right.take half
    else
      let gap := tabsTo left.length (column + 1)
      left ++ gap ++ mark :: if right.isEmpty then [] else '\t' :: right.take half
  let line (t : ComparedText) (i : Nat) : Octets := (t.lines[i]?).getD []
  let same (start count other : Nat) : List Octets :=
    (List.range count).map fun i => row (line a (start + i)) ' ' (line b (other + i))
  let (found, x, y) := changes.foldl (fun (found, x, y) c =>
    let between := same x (c.left - x) y
    let rows := (List.range (max c.leftCount c.rightCount)).map fun i =>
      if i < c.leftCount && i < c.rightCount then
        row (line a (c.left + i)) '|' (line b (c.right + i))
      else if i < c.leftCount then row (line a (c.left + i)) '<' []
      else row [] '>' (line b (c.right + i))
    (found ++ between ++ rows, c.left + c.leftCount, c.right + c.rightCount))
    (([] : List Octets), 0, 0)
  found ++ same x (a.lines.length - x) y
where
  /-- Tabs and blanks from one column to another. -/
  tabsTo (start stop : Nat) : Octets :=
    go (stop + 1) start stop
  /-- One step after the other. -/
  go : Nat → Nat → Nat → Octets
    | 0, _, _ => []
    | fuel + 1, start, stop =>
      let next := (start / 8 + 1) * 8
      if next ≤ stop then '\t' :: go fuel next stop else blanks (stop - start)

/-- The commands that make one file of the other. -/
def editChanges (b : ComparedText) (changes : List Change) : List Octets :=
  changes.reverse.flatMap fun c =>
    let letter := if c.leftCount = 0 then 'a' else if c.rightCount = 0 then 'd' else 'c'
    (lineRange c.left c.leftCount ++ [letter]) ::
      if c.rightCount = 0 then [] else b.shown [] c.right c.rightCount ++ [['.']]

/-- Shows how two texts differ; the answer tells whether they do. -/
def showDifference (o : ToolOptions) (first second a b : Octets) : ToolM Bool := do
  let (x, y) := (ComparedText.of a, ComparedText.of b)
  let t := Difference.numbered (diffKey o) x.keys y.keys
  let changes := changesFrom (Difference.marks t) (2 * (t.left.size + t.right.size) + 2) 0 0
  let isBlank (c : Change) : Bool :=
    ((x.lines.drop c.left).take c.leftCount).all (·.isEmpty) &&
      ((y.lines.drop c.right).take c.rightCount).all (·.isEmpty)
  let changes := if o.has 'B' then changes.filter fun c => !isBlank c else changes
  if changes.isEmpty && !o.has 'y' then
    if o.has 's' then
      sayLine (octets "Files " ++ first ++ octets " and " ++ second ++ octets " are identical")
    return false
  let labels := o.values 'L'
  let title (mark : String) (i : Nat) (path : Octets) : ToolM Unit :=
    sayLine (octets mark ++ match labels[i]? with
      | some label => label
      | none => path ++ octets "\t1970-01-01 00:00:00.000000000 +0000")
  let unified := o.has 'u' || (o.value? 'U').isSome
  if o.has 'q' then
    sayLine (octets "Files " ++ first ++ octets " and " ++ second ++ octets " differ")
  else if unified then
    let context := ((o.value? 'U').bind natural?).getD 3
    title "--- " 0 first
    title "+++ " 1 second
    ((changeGroups context changes).flatMap (unifiedGroup context x y)).forM sayLine
  else if o.has 'c' || (o.value? 'C').isSome then
    let context := ((o.value? 'C').bind natural?).getD 3
    title "*** " 0 first
    title "--- " 1 second
    ((changeGroups context changes).flatMap (contextGroup context x y)).forM sayLine
  else if o.has 'y' then
    (sideRows (((o.value? 'W').bind natural?).getD 130) x y changes).forM sayLine
  else if o.has 'e' then (editChanges y changes).forM sayLine
  else (changes.flatMap (plainChange x y)).forM sayLine
  return !changes.isEmpty

/-- What stands at a path that is compared. -/
def comparedEntry (path : Octets) : ToolM (Except FileFault Bool) := do
  if path == ['-'] || Text.startsWith (octets "/dev/") path then return .ok false
  return ((← get).files.find (← resolve path)).map fun e =>
    match e with
    | .directory => true
    | _ => false

/-- Compares two paths; the answer is zero if nothing differs, one if something does, and two if a
path cannot be read. `deep` is how many directories there may be on the way. -/
def comparePaths (o : ToolOptions) : (deep : Nat) → (inside : Bool) → Octets → Octets → Tool
  | 0, _, _, _ => return 2
  | deep + 1, inside, first, second => do
    let below (path : Octets) (name : String) : Octets := path ++ '/' :: octets name
    let lastName (path : Octets) : String :=
      plainString ((path.reverse.takeWhile (· != '/')).reverse)
    match ← comparedEntry first, ← comparedEntry second with
    | .ok true, .ok true =>
      if inside && !o.has 'r' then
        sayLine (octets "Common subdirectories: " ++ first ++ octets " and " ++ second)
        return 0
      let files := (← get).files
      let a := files.list (← resolve first)
      let b := files.list (← resolve second)
      let names := (a ++ b.filter fun n => !a.contains n).mergeSort (· ≤ ·)
      let results ← names.mapM fun n => do
        if a.contains n && b.contains n then
          comparePaths o deep true (below first n) (below second n)
        else
          let path := if a.contains n then first else second
          sayLine (octets "Only in " ++ path ++ octets (": " ++ n))
          return 1
      return results.foldl max 0
    | .ok true, .ok false =>
      if inside then
        sayLine (octets "File " ++ first ++ octets " is a directory while file " ++ second ++
          octets " is a regular file")
        return 1
      comparePaths o deep false (below first (lastName second)) second
    | .ok false, .ok true =>
      if inside then
        sayLine (octets "File " ++ first ++ octets " is a regular file while file " ++ second ++
          octets " is a directory")
        return 1
      comparePaths o deep false first (below second (lastName first))
    | .ok false, .ok false =>
      match ← contents first, ← contents second with
      | .ok a, .ok b =>
        if inside && a != b && !o.has 'q' then
          let shown := o.given.filter fun (k, _) => k != "normal"
          let options := shown.flatMap fun (k, v) => octets (" -" ++ k) ++ v
          sayLine (octets "diff" ++ options ++ ' ' :: first ++ ' ' :: second)
        return if ← showDifference o first second a b then 1 else 0
      | _, _ => return 2
    | x, y =>
      match x with
      | .error e => warn (fileMessage first e)
      | .ok _ => pure ()
      match y with
      | .error e => warn (fileMessage second e)
      | .ok _ => pure ()
      return 2

/-- The tool `diff`. -/
def diffTool : Tool := withOptions diffOptions fun o => do
  let refuse (text : Octets) : Tool := do
    warn text
    warn (octets "Try 'diff --help' for more information.")
    return 2
  match o.rest with
  | [first, second] => comparePaths o 64 false first second
  | [] => refuse (octets "missing operand after 'diff'")
  | [only] => refuse (octets "missing operand after '" ++ only ++ ['\x27'])
  | _ :: _ :: extra :: _ => refuse (octets "extra operand '" ++ extra ++ ['\x27'])

/-! ## The tool `cmp` -/

/-- The bytes at which two texts differ, with their positions. -/
def byteDifferences : Nat → Octets → Octets → List (Nat × Char × Char)
  | n, a :: as, b :: bs =>
    if a = b then byteDifferences (n + 1) as bs else (n, a, b) :: byteDifferences (n + 1) as bs
  | _, _, _ => []

/-- The tool `cmp`. -/
def cmpTool : Tool :=
  withOptions ⟨"bls", "in", "", [("print-bytes", "b"), ("verbose", "l"), ("silent", "s"),
    ("quiet", "s"), ("bytes", "n"), ("ignore-initial", "i")], true, 2⟩ fun o => do
    match o.rest with
    | [] =>
      warn (octets "missing operand after 'cmp'")
      warn (octets "Try 'cmp --help' for more information.")
      return 2
    | first :: more =>
      let second := more.head?.getD ['-']
      match ← contents first, ← contents second with
      | .ok a, .ok b =>
        let limit (cs : Octets) : Octets :=
          match (o.value? 'n').bind natural? with
          | some n => cs.take n
          | none => cs
        let (a, b) := (limit a, limit b)
        let found := byteDifferences 1 a b
        let octal (c : Char) : Octets := atRight 3 (Nat.toDigits 8 c.toNat)
        let shown (c : Char) : Octets := visible c
        let all := o.has 'l'
        if all && !o.has 's' then
          let width := (numberOctets (max a.length b.length)).length
          found.forM fun (n, x, y) =>
            let y' := if o.has 'b' then ' ' :: shown y else []
            let x' := if o.has 'b' then ' ' :: shown x ++ blanks (4 - (shown x).length) else []
            sayLine (atRight width (numberOctets n) ++ ' ' :: octal x ++ x' ++ ' ' :: octal y ++ y')
        match found, a.length == b.length with
        | [], true => return 0
        | _, same =>
          let line (n : Nat) : Nat := ((a.take (n - 1)).filter (· == '\n')).length + 1
          match found, all with
          | (n, x, y) :: _, false =>
            if !o.has 's' then
              let unit := if o.has 'b' then "byte " else "char "
              let bytes := if o.has 'b' then
                  octets " is " ++ octal x ++ ' ' :: shown x ++ ' ' :: octal y ++ ' ' :: shown y
                else []
              sayLine (first ++ ' ' :: second ++ octets (" differ: " ++ unit) ++ numberOctets n ++
                octets ", line " ++ numberOctets (line n) ++ bytes)
            return 1
          | _, _ =>
            if !same && !o.has 's' then
              let (path, text) := if a.length < b.length then (first, a) else (second, b)
              let lines := (text.filter (· == '\n')).length
              warn (octets "EOF on " ++ path ++
                (if text.isEmpty then octets " which is empty"
                else octets " after byte " ++ numberOctets text.length ++
                  (if all then []
                  else if text.getLast? == some '\n' then octets ", line " ++ numberOctets lines
                  else octets ", in line " ++ numberOctets (lines + 1))))
            return 1
      | x, y =>
        match x, y with
        | .error e, _ => warn (fileMessage first e)
        | _, .error e => warn (fileMessage second e)
        | _, _ => pure ()
        return 2

end MatrixFlow.Script
