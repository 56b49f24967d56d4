import MatrixFlow.Script.Escape
import MatrixFlow.Script.Pattern

/-!
# Regular expressions

* `Regex`: what describes texts; `Regex.ofText` reads one, in one of its forms.
* `Regex.places`: the places that a match can get to.
* `Regex.find?`: the first longest place in a text that matches, with its groups.
-/

namespace MatrixFlow.Script

/-- What describes texts. -/
inductive Regex where
  | empty
  | char (c : Char)
  | one
  | set (negated : Bool) (ranges : List (Char × Char))
  /-- The start of the text or, where lines count, of a line. -/
  | start
  | finish
  /-- The start of the whole text, or its end. -/
  | textStart
  | textFinish
  /-- The start of a word, or its end. -/
  | wordStart
  | wordFinish
  /-- A place where a word starts or ends, or any other place. -/
  | wordEdge (negated : Bool)
  /-- The same text as a group. -/
  | again (number : Nat)
  | group (number : Nat) (inner : Regex)
  | next (a b : Regex)
  | either (a b : Regex)
  /-- Any number of times. -/
  | star (inner : Regex)
deriving Repr, Inhabited

/-- How expressions are written. -/
structure RegexForm where
  /-- Signs are bare, and stand for themselves behind a backslash. -/
  extended : Bool := false
  /-- Backslashes in brackets do not stand for themselves. -/
  slashes : Bool := false
  /-- Letters behind a backslash stand for characters, in brackets too. -/
  letters : Bool := false
  /-- A `d` behind a backslash stands for digits. -/
  digits : Bool := false
  /-- Counts in braces tell how often something stands. -/
  counts : Bool := true
  /-- A sign for a repetition that nothing precedes, and braces without counts, stand for
  themselves. -/
  loose : Bool := false
  /-- A sign for a repetition that nothing precedes is passed over. -/
  skipsSigns : Bool := false
  /-- A bracket that closes nothing stands for itself. -/
  bareClose : Bool := false
  /-- A bracket that is written like a class of characters is refused. -/
  guardsClasses : Bool := false
  /-- A star or counts behind another repetition are refused. -/
  single : Bool := false
  /-- Letters behind a backslash stand for sets of characters and for places. -/
  marks : Bool := true
  /-- Alternatives and groups that hold nothing are refused. -/
  filled : Bool := false
deriving DecidableEq, Repr

/-- Why an expression cannot be read. -/
inductive RegexFault where
  | openBracket
  | openGroup
  | closedGroup
  | openBrace
  | badCounts
  | badRepeat
  | lastSlash
  | badRange
  | badClass
  | badGroup
  | bareClass
deriving DecidableEq, Repr

/-- The fault in words. -/
def RegexFault.text : RegexFault → String
  | openBracket => "Unmatched [, [^, [:, [., or [="
  | openGroup => "Unmatched ( or \\("
  | closedGroup => "Unmatched ) or \\)"
  | openBrace => "Unmatched \\\x7b"
  | badRepeat => "Invalid preceding regular expression"
  | badCounts => "Invalid content of \\\x7b\\\x7d"
  | lastSlash => "Trailing backslash"
  | badRange => "Invalid range end"
  | badClass => "Invalid character class name"
  | badGroup => "Invalid back reference"
  | bareClass => "character class syntax is [[:space:]], not [:space:]"

namespace RegexForm

/-- Groups and repetitions stand behind backslashes. -/
def basic : RegexForm := {}

/-- The same where lines are searched. -/
def basicSearch : RegexForm := { guardsClasses := true }

/-- The same where lines are edited. -/
def basicEdit : RegexForm := { guardsClasses := true, single := true }

/-- Groups and repetitions are bare signs. -/
def search : RegexForm :=
  { extended := true, loose := true, skipsSigns := true, guardsClasses := true }

/-- The same where lines are edited. -/
def edit : RegexForm := { extended := true, guardsClasses := true }

/-- How conditions of a shell are written. -/
def condition : RegexForm := { extended := true, bareClose := true }

/-- How expressions with letters for many sets of characters are written. -/
def lettered : RegexForm :=
  { extended := true, slashes := true, letters := true, digits := true, loose := true }

/-- How expressions are written in programs for records. -/
def record : RegexForm :=
  { extended := true, slashes := true, letters := true, counts := false, bareClose := true
    marks := false, filled := true }

end RegexForm

namespace Regex

/-! ## Reading -/

/-- What is left of an expression, and how many groups have begun. -/
structure Reading where
  form : RegexForm
  rest : Octets
  groups : Nat

/-- A reader of expressions. -/
abbrev Reader := StateT Reading (Except RegexFault)

/-- Takes away so many characters. -/
def take (n : Nat) : Reader Unit :=
  modify fun s => { s with rest := s.rest.drop n }

/-- A sign that is bare in one form and stands behind a backslash in the other begins here; how long
it is. -/
def signLength? (form : RegexForm) (c : Char) (cs : Octets) : Option Nat :=
  match form.extended, cs with
  | true, d :: _ => if c == d then some 1 else none
  | false, '\\' :: d :: _ => if c == d then some 2 else none
  | _, _ => none

/-- A sign begins here; how long it is. -/
def sign? (c : Char) : Reader (Option Nat) := do
  let s ← get
  if c == '\x7b' && !s.form.counts then return none
  return signLength? s.form c s.rest

/-- The counts of a repetition in braces, up to the sign that closes. -/
def counts? (cs : Octets) : Option (Nat × Option Nat) :=
  let low := cs.takeWhile Char.isDigit
  match cs.drop low.length, (String.ofList low).toNat? with
  | [], some n => some (n, some n)
  | [','], least => some (least.getD 0, none)
  | ',' :: high, least => ((String.ofList high).toNat?).map fun n => (least.getD 0, some n)
  | _, _ => none

/-- An expression so many times: `least` times, and then up to `most` times in all. -/
def times (inner : Regex) (least : Nat) (most : Option Nat) : Regex :=
  let rest := match most with
    | none => star inner
    | some n => (List.range (n - least)).foldl (fun r _ => either (next inner r) empty) empty
  (List.range least).foldl (fun r _ => next inner r) rest

/-- The character that a letter behind a backslash stands for. -/
def letter? : Char → Option Char
  | 'n' => some '\n'
  | 't' => some '\t'
  | 'r' => some '\r'
  | 'f' => some '\x0c'
  | 'v' => some '\x0b'
  | 'a' => some '\x07'
  | _ => none

/-- The ranges of a set up to its bracket, and what follows. A bracket that comes first stands for
itself. -/
def readSet (form : RegexForm) : (fuel : Nat) → (first : Bool) → Octets →
    Except RegexFault (List (Char × Char) × Octets)
  | 0, _, _ => .error .openBracket
  | fuel + 1, first, cs =>
    match cs with
    | [] => .error .openBracket
    | ']' :: r => if first then member fuel ']' r else .ok ([], r)
    | '[' :: ':' :: r =>
      match Text.cut? [':', ']'] r with
      | some (name, after) =>
        let ranges := classRanges (String.ofList name)
        if ranges.isEmpty then .error .badClass
        else (readSet form fuel false after).map fun (more, rest) => (ranges ++ more, rest)
      | none => .error .openBracket
    | '[' :: '.' :: c :: '.' :: ']' :: r => member fuel c r
    | '[' :: '=' :: c :: '=' :: ']' :: r => member fuel c r
    | '\\' :: c :: r =>
      match form.letters, letter? c with
      | true, some d => member fuel d r
      | _, _ => if form.slashes then member fuel c r else member fuel '\\' (c :: r)
    | c :: r => member fuel c r
where
  /-- A range that begins with a character, or the character alone, and the set behind it. -/
  member (fuel : Nat) (c : Char) (r : Octets) :
      Except RegexFault (List (Char × Char) × Octets) :=
    match r with
    | '-' :: ']' :: _ =>
      (readSet form fuel false r).map fun (ranges, rest) => ((c, c) :: ranges, rest)
    | '-' :: d :: after =>
      let (d, after) := match d, after with
        | '[', '.' :: e :: '.' :: ']' :: after => (e, after)
        | '\\', e :: more => if form.slashes then (e, more) else (d, after)
        | _, _ => (d, after)
      if d < c then .error .badRange
      else (readSet form fuel false after).map fun (ranges, rest) => ((c, d) :: ranges, rest)
    | _ => (readSet form fuel false r).map fun (ranges, rest) => ((c, c) :: ranges, rest)

/-- What stands in a bracket is written like a class of characters. -/
def isLikeClass (body : Octets) : Bool :=
  match body with
  | ':' :: r =>
    let name := r.takeWhile Char.isAlpha
    !name.isEmpty && Text.startsWith [':', ']'] (r.drop name.length)
  | _ => false

/-- The set behind an opening bracket. -/
def readBracket (form : RegexForm) (cs : Octets) : Except RegexFault (Regex × Octets) :=
  let (negated, body) := match cs with
    | '^' :: r => (true, r)
    | r => (false, r)
  if form.guardsClasses && isLikeClass body then .error .bareClass
  else (readSet form (2 * body.length + 2) true body).map fun (ranges, rest) =>
    (.set negated ranges, rest)

/-- The characters of words. -/
def wordRanges : List (Char × Char) := ('_', '_') :: classRanges "alnum"

/-- What a character behind a backslash stands for. -/
def escaped (form : RegexForm) (c : Char) : Regex :=
  if !form.marks then .char (if c == 'b' then '\x08' else (letter? c).getD c)
  else match c with
  | 'w' => .set false wordRanges
  | 'W' => .set true wordRanges
  | 's' => .set false (classRanges "space")
  | 'S' => .set true (classRanges "space")
  | '<' => .wordStart
  | '>' => .wordFinish
  | 'b' => .wordEdge false
  | 'B' => .wordEdge true
  | '\x60' => .textStart
  | '\x27' => .textFinish
  | c =>
    if form.digits && (c == 'd' || c == 'D') then .set (c == 'D') (classRanges "digit")
    else match form.letters, letter? c with
      | true, some d => .char d
      | _, _ => .char c

/-- A basic expression ends here, or an alternative or group of it does. -/
def endsHere (form : RegexForm) (cs : Octets) : Bool :=
  cs.isEmpty || (signLength? form ')' cs).isSome || (signLength? form '|' cs).isSome

/-- The item is a place between characters, which cannot be repeated. -/
def isAnchor : Regex → Bool
  | .start | .finish | .textStart | .textFinish | .wordStart | .wordFinish | .wordEdge _ => true
  | _ => false

mutual

/-- Alternatives. -/
def readEither (fuel : Nat) (inGroup : Bool) : Reader Regex :=
  match fuel with
  | 0 => throw .openGroup
  | fuel + 1 => do
    let first ← readNext fuel inGroup true
    let filled := (← get).form.filled
    let holdsNothing := match first with
      | .empty => true
      | _ => false
    if filled && holdsNothing && inGroup then
      throw (if (← get).rest.isEmpty then .openGroup else .badRepeat)
    match ← sign? '|' with
    | some n =>
      if filled && (holdsNothing || (← get).rest.length = n) then throw .badRepeat
      take n
      return .either first (← readEither fuel inGroup)
    | none => return first

/-- Items one after the other; `first` tells that nothing stands in front of them. -/
def readNext (fuel : Nat) (inGroup first : Bool) : Reader Regex :=
  match fuel with
  | 0 => throw .openGroup
  | fuel + 1 => do
    if (← get).rest.isEmpty || (← sign? '|').isSome then return .empty
    if (← sign? ')').isSome then
      if inGroup then return .empty
      if !(← get).form.bareClose then throw .closedGroup
    let s ← get
    if s.form.skipsSigns && s.rest.head?.any fun c => c == '*' || c == '+' || c == '?' then
      take 1
      readNext fuel inGroup first
    else
      let item ← readItem fuel first
      let item ← if isAnchor item then pure item else readRepeats fuel false item
      return .next item (← readNext fuel inGroup false)

/-- How often an item stands; it may be one that is `repeated` already. -/
def readRepeats (fuel : Nat) (repeated : Bool) (item : Regex) : Reader Regex :=
  match fuel with
  | 0 => throw .openGroup
  | fuel + 1 => do
    let s ← get
    let refuses := repeated && s.form.single
    match s.rest with
    | '*' :: _ =>
      if refuses then throw .badRepeat
      take 1
      readRepeats fuel true (.star item)
    | _ =>
      match ← sign? '+', ← sign? '?', ← sign? '\x7b' with
      | some n, _, _ =>
        take n
        readRepeats fuel true (.next item (.star item))
      | _, some n, _ =>
        take n
        readRepeats fuel true (.either item .empty)
      | _, _, some n =>
        if refuses then throw .badRepeat
        let ending : Octets := if s.form.extended then ['\x7d'] else ['\\', '\x7d']
        match Text.cut? ending (s.rest.drop n) with
        | none => if s.form.loose then readLooseBrace fuel item else throw .openBrace
        | some (inner, rest) =>
          match counts? inner with
          | none => if s.form.loose then readLooseBrace fuel item else throw .badCounts
          | some (least, most) =>
            if most.any (· < least) then throw .badCounts
            modify fun s => { s with rest := rest }
            readRepeats fuel true (times item least most)
      | _, _, _ => return item

/-- A brace that stands for itself behind an item. -/
def readLooseBrace (fuel : Nat) (item : Regex) : Reader Regex :=
  match fuel with
  | 0 => throw .openGroup
  | fuel + 1 => do
    take 1
    let brace ← readRepeats fuel false (.char '\x7b')
    return .next item brace

/-- One item; `first` tells that nothing stands in front of it. -/
def readItem (fuel : Nat) (first : Bool) : Reader Regex :=
  match fuel with
  | 0 => throw .openGroup
  | fuel + 1 => do
    match ← sign? '(' with
    | some n =>
      take n
      let number := (← get).groups + 1
      modify fun s => { s with groups := number }
      let inner ← readEither fuel true
      match ← sign? ')' with
      | some n =>
        take n
        return .group number inner
      | none => throw .openGroup
    | none =>
      let s ← get
      match s.rest with
      | '.' :: _ =>
        take 1
        return .one
      | '^' :: _ =>
        take 1
        return if s.form.extended || first then .start else .char '^'
      | '$' :: r =>
        take 1
        return if s.form.extended || endsHere s.form r then .finish else .char '$'
      | '[' :: r =>
        let (item, rest) ← readBracket s.form r
        modify fun s => { s with rest := rest }
        return item
      | ['\\'] => throw .lastSlash
      | '\\' :: c :: _ =>
        take 2
        if '1' ≤ c && c ≤ '9' && !s.form.slashes then
          let number := c.toNat - '0'.toNat
          if s.groups < number then throw .badGroup
          return .again number
        return escaped s.form c
      | c :: _ =>
        let repeats := c == '*' || c == '+' || c == '?' || (c == '\x7b' && s.form.counts)
        if s.form.extended && repeats && !s.form.loose then throw .badRepeat
        take 1
        return .char c
      | [] => return .empty

end

/-- The expression that a text is. -/
def ofText (form : RegexForm) (cs : Octets) : Except RegexFault Regex :=
  match (readEither (8 * cs.length + 16) false).run ⟨form, cs, 0⟩ with
  | .ok (r, _) => .ok r
  | .error f => .error f

/-- The expression that stands for a text itself. -/
def literal (cs : Octets) : Regex :=
  cs.foldr (fun c r => .next (.char c) r) .empty

/-- How many groups an expression has. -/
def groupCount : Regex → Nat
  | .group number inner => max number (groupCount inner)
  | .next a b | .either a b => max (groupCount a) (groupCount b)
  | .star inner => groupCount inner
  | _ => 0

/-- A part of the expression asks for the text of a group. -/
def looksBack : Regex → Bool
  | .again _ => true
  | .group _ inner | .star inner => looksBack inner
  | .next a b | .either a b => looksBack a || looksBack b
  | _ => false

/-! ## Matching -/

/-- What does not count in a match. -/
structure MatchRules where
  /-- The case of letters. -/
  ignoreCase : Bool
  /-- Lines start and end inside of the text too. -/
  byLines : Bool

/-- Where a match has got to: how far, what stands before, reversed, what is left, and the
groups. -/
structure Place where
  offset : Nat
  before : Octets
  rest : Octets
  groups : List (Nat × Octets)

/-- Two characters are the same, whatever their case if that does not count. -/
def sameChar (ignoreCase : Bool) (a b : Char) : Bool :=
  a == b || (ignoreCase && a.toLower == b.toLower)

/-- A character of a word. -/
def isWordChar (c : Char) : Bool := c.isAlphanum || c == '_'

/-- A character is one that any character stands for. Where lines count, none stands for their
endings. -/
def isOne (rules : MatchRules) (c : Char) : Bool := !(rules.byLines && c == '\n')

/-- A character is one of a set. -/
def inSet (rules : MatchRules) (negated : Bool) (ranges : List (Char × Char)) (c : Char) : Bool :=
  !(negated && rules.byLines && c == '\n') &&
  (inRanges ranges c ||
    (rules.ignoreCase && (inRanges ranges c.toLower || inRanges ranges c.toUpper))) != negated

/-- The expression matches a text without characters, as far as that is easily seen. -/
def mayBeEmpty : Regex → Bool
  | .char _ | .one | .set .. => false
  | .group _ inner => mayBeEmpty inner
  | .next a b => mayBeEmpty a && mayBeEmpty b
  | .either a b => mayBeEmpty a || mayBeEmpty b
  | _ => true

/-- A match may begin with a character. -/
def mayBegin (rules : MatchRules) (c : Char) : Regex → Bool
  | .char d => sameChar rules.ignoreCase c d
  | .set negated ranges => inSet rules negated ranges c
  | .group _ inner => mayBegin rules c inner
  | .next a b => mayBegin rules c a || (mayBeEmpty a && mayBegin rules c b)
  | .either a b => mayBegin rules c a || mayBegin rules c b
  | .star inner => mayBegin rules c inner
  | _ => true

/-- The first of the places at each offset. -/
def firstPlaces (places : List Place) : List Place :=
  match places with
  | [] | [_] => places
  | _ =>
    let size := (places.map (·.offset)).foldl max 0
    ((places.foldl (fun (found : Array Bool × List Place) p =>
      if found.1.getD p.offset false then found
      else (found.1.setIfInBounds p.offset true, p :: found.2))
      (Array.replicate (size + 1) false, [])).2).reverse

/-- The places behind any number of steps, those behind more steps first. A step that does not get
further is not taken. -/
def starPlaces (step : Place → List Place) : (fuel : Nat) → (seen : List Nat) → Place →
    List Nat × List Place
  | 0, seen, p => (seen, [p])
  | fuel + 1, seen, p =>
    let (seen, deeper) := (step p).foldl (fun (seen, found) q =>
      if q.offset ≤ p.offset || seen.contains q.offset then (seen, found)
      else
        let (seen, more) := starPlaces step fuel (q.offset :: seen) q
        (seen, found ++ more)) (seen, [])
    (seen, deeper ++ [p])

/-- The places behind each of the characters that are accepted, the last one first. -/
def runPlaces (accepts : Char → Bool) : (fuel : Nat) → List Place → Place → List Place
  | 0, found, p => p :: found
  | fuel + 1, found, p =>
    match p.rest with
    | c :: rest =>
      if accepts c then
        runPlaces accepts fuel (p :: found)
          { p with offset := p.offset + 1, before := c :: p.before, rest := rest }
      else p :: found
    | [] => p :: found

/-- All places that a match can get to, those of longer repetitions first. -/
def places (rules : MatchRules) (keepsAll : Bool) : Regex → Place → List Place
  | r, p =>
    let step (accepts : Char → Bool) : List Place :=
      match p.rest with
      | c :: rest =>
        if accepts c then [⟨p.offset + 1, c :: p.before, rest, p.groups⟩] else []
      | [] => []
    let only (holds : Bool) : List Place := if holds then [p] else []
    let wordBefore := p.before.head?.any isWordChar
    let wordBehind := p.rest.head?.any isWordChar
    match r with
    | .empty => [p]
    | .char c => step (sameChar rules.ignoreCase c)
    | .one => step (isOne rules)
    | .set negated ranges => step (inSet rules negated ranges)
    | .textStart => only p.before.isEmpty
    | .textFinish => only p.rest.isEmpty
    | .start => only (p.before.isEmpty || (rules.byLines && p.before.head? == some '\n'))
    | .finish => only (p.rest.isEmpty || (rules.byLines && p.rest.head? == some '\n'))
    | .wordStart => only (!wordBefore && wordBehind)
    | .wordFinish => only (wordBefore && !wordBehind)
    | .wordEdge negated => only ((wordBefore != wordBehind) != negated)
    | .again number =>
      let text := ((p.groups.find? fun (n, _) => n == number).map (·.2)).getD []
      let here := p.rest.take text.length
      let same := here.length = text.length &&
        (here.zip text).all fun (a, b) => sameChar rules.ignoreCase a b
      if same then
        [⟨p.offset + text.length, here.reverse ++ p.before, p.rest.drop text.length, p.groups⟩]
      else []
    | .group number inner =>
      (places rules keepsAll inner p).map fun q =>
        let text := (q.before.take (q.offset - p.offset)).reverse
        { q with groups := (number, text) :: q.groups.filter fun (n, _) => n != number }
    | .next a b =>
      let found := (places rules keepsAll a p).flatMap (places rules keepsAll b)
      if keepsAll then found else firstPlaces found
    | .either a b =>
      let found := places rules keepsAll a p ++ places rules keepsAll b p
      if keepsAll then found else firstPlaces found
    | .star inner =>
      let fuel := p.rest.length + 1
      match inner with
      | .char c => runPlaces (sameChar rules.ignoreCase c) fuel [] p
      | .one => runPlaces (isOne rules) fuel [] p
      | .set negated ranges => runPlaces (inSet rules negated ranges) fuel [] p
      | inner => (starPlaces (places rules keepsAll inner) fuel [] p).2

/-- The longest of some places; of equally long ones the first. -/
def longest? : List Place → Option Place
  | [] => none
  | p :: rest =>
    match longest? rest with
    | some q => if p.offset < q.offset then some q else some p
    | none => some p

/-- The longest match that begins here, with what follows and its groups. -/
def matchHere? (r : Regex) (rules : MatchRules) (before cs : Octets) :
    Option (Octets × Octets × List (Nat × Octets)) :=
  (longest? (places rules r.looksBack r ⟨0, before, cs, []⟩)).map fun p =>
    ((p.before.take p.offset).reverse, p.rest, p.groups)

/-- The first longest match from here on: what stands before it, the match, what follows, and its
groups. -/
def findFrom? (r : Regex) (rules : MatchRules) (before : Octets) :
    Octets → Option (Octets × Octets × Octets × List (Nat × Octets))
  | [] => (matchHere? r rules before []).map fun (text, after, groups) =>
      ([], text, after, groups)
  | c :: rest =>
    let here := if r.mayBeEmpty || r.mayBegin rules c then matchHere? r rules before (c :: rest)
      else none
    match here with
    | some (text, after, groups) => some ([], text, after, groups)
    | none =>
      (findFrom? r rules (c :: before) rest).map fun (a, text, after, groups) =>
        (c :: a, text, after, groups)

/-- The first longest match in a text. -/
def find? (r : Regex) (ignoreCase : Bool) (cs : Octets) :
    Option (Octets × Octets × Octets × List (Nat × Octets)) :=
  findFrom? r ⟨ignoreCase, false⟩ [] cs

/-- The expression matches somewhere in a text. -/
def isIn (r : Regex) (ignoreCase : Bool) (cs : Octets) : Bool :=
  (find? r ignoreCase cs).isSome

end Regex

end MatrixFlow.Script
