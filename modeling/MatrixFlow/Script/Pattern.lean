import MatrixFlow.Script.Syntax

/-!
# Patterns

* `Marked`: a character that may be quoted, and then stands only for itself.
* `Pattern`: what matches texts; `Pattern.ofMarked` reads one.
* `Pattern.matches`: a pattern matches the whole of a text.
-/

namespace MatrixFlow.Script

/-- A character, quoted or not. -/
structure Marked where
  char : Char
  quoted : Bool
deriving DecidableEq, Repr

/-- One item of a pattern. -/
inductive PatternItem where
  | literal (c : Char)
  /-- Any one character. -/
  | one
  /-- Any text. -/
  | any
  /-- A character in one of the ranges, or in none of them. -/
  | set (negated : Bool) (ranges : List (Char × Char))
  /-- Some of the options, as many as the sign in front tells. -/
  | group (sign : Char) (options : List (List PatternItem))
deriving Repr, Inhabited

/-- What matches texts. -/
abbrev Pattern := List PatternItem

/-- The ranges of a named class of characters. -/
def classRanges (name : String) : List (Char × Char) :=
  match name with
  | "alpha" => [('a', 'z'), ('A', 'Z')]
  | "digit" => [('0', '9')]
  | "alnum" => [('a', 'z'), ('A', 'Z'), ('0', '9')]
  | "upper" => [('A', 'Z')]
  | "lower" => [('a', 'z')]
  | "space" => [(' ', ' '), ('\t', '\r')]
  | "blank" => [(' ', ' '), ('\t', '\t')]
  | "xdigit" => [('0', '9'), ('a', 'f'), ('A', 'F')]
  | "punct" => [('!', '/'), (':', '@'), ('[', '\x60'), ('\x7b', '~')]
  | "print" => [(' ', '~')]
  | "graph" => [('!', '~')]
  | "cntrl" => [('\x00', '\x1f'), ('\x7f', '\x7f')]
  | _ => []

/-- A character is in one of the ranges. -/
def inRanges (ranges : List (Char × Char)) (c : Char) : Bool :=
  ranges.any fun (a, b) => a ≤ c && c ≤ b

namespace Pattern

/-- The ranges of a set up to its bracket, and what follows. A bracket that comes first stands for
itself. -/
def readSet : (fuel : Nat) → (first : Bool) → List Marked →
    Option (List (Char × Char) × List Marked)
  | 0, _, _ => none
  | fuel + 1, first, cs =>
    match cs with
    | [] => none
    | ⟨']', false⟩ :: r => if first then readMember fuel ']' r else some ([], r)
    | ⟨'[', false⟩ :: ⟨':', false⟩ :: r =>
      let name := (r.takeWhile fun m => m.char != ':').map (·.char)
      match r.drop name.length with
      | _ :: ⟨']', _⟩ :: after =>
        (readSet fuel false after).map fun (ranges, rest) =>
          (classRanges (String.ofList name) ++ ranges, rest)
      | _ => readMember fuel '[' (⟨':', false⟩ :: r)
    | m :: r => readMember fuel m.char r
where
  /-- A range that begins with a character, or the character alone, and the set behind it. -/
  readMember (fuel : Nat) (c : Char) (r : List Marked) :
      Option (List (Char × Char) × List Marked) :=
    match r with
    | ⟨'-', false⟩ :: ⟨d, quoted⟩ :: after =>
      if d == ']' && !quoted then
        (readSet fuel false r).map fun (ranges, rest) => ((c, c) :: ranges, rest)
      else (readSet fuel false after).map fun (ranges, rest) => ((c, d) :: ranges, rest)
    | _ => (readSet fuel false r).map fun (ranges, rest) => ((c, c) :: ranges, rest)

/-- The set behind an opening bracket. -/
def readBracket (cs : List Marked) : Option (PatternItem × List Marked) :=
  match cs with
  | ⟨c, false⟩ :: r =>
    if c == '!' || c == '^' then
      (readSet (2 * r.length + 2) true r).map fun (ranges, rest) => (.set true ranges, rest)
    else (readSet (2 * cs.length + 2) true cs).map fun (ranges, rest) => (.set false ranges, rest)
  | _ => (readSet (2 * cs.length + 2) true cs).map fun (ranges, rest) => (.set false ranges, rest)

/-- The options of a group up to its bracket, and what follows. -/
def takeOptions : (depth : Nat) → List Marked → Option (List (List Marked) × List Marked)
  | _, [] => none
  | depth, m :: r =>
    let bare := !m.quoted
    if bare && m.char == ')' && depth = 0 then some ([[]], r)
    else if bare && m.char == '|' && depth = 0 then
      (takeOptions 0 r).map fun (options, rest) => ([] :: options, rest)
    else
      let depth := if bare && m.char == '(' then depth + 1
        else if bare && m.char == ')' then depth - 1 else depth
      (takeOptions depth r).map fun (options, rest) =>
        match options with
        | first :: more => ((m :: first) :: more, rest)
        | [] => ([[m]], rest)

/-- Signs in front of a group. -/
def groupSigns : List Char := ['?', '*', '+', '@', '!']

/-- The options of the group that begins behind its sign, and what follows. -/
def groupHere? (groups : Bool) (m : Marked) (r : List Marked) :
    Option (List (List Marked) × List Marked) :=
  match groups && !m.quoted && groupSigns.contains m.char, r with
  | true, ⟨'(', false⟩ :: after => takeOptions 0 after
  | _, _ => none

/-- The pattern that marked characters are, with fuel for each of them. -/
def readItems (groups : Bool) : (fuel : Nat) → List Marked → Pattern
  | 0, _ => []
  | _, [] => []
  | fuel + 1, m :: r =>
    match groupHere? groups m r with
    | some (options, rest) =>
      .group m.char (options.map (readItems groups fuel)) :: readItems groups fuel rest
    | none =>
      if m.quoted then .literal m.char :: readItems groups fuel r
      else match m.char with
        | '?' => .one :: readItems groups fuel r
        | '*' => .any :: readItems groups fuel r
        | '[' =>
          match readBracket r with
          | some (item, rest) => item :: readItems groups fuel rest
          | none => .literal '[' :: readItems groups fuel r
        | c => .literal c :: readItems groups fuel r

/-- The pattern that marked characters are. -/
def ofMarked (groups : Bool) (cs : List Marked) : Pattern :=
  readItems groups cs.length cs

/-- A text and all its endings, the longest one first. -/
def endings : Octets → List Octets
  | [] => [[]]
  | c :: r => (c :: r) :: endings r

mutual

/-- How many items an item is made of. -/
def itemSize : PatternItem → Nat
  | .group _ options => 1 + optionsSize options
  | _ => 1

/-- How many items a pattern is made of. -/
def size : List PatternItem → Nat
  | [] => 0
  | item :: rest => itemSize item + size rest

/-- How many items options are made of. -/
def optionsSize : List (List PatternItem) → Nat
  | [] => 0
  | p :: rest => size p + optionsSize rest

end

/-- The pattern matches the whole text; there is fuel for each item and each character. -/
def matchesFrom : (fuel : Nat) → Pattern → Octets → Bool
  | 0, _, _ => false
  | fuel + 1, p, cs =>
    match p, cs with
    | [], cs => cs.isEmpty
    | .any :: p, cs => (endings cs).any (matchesFrom fuel p)
    | .group sign options :: p, cs =>
      let splits := (List.range (cs.length + 1)).map fun n => (cs.take n, cs.drop n)
      let isOption (text : Octets) : Bool := options.any fun o => matchesFrom fuel o text
      let once := splits.any fun (text, rest) => isOption text && matchesFrom fuel p rest
      let more := splits.any fun (text, rest) =>
        !text.isEmpty && isOption text && matchesFrom fuel (.group '*' options :: p) rest
      match sign with
      | '@' => once
      | '?' => once || matchesFrom fuel p cs
      | '+' => once || more
      | '*' => matchesFrom fuel p cs || more
      | _ => splits.any fun (text, rest) => !isOption text && matchesFrom fuel p rest
    | _ :: _, [] => false
    | .one :: p, _ :: r => matchesFrom fuel p r
    | .literal d :: p, c :: r => c == d && matchesFrom fuel p r
    | .set negated ranges :: p, c :: r => (inRanges ranges c != negated) && matchesFrom fuel p r

/-- The pattern matches the whole text. -/
def matchesText (p : Pattern) (cs : Octets) : Bool :=
  matchesFrom ((size p + 1) * (cs.length + 2)) p cs

mutual

/-- An item that matches lower case letters in the place of all letters. -/
def lowerItem : PatternItem → PatternItem
  | .literal c => .literal c.toLower
  | .set negated ranges =>
    .set negated (ranges ++ ranges.map fun (a, b) => (a.toLower, b.toLower))
  | .group sign options => .group sign (lowerOptions options)
  | item => item

/-- The same for a pattern. -/
def lower : List PatternItem → List PatternItem
  | [] => []
  | item :: rest => lowerItem item :: lower rest

/-- The same for options. -/
def lowerOptions : List (List PatternItem) → List (List PatternItem)
  | [] => []
  | p :: rest => lower p :: lowerOptions rest

end

/-- The pattern matches the whole text, where the case of letters may not count. -/
def matchesIn (ignoreCase : Bool) (p : Pattern) (cs : Octets) : Bool :=
  if ignoreCase then matchesText (lower p) (cs.map Char.toLower) else p.matchesText cs

/-- Some of the characters stand for more than themselves. -/
def isOpen (groups : Bool) (cs : List Marked) : Bool :=
  (ofMarked groups cs).any fun item => match item with | .literal _ => false | _ => true

/-- How many characters at the start match, the fewest or the most. -/
def matchStart? (p : Pattern) (longest : Bool) (cs : Octets) : Option Nat :=
  let lengths := List.range (cs.length + 1)
  (if longest then lengths.reverse else lengths).find? fun n => p.matchesText (cs.take n)

/-- How many characters at the end match, the fewest or the most. -/
def matchEnd? (p : Pattern) (longest : Bool) (cs : Octets) : Option Nat :=
  let lengths := List.range (cs.length + 1)
  (if longest then lengths.reverse else lengths).find? fun n =>
    p.matchesText (cs.drop (cs.length - n))

/-- Puts texts in the place of the first match, or of all of them. A text depends on the match.
`skipped` characters belong to a match that has been replaced. -/
def replaceIn (p : Pattern) (replacement : Octets → Octets) (everywhere : Bool) :
    (skipped : Nat) → Octets → Octets
  | _, [] => []
  | skipped + 1, _ :: r => replaceIn p replacement everywhere skipped r
  | 0, c :: r =>
    match (p.matchStart? true (c :: r)).filter (0 < ·) with
    | some n =>
      let put := replacement ((c :: r).take n)
      if everywhere then put ++ replaceIn p replacement everywhere (n - 1) r
      else put ++ r.drop (n - 1)
    | none => c :: replaceIn p replacement everywhere 0 r

/-- Puts a text in the place of a match at the start, or at the end. -/
def replaceEdge (p : Pattern) (replacement : Octets → Octets) (atEnd : Bool) (cs : Octets) :
    Octets :=
  if atEnd then
    match p.matchEnd? true cs with
    | some n => cs.take (cs.length - n) ++ replacement (cs.drop (cs.length - n))
    | none => cs
  else
    match p.matchStart? true cs with
    | some n => replacement (cs.take n) ++ cs.drop n
    | none => cs

end Pattern

end MatrixFlow.Script
