import MatrixFlow.Script.Regex

/-!
# Records, fields and replacements

* `Separator`: what separates fields.
* `Separator.split`: the fields of a record.
* `Ending`: what ends records; `Ending.next?` is the first record of an input.
* `replaced`: a text with something in the place of matches.
-/

namespace MatrixFlow.Script.Record

/-! ## Fields -/

/-- What separates fields. -/
inductive Separator where
  /-- Any number of blanks; those at the ends do not count. -/
  | blanks
  | char (c : Char)
  /-- Nothing: each character is a field. -/
  | nothing
  | regex (r : Regex)

/-- A blank between fields. -/
def isFieldBlank (c : Char) : Bool := c == ' ' || c == '\t' || c == '\n'

/-- The words between blanks, in front of which `word` stands in reverse. -/
def wordsFrom (word : Octets) : Octets → List Octets
  | [] => if word.isEmpty then [] else [word.reverse]
  | c :: r =>
    if isFieldBlank c then
      if word.isEmpty then wordsFrom [] r else word.reverse :: wordsFrom [] r
    else wordsFrom (c :: word) r

/-- The pieces between matches of an expression that are not empty. -/
def piecesBetween (r : Regex) : (fuel : Nat) → (before : Octets) → Octets → List Octets
  | 0, _, cs => [cs]
  | fuel + 1, before, cs =>
    match firstSolid r (cs.length + 1) before cs with
    | none => [cs]
    | some (piece, found, rest) =>
      piece :: piecesBetween r fuel (found.reverse ++ piece.reverse ++ before) rest
where
  /-- The first match that is not empty, with what stands in front of it and behind it. -/
  firstSolid (r : Regex) : (fuel : Nat) → (before : Octets) → Octets →
      Option (Octets × Octets × Octets)
    | 0, _, _ => none
    | fuel + 1, before, cs =>
      match r.findFrom? ⟨false, false⟩ before cs with
      | none => none
      | some (skipped, [], rest, _) =>
        match rest with
        | [] => none
        | c :: rest =>
          (firstSolid r fuel (c :: skipped.reverse ++ before) rest).map
            fun (piece, found, rest) => (skipped ++ c :: piece, found, rest)
      | some (skipped, found, rest, _) => some (skipped, found, rest)

namespace Separator

/-- The fields of a record. -/
def split (sep : Separator) (cs : Octets) : List Octets :=
  if cs.isEmpty then []
  else match sep with
    | .blanks => wordsFrom [] cs
    | .char c => Text.splitOn c cs
    | .nothing => cs.map fun c => [c]
    | .regex r => piecesBetween r (cs.length + 1) [] cs

end Separator

/-! ## Records -/

/-- What ends records. -/
inductive Ending where
  | char (c : Char)
  /-- Empty lines. -/
  | paragraph
  | regex (r : Regex)

/-- The lines up to an empty one, in front of which `made` stands in reverse, and what follows. -/
def paragraphFrom (made : Octets) : Octets → Octets × Octets
  | [] => (made.reverse, [])
  | ['\n'] => (made.reverse, [])
  | '\n' :: '\n' :: r => (made.reverse, r.dropWhile (· == '\n'))
  | c :: r => paragraphFrom (c :: made) r

/-- What stands up to a character, in front of which `made` stands in reverse, and what follows. -/
def lineFrom (ending : Char) (made : Octets) : Octets → Octets × Octets
  | [] => (made.reverse, [])
  | c :: r => if c == ending then (made.reverse, r) else lineFrom ending (c :: made) r

namespace Ending

/-- The first record of an input, and what follows. -/
def next? (ending : Ending) (input : Octets) : Option (Octets × Octets) :=
  match input, ending with
  | [], _ => none
  | input, .char c => some (lineFrom c [] input)
  | input, .paragraph =>
    match input.dropWhile (· == '\n') with
    | [] => none
    | input => some (paragraphFrom [] input)
  | input, .regex r =>
    match piecesBetween.firstSolid r (input.length + 1) [] input with
    | some (piece, _, rest) => some (piece, rest)
    | none => some (input, [])

end Ending

/-! ## Replacing -/

/-- A part of a replacement. -/
inductive ReplacementPart where
  | char (c : Char)
  /-- The text that matched. -/
  | found

/-- The parts of a replacement. A backslash in front of the sign for what matched, or in front of
such a backslash, is not part of the text. -/
def replacementParts : Octets → List ReplacementPart
  | [] => []
  | '\\' :: '\\' :: '&' :: r => .char '\\' :: .found :: replacementParts r
  | '\\' :: '&' :: r => .char '&' :: replacementParts r
  | '&' :: r => .found :: replacementParts r
  | c :: r => .char c :: replacementParts r

/-- What stands in the place of a match. -/
def replacementFor (found : Octets) (parts : List ReplacementPart) : Octets :=
  parts.flatMap fun
    | .char c => [c]
    | .found => found

/-- A text with something in the place of matches, or of the first one, and how many there are. An
empty match does not count right behind another one, which `adjacent` tells. -/
def replacedFrom (r : Regex) (parts : List ReplacementPart) (everywhere : Bool) :
    (fuel : Nat) → (adjacent : Bool) → (before : Octets) → Octets → Octets × Nat
  | 0, _, _, cs => (cs, 0)
  | fuel + 1, adjacent, before, cs =>
    match r.findFrom? ⟨false, false⟩ before cs with
    | none => (cs, 0)
    | some (skipped, found, rest, _) =>
      if adjacent && skipped.isEmpty && found.isEmpty then
        match cs with
        | [] => ([], 0)
        | c :: cs =>
          let (text, count) := replacedFrom r parts everywhere fuel false (c :: before) cs
          (c :: text, count)
      else
        let text := skipped ++ replacementFor found parts
        if !everywhere then (text ++ rest, 1)
        else
          let passed := found.reverse ++ skipped.reverse ++ before
          match found, rest with
          | [], [] => (text, 1)
          | [], c :: rest =>
            let (more, count) := replacedFrom r parts everywhere fuel false (c :: passed) rest
            (text ++ c :: more, count + 1)
          | _, rest =>
            let (more, count) := replacedFrom r parts everywhere fuel true passed rest
            (text ++ more, count + 1)

/-- A text with something in the place of matches, and how many there are. -/
def replaced (r : Regex) (replacement : Octets) (everywhere : Bool) (cs : Octets) :
    Octets × Nat :=
  replacedFrom r (replacementParts replacement) everywhere (2 * cs.length + 4) false [] cs

end MatrixFlow.Script.Record
