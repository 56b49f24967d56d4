import MatrixFlow.Script.Arithmetic
import MatrixFlow.Script.Read.Word

/-!
# Braces in words

`braceWords`: the words that a word with braces stands for. Braces hold alternatives with commas
between them, or the two ends of a range.
-/

namespace MatrixFlow.Script

/-- A character that may belong to braces, or a piece of a word that does not. -/
inductive BraceAtom where
  | char (c : Char)
  | part (p : WordPart)

namespace BraceAtom

/-- The atom is this character. -/
def isChar (c : Char) : BraceAtom → Bool
  | char d => c == d
  | part _ => false

/-- The atoms of a word. -/
def ofWord (word : Word) : List BraceAtom :=
  word.flatMap fun p => match p with
    | .text false cs => cs.map char
    | p => [part p]

/-- The word of atoms. -/
def toWord (atoms : List BraceAtom) : Word :=
  atoms.foldr (fun a word => match a with
    | char c => consText false [c] word
    | part p => p :: word) []

/-- The text of atoms that are all characters. -/
def text? : List BraceAtom → Option Octets
  | [] => some []
  | char c :: rest => (text? rest).map (c :: ·)
  | part _ :: _ => none

/-- The depth behind an atom. -/
def depthAfter (depth : Nat) (a : BraceAtom) : Nat :=
  if a.isChar '\x7b' then depth + 1 else if a.isChar '\x7d' then depth - 1 else depth

/-- Atoms with commas between them, where commas inside braces do not count. -/
def splitCommas : (depth : Nat) → List BraceAtom → List (List BraceAtom)
  | _, [] => [[]]
  | depth, a :: r =>
    if a.isChar ',' && depth = 0 then [] :: splitCommas 0 r
    else match splitCommas (depthAfter depth a) r with
      | [] => [[a]]
      | piece :: pieces => (a :: piece) :: pieces

/-- What stands up to the brace that closes, and what follows. -/
def closing? : (depth : Nat) → List BraceAtom → Option (List BraceAtom × List BraceAtom)
  | _, [] => none
  | depth, a :: r =>
    if a.isChar '\x7d' && depth = 0 then some ([], r)
    else (closing? (depthAfter depth a) r).map fun (inner, rest) => (a :: inner, rest)

end BraceAtom

/-- The numbers from one to another in steps of a size. -/
def steps (first last : Int) (size : Nat) : List Int :=
  let size := max size 1
  (List.range ((first - last).natAbs / size + 1)).map fun (n : Nat) =>
    if first ≤ last then first + n * size else first - n * size

/-- How many digits the numbers of a range have at least: a leading zero asks for as many as the
longer end has. -/
def rangeWidth (low high : Octets) : Nat :=
  let padded (cs : Octets) : Bool :=
    let digits := if cs.head? == some '-' then cs.drop 1 else cs
    digits.head? == some '0' && digits.length > 1
  if padded low || padded high then max low.length high.length else 0

/-- A number with at least so many characters. -/
def widened (width : Nat) (n : Int) : Octets :=
  let digits := Nat.toDigits 10 n.natAbs
  let sign : Octets := if n < 0 then ['-'] else []
  sign ++ List.replicate (width - sign.length - digits.length) '0' ++ digits

/-- A whole number in decimal digits. -/
def decimal? (cs : Octets) : Option Int :=
  let (negative, digits) := match cs with
    | '-' :: r => (true, r)
    | '+' :: r => (false, r)
    | r => (false, r)
  let (value, count) := leadingNumber 10 digits.length digits
  if count = 0 || count ≠ digits.length then none
  else some (if negative then -(value : Int) else value)

/-- The texts of a range: numbers or letters from one to another, perhaps in steps. -/
def braceRange? (inner : Octets) : Option (List Octets) :=
  let range (low high : Octets) (size : Nat) : Option (List Octets) :=
    match decimal? low, decimal? high, low, high with
    | some a, some b, _, _ => some ((steps a b size).map (widened (rangeWidth low high)))
    | _, _, [a], [b] =>
      if a.isAlpha && b.isAlpha then
        some ((steps a.toNat b.toNat size).map fun n => [Char.ofNat n.toNat])
      else none
    | _, _, _, _ => none
  match Text.cut? ['.', '.'] inner with
  | none => none
  | some (low, rest) =>
    match Text.cut? ['.', '.'] rest with
    | none => range low rest 1
    | some (high, size) => (decimal? size).bind fun n => range low high n.natAbs

/-- The words that atoms with braces stand for. -/
def expandBraces : (fuel : Nat) → List BraceAtom → List (List BraceAtom)
  | 0, atoms => [atoms]
  | _, [] => [[]]
  | fuel + 1, a :: r =>
    let plain := (expandBraces fuel r).map (a :: ·)
    if a.isChar '\x7b' then
      match BraceAtom.closing? 0 r with
      | none => plain
      | some (inner, rest) =>
        let choices := BraceAtom.splitCommas 0 inner
        let middles := if choices.length > 1 then some (choices.flatMap (expandBraces fuel))
          else ((BraceAtom.text? inner).bind braceRange?).map fun texts =>
            texts.map fun cs => cs.map BraceAtom.char
        match middles with
        | none => plain
        | some middles =>
          let tails := expandBraces fuel rest
          middles.flatMap fun m => tails.map (m ++ ·)
    else plain

/-- The words that a word with braces stands for. -/
def braceWords (dialect : Dialect) (word : Word) : List Word :=
  let atoms := BraceAtom.ofWord word
  if dialect = .extended && atoms.any (BraceAtom.isChar '\x7b') then
    (expandBraces (2 * atoms.length + 2) atoms).map BraceAtom.toWord
  else [word]

end MatrixFlow.Script
