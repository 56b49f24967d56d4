/-!
# Blanks, lines and pieces of a text

* `isBlank`: the characters of Unicode's class White_Space.
* `trimStart`, `trimEnd`, `trim`: a text without the blanks at its start, its end or both.
* `isBlankText`: a text of blanks only.
* `lines`: the lines of a text. A line ends at a line feed, a carriage return just before the
  line feed belongs to the ending, and a text that ends with a line feed has no further line.
* `stripStart?`, `cut?`: a text relative to a given beginning, or to the first place where a
  given piece occurs.
* `splitOn`: the pieces between the occurrences of one character.
* `joinWith`: pieces with a separator between them.
-/

namespace MatrixFlow.Text

/-- The characters of the class White_Space. -/
def isBlank (c : Char) : Bool :=
  let n := c.toNat
  (9 ≤ n && n ≤ 13) || n == 0x20 || n == 0x85 || n == 0xA0 || n == 0x1680 ||
    (0x2000 ≤ n && n ≤ 0x200A) || n == 0x2028 || n == 0x2029 || n == 0x202F ||
    n == 0x205F || n == 0x3000

/-- The text after its leading blanks. -/
def trimStart (cs : List Char) : List Char :=
  cs.dropWhile isBlank

/-- The text before its trailing blanks. -/
def trimEnd (cs : List Char) : List Char :=
  (cs.reverse.dropWhile isBlank).reverse

/-- The text between its leading and its trailing blanks. -/
def trim (cs : List Char) : List Char :=
  trimEnd (trimStart cs)

/-- A text that is empty or consists of blanks. -/
def isBlankText (cs : List Char) : Bool :=
  cs.all isBlank

/-- The number of bytes a text takes in UTF-8. -/
def byteLength (cs : List Char) : Nat :=
  cs.foldl (fun n c => n + c.utf8Size) 0

/-- Drops the carriage return that ends a reversed line. -/
def dropReturn : List Char → List Char
  | '\r' :: r => r
  | r => r

/-- The lines of a text of which `line`, reversed, has been read already. -/
def linesFrom (line : List Char) : List Char → List (List Char)
  | [] => if line.isEmpty then [] else [line.reverse]
  | '\n' :: r => (dropReturn line).reverse :: linesFrom [] r
  | c :: r => linesFrom (c :: line) r

/-- The lines of a text. -/
def lines (cs : List Char) : List (List Char) :=
  linesFrom [] cs

/-- What follows `start`, if the text begins with it. -/
def stripStart? : (start text : List Char) → Option (List Char)
  | [], text => some text
  | _ :: _, [] => none
  | a :: start, c :: text => if a = c then stripStart? start text else none

/-- What stands before and after the first occurrence of `piece`. -/
def cut? (piece : List Char) : List Char → Option (List Char × List Char)
  | [] => if piece.isEmpty then some ([], []) else none
  | c :: r =>
    match stripStart? piece (c :: r) with
    | some rest => some ([], rest)
    | none => (cut? piece r).map fun (before, after) => (c :: before, after)

/-- The text begins with `start`. -/
def startsWith (start text : List Char) : Bool :=
  (stripStart? start text).isSome

/-- The piece occurs in the text. -/
def contains (piece text : List Char) : Bool :=
  (cut? piece text).isSome

/-- What precedes `ending`, if the text ends with it. -/
def stripEnd? (ending text : List Char) : Option (List Char) :=
  (stripStart? ending.reverse text.reverse).map List.reverse

/-- The pieces of a text between the occurrences of `sep`; one more than there are of those. -/
def splitOn (sep : Char) : List Char → List (List Char)
  | [] => [[]]
  | c :: r =>
    if c = sep then [] :: splitOn sep r
    else match splitOn sep r with
      | [] => [[c]]
      | piece :: pieces => (c :: piece) :: pieces

/-- The pieces in order, with `sep` between each two of them. -/
def joinWith (sep : List Char) : List (List Char) → List Char
  | [] => []
  | [piece] => piece
  | piece :: pieces => piece ++ sep ++ joinWith sep pieces

/-- Only the ASCII letters change; a character outside ASCII whose lower-case form is an ASCII
letter, or begins with one, is given that form. Enough to recognise ASCII words in any case. -/
def lowerAscii : List Char → List Char
  | [] => []
  | c :: r =>
    if c = '\u212a' then 'k' :: lowerAscii r
    else if c = '\u0130' then 'i' :: '\u0307' :: lowerAscii r
    else c.toLower :: lowerAscii r

end MatrixFlow.Text

namespace String

/-- The text between its leading and its trailing blanks. -/
def trimBlanks (s : String) : String :=
  ofList (MatrixFlow.Text.trim s.toList)

/-- The text is empty or consists of blanks. -/
def isAllBlank (s : String) : Bool :=
  MatrixFlow.Text.isBlankText s.toList

/-- The lines of a text, without their endings. -/
def textLines (s : String) : List String :=
  (MatrixFlow.Text.lines s.toList).map ofList

/-- The pieces occur one in the other. -/
def hasPiece (s piece : String) : Bool :=
  MatrixFlow.Text.contains piece.toList s.toList

/-- What follows `start`, if the text begins with it. -/
def afterStart? (s start : String) : Option String :=
  (MatrixFlow.Text.stripStart? start.toList s.toList).map ofList

/-- What stands before and after the first occurrence of `piece`. -/
def cutAt? (s piece : String) : Option (String × String) :=
  (MatrixFlow.Text.cut? piece.toList s.toList).map fun (a, b) => (ofList a, ofList b)

/-- The pieces between the occurrences of `sep`. -/
def piecesBy (s : String) (sep : Char) : List String :=
  (MatrixFlow.Text.splitOn sep s.toList).map ofList

/-- The text with its ASCII letters in lower case. -/
def lowered (s : String) : String :=
  ofList (MatrixFlow.Text.lowerAscii s.toList)

end String
