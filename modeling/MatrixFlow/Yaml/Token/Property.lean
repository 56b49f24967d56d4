import MatrixFlow.Text.Utf8
import MatrixFlow.Yaml.Token.Scalar

/-!
# Anchors, tags and directives

Readers for the tokens that are made of words: `readAnchor`, `readTag`, `readDirective`. Each
takes the text from the first character of the token on.
-/

namespace MatrixFlow.Yaml

/-- Reads an anchor or an alias. A name needs at least one character and must stand alone. -/
def readAnchor (isAlias : Bool) (c : Cursor) : Except Fault (Token × Cursor) :=
  let (name, after) := c.skip.span isWordChar
  let standsAlone := atBlank after.rest || match after.rest with
    | d :: _ => ['?', ':', ',', ']', '\x7d', '%', '@', '\x60'].contains d
    | [] => true
  if name.isEmpty || !standsAlone then .error ⟨.anchorName, after.mark, 0, none⟩
  else
    let name := String.ofList name
    .ok (⟨if isAlias then .alias name else .anchor name, c.mark, after.mark⟩, after)

/-- The punctuation that a tag may hold. -/
def tagPunctuation : List Char :=
  [';', '/', '?', ':', '@', '&', '=', '+', '$', '.', '%', '!', '~', '*', '\x27', '(', ')']

/-- The characters of a tag. A tag in angle brackets may hold the punctuation of flow
collections too. -/
def isTagChar (bracketed : Bool) (c : Char) : Bool :=
  isWordChar c || tagPunctuation.contains c || (bracketed && [',', '[', ']'].contains c)

/-- The count of octets of a character, by its first. -/
def octetWidth (octet : Nat) : Nat :=
  if octet < 0x80 then 1
  else if octet / 32 = 6 then 2
  else if octet / 16 = 14 then 3
  else if octet / 8 = 30 then 4
  else 0

/-- Reads the octet of an escape: a percent sign and two digits. -/
def readOctet? : List Char → Option Nat
  | '%' :: a :: b :: _ => match hexValue? a, hexValue? b with
    | some x, some y => some (x * 16 + y)
    | _, _ => none
  | _ => none

/-- Reads the octets of a tag; `left` of an escaped character are still to come. The octets are
in reverse order. -/
def tagOctets (bracketed : Bool) (left : Nat) (octets : List UInt8) :
    List Char → Mark → Except Fault (List UInt8 × Cursor)
  | [], m =>
    if left = 0 then .ok (octets, ⟨[], m⟩) else .error ⟨.escapedOctet, m, 0, none⟩
  | c :: r, m =>
    if left = 0 && !isTagChar bracketed c then .ok (octets, ⟨c :: r, m⟩)
    else if left = 0 && c ≠ '%' then
      tagOctets bracketed 0 (c.toNat.toUInt8 :: octets) r (m.forward 1)
    else
      match readOctet? (c :: r) with
      | none => .error ⟨.escapedOctet, m, 0, none⟩
      | some octet =>
        if left = 0 && octetWidth octet = 0 then .error ⟨.leadingOctet, m, 0, none⟩
        else if left ≠ 0 && octet / 64 ≠ 2 then .error ⟨.trailingOctet, m, 0, none⟩
        else
          let left := if left = 0 then octetWidth octet - 1 else left - 1
          match r with
          | _ :: _ :: r => tagOctets bracketed left (octet.toUInt8 :: octets) r (m.forward 3)
          | _ => .error ⟨.escapedOctet, m, 0, none⟩

/-- The text of octets, which stops at an octet of zero. -/
def TagText.ofOctets (octets : List UInt8) : TagText :=
  let octets := octets.takeWhile (· ≠ 0)
  match Text.decode? octets with
  | some cs => ⟨String.ofList cs, true⟩
  | none => ⟨String.ofList (octets.map fun b => Char.ofNat b.toNat), false⟩

/-- Reads the characters of a tag behind `start`, which has been read already. A tag without any
character is a fault. -/
def readTagText (bracketed : Bool) (start : List Char) (c : Cursor) :
    Except Fault (TagText × Cursor) := do
  let (octets, after) ← tagOctets bracketed 0 [] c.rest c.mark
  if start.isEmpty && octets.isEmpty then .error ⟨.tagEmpty, after.mark, 0, none⟩
  else
    .ok (.ofOctets ((start.drop 1).map (fun d => d.toNat.toUInt8) ++ octets.reverse), after)

/-- Reads a tag handle: an exclamation mark, a word, and perhaps a second mark. -/
def readHandle (inDirective : Bool) (c : Cursor) : Except Fault (List Char × Cursor) :=
  if c.rest.head? ≠ some '!' then .error ⟨.tagMark, c.mark, 0, none⟩
  else
    let (word, after) := c.skip.span isWordChar
    if after.rest.head? = some '!' then .ok ('!' :: word ++ ['!'], after.skip)
    else if inDirective && !word.isEmpty then .error ⟨.tagMark, after.mark, 0, none⟩
    else .ok ('!' :: word, after)

/-- Reads a tag: in angle brackets, with a handle, or with neither. -/
def readTag (inFlow : Bool) (c : Cursor) : Except Fault (Token × Cursor) := do
  let (handle, suffix, after) ←
    if c.rest.tail.head? = some '<' then do
      let (suffix, after) ← readTagText true [] (c.skipMany 2)
      if after.rest.head? ≠ some '>' then .error ⟨.tagClose, after.mark, 0, none⟩
      else .ok ("", suffix, after.skip)
    else do
      let (handle, after) ← readHandle false c
      if 1 < handle.length && handle.getLast? = some '!' then
        let (suffix, after) ← readTagText false [] after
        .ok (String.ofList handle, suffix, after)
      else
        let (suffix, after) ← readTagText false handle after
        if suffix.text.isEmpty then .ok ("", ⟨"!", true⟩, after)
        else .ok ("!", suffix, after)
  if (inFlow && after.rest.head? = some ',') || atBlank after.rest then
    .ok (⟨.tag handle suffix, c.mark, after.mark⟩, after)
  else .error ⟨.tagEnd, after.mark, 0, none⟩

/-- Reads a part of a version number, of at most nine digits. -/
def readVersionNumber (c : Cursor) : Except Fault (Nat × Cursor) :=
  let (digits, after) := c.span Char.isDigit
  if 9 < digits.length then .error ⟨.versionLength, c.mark.forward 9, 0, none⟩
  else if digits.isEmpty then .error ⟨.versionNumber, c.mark, 0, none⟩
  else .ok (digits.foldl (fun n d => n * 10 + (d.toNat - 48)) 0, after)

/-- Reads the value of a version directive. -/
def readVersion (c : Cursor) : Except Fault (TokenKind × Cursor) := do
  let (major, c) ← readVersionNumber (c.skipWhile isSpace)
  if c.rest.head? ≠ some '.' then .error ⟨.versionPoint, c.mark, 0, none⟩
  else
    let (minor, c) ← readVersionNumber c.skip
    .ok (.version major minor, c)

/-- Reads the value of a tag directive: a handle and what it stands for. -/
def readTagDirective (c : Cursor) : Except Fault (TokenKind × Cursor) := do
  let (handle, c) ← readHandle true (c.skipWhile isSpace)
  if !(c.rest.head?.any isSpace) then .error ⟨.tagDirectiveBlank, c.mark, 0, none⟩
  else
    let (start, c) ← readTagText true [] (c.skipWhile isSpace)
    if !atBlank c.rest then .error ⟨.tagEnd, c.mark, 0, none⟩
    else .ok (.tagDirective (String.ofList handle) start, c)

/-- Reads a directive with the end of its line. -/
def readDirective (c : Cursor) : Except Fault (Token × Cursor) := do
  let (name, after) := c.skip.span isWordChar
  if name.isEmpty then .error ⟨.directiveName, after.mark, 0, none⟩
  else if !atBlank after.rest then .error ⟨.directiveNameEnd, after.mark, 0, none⟩
  else
    let (kind, after) ←
      if name = ['Y', 'A', 'M', 'L'] then readVersion after
      else if name = ['T', 'A', 'G'] then readTagDirective after
      else .error ⟨.unknownDirective, after.mark, 0, none⟩
    let stop := after.mark
    let after := after.skipToLineEnd
    if !atLineEnd after.rest then .error ⟨.lineEnd, after.mark, 0, none⟩
    else .ok (⟨kind, c.mark, stop⟩, after.skipBreak)

end MatrixFlow.Yaml
