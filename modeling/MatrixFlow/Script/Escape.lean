import MatrixFlow.Script.Cursor

/-!
# Escapes

A backslash in a text that is printed stands for another character.

* `EscapeRules`: which escapes count.
* `EscapeRules.apply`: the text that escapes stand for.
-/

namespace MatrixFlow.Script

/-- Which escapes count. -/
structure EscapeRules where
  /-- A zero and up to three octal digits. -/
  zeroOctal : Bool
  /-- Up to three octal digits. -/
  plainOctal : Bool
  /-- An `x` and up to two hexadecimal digits. -/
  hex : Bool
  /-- Quotation marks. -/
  quotes : Bool
  /-- A `c` that ends the text. -/
  stops : Bool
  /-- A `u` or `U` and the number of a character in hexadecimal digits. -/
  wide : Bool
  /-- A `c` and the letter of a control character. -/
  controls : Bool
deriving DecidableEq, Repr

/-- The value of a digit. -/
def digitValue? (base : Nat) (c : Char) : Option Nat :=
  let value :=
    if c.isDigit then c.toNat - '0'.toNat
    else if c.isLower then c.toNat - 'a'.toNat + 10
    else if c.isUpper then c.toNat - 'A'.toNat + 10
    else base
  if value < base then some value else none

/-- The number that leading digits make, and how many there are; at most `limit` count. -/
def leadingNumber (base limit : Nat) (cs : Octets) : Nat × Nat :=
  let digits := ((cs.take limit).map (digitValue? base)).takeWhile Option.isSome
  (digits.foldl (fun n d => n * base + d.getD 0) 0, digits.length)

/-- A number in decimal digits. -/
def natural? (cs : Octets) : Option Nat :=
  if cs.isEmpty || !cs.all Char.isDigit then none
  else some (leadingNumber 10 cs.length cs).1

/-- The character of one letter behind a backslash. -/
def letterEscape? : Char → Option Char
  | 'a' => some '\x07'
  | 'b' => some '\x08'
  | 'e' | 'E' => some '\x1b'
  | 'f' => some '\x0c'
  | 'n' => some '\n'
  | 'r' => some '\r'
  | 't' => some '\t'
  | 'v' => some '\x0b'
  | '\\' => some '\\'
  | _ => none

namespace EscapeRules

/-- What echo knows where it looks at escapes by itself. -/
def loudEcho : EscapeRules := ⟨true, true, false, false, true, false, false⟩

/-- What echo knows on request. -/
def echo : EscapeRules := ⟨true, false, true, false, true, true, false⟩

/-- What the tool of that name knows on request. -/
def toolEcho : EscapeRules := ⟨true, true, true, false, true, false, false⟩

/-- What a printing format knows. -/
def format (hex : Bool) : EscapeRules := ⟨false, true, hex, true, false, hex, false⟩

/-- What an argument of a printing format knows. -/
def argument (hex : Bool) : EscapeRules := ⟨true, true, hex, hex, true, hex, false⟩

/-- What a quotation with a dollar sign knows. -/
def quotation : EscapeRules := ⟨false, true, true, true, false, true, true⟩

/-- A character by its number. One beyond seven bits is written as its escape. -/
def wideText (size : Nat) (value : Nat) : Octets :=
  if value < 128 then [Char.ofNat value]
  else
    let letter := if value < 65536 then 'u' else 'U'
    let size := if value < 65536 then min size 4 else 8
    let digits := (Nat.toDigits 16 value).map Char.toUpper
    '\\' :: letter :: List.replicate (max size 4 - digits.length) '0' ++ digits

/-- What the text behind a backslash stands for, and how many of its characters that takes. -/
def escape? (rules : EscapeRules) (cs : Octets) : Option (Octets × Nat) :=
  match cs with
  | [] => none
  | c :: r =>
    if rules.zeroOctal && c == '0' then
      let (value, count) := leadingNumber 8 3 r
      some ([Char.ofNat (value % 256)], count + 1)
    else if rules.plainOctal && (digitValue? 8 c).isSome then
      let (value, count) := leadingNumber 8 3 cs
      some ([Char.ofNat (value % 256)], count)
    else if rules.hex && c == 'x' then
      let (value, count) := leadingNumber 16 2 r
      if count = 0 then none else some ([Char.ofNat value], count + 1)
    else if rules.wide && (c == 'u' || c == 'U') then
      let size := if c == 'u' then 4 else 8
      let (value, count) := leadingNumber 16 size r
      if count = 0 then none else some (wideText size value, count + 1)
    else if rules.controls && c == 'c' then
      r.head?.map fun d => ([Char.ofNat (d.toUpper.toNat % 32)], 2)
    else if rules.quotes && (c == '\x22' || c == '\x27' || c == '?') then some ([c], 1)
    else (letterEscape? c).map fun d => ([d], 1)

/-- The text that escapes stand for, and whether it was ended; `skipped` characters belong to an
escape that has been read. -/
def applyFrom (rules : EscapeRules) : (skipped : Nat) → Octets → Octets × Bool
  | _, [] => ([], false)
  | skipped + 1, _ :: r => applyFrom rules skipped r
  | 0, c :: r =>
    if c == '\\' then
      if rules.stops && r.head? == some 'c' then ([], true)
      else match rules.escape? r with
        | some (text, count) =>
          let (rest, ended) := applyFrom rules count r
          (text ++ rest, ended)
        | none =>
          let (rest, ended) := applyFrom rules 0 r
          (c :: rest, ended)
    else
      let (rest, ended) := applyFrom rules 0 r
      (c :: rest, ended)

/-- The text that escapes stand for, and whether one of them ended it. -/
def apply (rules : EscapeRules) (cs : Octets) : Octets × Bool :=
  applyFrom rules 0 cs

end EscapeRules

end MatrixFlow.Script
