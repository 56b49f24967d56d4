import MatrixFlow.Json.Value

/-!
# Reading JSON text

`Json.ofText?` reads a text that holds one value and blanks around it. An object's fields come
out sorted by name. Each nested value needs one unit of fuel, and a text has fewer of them than
characters.

A fraction is read in few roundings, not in one: `scaled?` says which.
-/

namespace MatrixFlow.Json

/-- The blanks between the tokens. -/
def isSpace (c : Char) : Bool :=
  c = ' ' || c = '\n' || c = '\t' || c = '\r'

/-- The text after its leading blanks. -/
def skipSpaces (cs : List Char) : List Char :=
  cs.dropWhile isSpace

/-- The number of the four hexadecimal digits at the start, and what follows them. -/
def readHex4? : List Char → Option (Nat × List Char)
  | a :: b :: c :: d :: r => (Number.digitsValue? 16 [a, b, c, d]).map (·, r)
  | _ => none

/-- The character of an escape sequence, after its backslash. Two escapes of surrogates stand
for one character. -/
def readEscape? : List Char → Option (Char × List Char)
  | '\x22' :: r => some ('\x22', r)
  | '\\' :: r => some ('\\', r)
  | '/' :: r => some ('/', r)
  | 'b' :: r => some ('\x08', r)
  | 'f' :: r => some ('\x0c', r)
  | 'n' :: r => some ('\n', r)
  | 'r' :: r => some ('\r', r)
  | 't' :: r => some ('\t', r)
  | 'u' :: r => do
    let (high, r) ← readHex4? r
    if 0xD800 ≤ high ∧ high < 0xDC00 then
      match r with
      | '\\' :: 'u' :: r =>
        let (low, r) ← readHex4? r
        if 0xDC00 ≤ low ∧ low < 0xE000 then
          some (Char.ofNat (0x10000 + (high - 0xD800) * 0x400 + (low - 0xDC00)), r)
        else none
      | _ => none
    else if 0xDC00 ≤ high ∧ high < 0xE000 then none
    else some (Char.ofNat high, r)
  | _ => none

/-- The text up to the closing quotation mark, and what follows the mark. -/
def readString? : (fuel : Nat) → List Char → Option (List Char × List Char)
  | 0, _ => none
  | _, [] => none
  | fuel + 1, c :: r =>
    if c = '\x22' then some ([], r)
    else if c = '\\' then do
      let (d, r) ← readEscape? r
      let (s, r) ← readString? fuel r
      some (d :: s, r)
    else if c.toNat < 32 then none
    else do
      let (s, r) ← readString? fuel r
      some (c :: s, r)

/-- Takes decimal digits into a significand until one no longer fits into 64 bits, with the digits
that are left. -/
def takeDigits (significand : Nat) : List Char → Nat × List Char
  | [] => (significand, [])
  | c :: r =>
    let next := significand * 10 + (c.toNat - 48)
    if next < pow2 64 then takeDigits next r else (significand, c :: r)

/-- The number that stands for `significand * 10^exp10`. It is rounded in steps: the significand,
the power of ten, their product or quotient. The powers reach up to `10^308`; for a smaller number
the significand is divided twice, and a greater one is none unless it is zero. -/
def scaled? (negative : Bool) (significand : Nat) (exp10 : Int) : Option Binary64 :=
  let x := Binary64.ofDecimal negative significand 0
  let down := (-exp10).toNat
  let result :=
    if significand = 0 then x
    else if 308 < exp10 then .infinite negative
    else if 0 ≤ exp10 then x.timesTen exp10.toNat
    else if down ≤ 308 then x.overTen down
    else if down ≤ 616 then (x.overTen 308).overTen (down - 308)
    else .zero negative
  if result.isFinite then some result else none

/-- A number of given sign, whole digits, digits after the point and exponent. A negative whole
zero is a fraction, for no integer keeps its sign. Digits that do not fit into 64 bits count as
zeros before the point and as nothing behind it. -/
def numberOf? (negative : Bool) (whole : List Char) (rest : Option (List Char))
    (exponent : Option Int) : Option Number :=
  let (significand, dropped) := takeDigits 0 whole
  let value : Int := if negative then -(significand : Int) else significand
  if rest.isNone ∧ exponent.isNone ∧ dropped.isEmpty ∧ ¬ (negative ∧ significand = 0) ∧
      -(pow2 63 : Int) ≤ value then
    some (.int value)
  else
    let places := rest.getD []
    let (significand, unread) := takeDigits significand places
    let exp10 := (dropped.length : Int) - (places.length - unread.length : Nat) + exponent.getD 0
    (scaled? negative significand exp10).map Number.float

/-- A number at the start of the text, and what follows it. -/
def readNumber? (cs : List Char) : Option (Number × List Char) := do
  let (negative, cs) := match cs with
    | '-' :: r => (true, r)
    | r => (false, r)
  let whole := cs.takeWhile Char.isDigit
  let cs := cs.dropWhile Char.isDigit
  if whole.isEmpty ∨ (whole.head? = some '0' ∧ whole.length ≠ 1) then none
  let (rest, cs) ← match cs with
    | '.' :: r =>
      let places := r.takeWhile Char.isDigit
      if places.isEmpty then none else some (some places, r.dropWhile Char.isDigit)
    | r => some (none, r)
  let (exponent, cs) ← match cs with
    | 'e' :: r | 'E' :: r =>
      let (minus, r) := match r with
        | '-' :: r => (true, r)
        | '+' :: r => (false, r)
        | r => (false, r)
      match Number.digitsValue? 10 (r.takeWhile Char.isDigit) with
      | some n => some (some (if minus then -(n : Int) else (n : Int)), r.dropWhile Char.isDigit)
      | none => none
    | r => some (none, r)
  let n ← numberOf? negative whole rest exponent
  some (n, cs)

mutual

/-- A value at the start of the text, and what follows it. -/
def readValue? : (fuel : Nat) → List Char → Option (Json × List Char)
  | 0, _ => none
  | fuel + 1, cs =>
    match skipSpaces cs with
    | 'n' :: 'u' :: 'l' :: 'l' :: r => some (null, r)
    | 't' :: 'r' :: 'u' :: 'e' :: r => some (bool true, r)
    | 'f' :: 'a' :: 'l' :: 's' :: 'e' :: r => some (bool false, r)
    | '\x22' :: r => (readString? (r.length + 1) r).map fun (s, r) => (str (String.ofList s), r)
    | '[' :: r =>
      match skipSpaces r with
      | ']' :: r => some (arr [], r)
      | r => (readItems? fuel r).map fun (items, r) => (arr items, r)
    | '\x7b' :: r =>
      match skipSpaces r with
      | '\x7d' :: r => some (obj [], r)
      | r => (readFields? fuel r).map fun (fields, r) => (ofFields fields, r)
    | r => (readNumber? r).map fun (n, r) => (num n, r)

/-- Items up to the closing bracket, and what follows it. -/
def readItems? : (fuel : Nat) → List Char → Option (List Json × List Char)
  | 0, _ => none
  | fuel + 1, cs => do
    let (v, r) ← readValue? fuel cs
    match skipSpaces r with
    | ',' :: r =>
      let (rest, r) ← readItems? fuel r
      some (v :: rest, r)
    | ']' :: r => some ([v], r)
    | _ => none

/-- Fields up to the closing brace, and what follows it. -/
def readFields? : (fuel : Nat) → List Char → Option (List (String × Json) × List Char)
  | 0, _ => none
  | fuel + 1, cs => do
    match skipSpaces cs with
    | '\x22' :: r =>
      let (k, r) ← readString? (r.length + 1) r
      match skipSpaces r with
      | ':' :: r =>
        let (v, r) ← readValue? fuel r
        match skipSpaces r with
        | ',' :: r =>
          let (rest, r) ← readFields? fuel r
          some ((String.ofList k, v) :: rest, r)
        | '\x7d' :: r => some ([(String.ofList k, v)], r)
        | _ => none
      | _ => none
    | _ => none

end

/-- The value that the text holds, if it holds one and nothing but blanks around it. -/
def ofText? (s : String) : Option Json := do
  let cs := s.toList
  let (v, r) ← readValue? (cs.length + 1) cs
  if (skipSpaces r).isEmpty then some v else none

end MatrixFlow.Json
