import MatrixFlow.Json.Value

/-!
# JSON text

* `Json.compact`: a value on one line without blanks.
* `Json.pretty`: a value over several lines, two blanks further in at each level.
* `Json.numberText`: integers in full; fractions with the fewest digits that read back,
  positionally from `1e-5` up to below `1e16`, else with a signed exponent.
-/

namespace MatrixFlow.Json

/-- Fractions are positional from `1e-5` to below `1e16`; other exponents bear their sign. -/
def floatStyle : FloatStyle := ⟨some (-5, 15), true⟩

/-- The text of a number; what is no finite number is `null`. -/
def numberText : Number → String
  | .int i => Number.intText i
  | .float (.finite n m e) => floatStyle.render n m e
  | .float _ => "null"

/-- A digit of base 16. -/
def hexDigit (n : Nat) : Char :=
  if n < 10 then Char.ofNat (48 + n) else Char.ofNat (87 + n)

/-- A character inside quotation marks: the marks, the backslash and the control characters are
escaped, by one letter where there is one for them. -/
def escapeChar (c : Char) : List Char :=
  if c = '\x22' then ['\\', '\x22']
  else if c = '\\' then ['\\', '\\']
  else if c = '\x08' then ['\\', 'b']
  else if c = '\x0c' then ['\\', 'f']
  else if c = '\n' then ['\\', 'n']
  else if c = '\r' then ['\\', 'r']
  else if c = '\t' then ['\\', 't']
  else if c.toNat < 32 then
    ['\\', 'u', '0', '0', hexDigit (c.toNat / 16), hexDigit (c.toNat % 16)]
  else [c]

/-- A text in quotation marks. -/
def quote (s : String) : String :=
  String.ofList ('\x22' :: s.toList.flatMap escapeChar ++ ['\x22'])

mutual

/-- The text of a value on one line. -/
def compact : Json → String
  | null => "null"
  | bool b => if b then "true" else "false"
  | num n => numberText n
  | str s => quote s
  | arr items => "[" ++ compactItems items ++ "]"
  | obj fields => "\x7b" ++ compactFields fields ++ "\x7d"

/-- Items with commas between them. -/
def compactItems : List Json → String
  | [] => ""
  | [v] => compact v
  | v :: rest => compact v ++ "," ++ compactItems rest

/-- Fields with commas between them. -/
def compactFields : List (String × Json) → String
  | [] => ""
  | [(k, v)] => quote k ++ ":" ++ compact v
  | (k, v) :: rest => quote k ++ ":" ++ compact v ++ "," ++ compactFields rest

end

/-- The start of a line at a level. -/
def indent (level : Nat) : String :=
  String.ofList ('\n' :: List.replicate (2 * level) ' ')

mutual

/-- The text of a value over several lines, of which the first is already indented. -/
def prettyAt (level : Nat) : Json → String
  | null => "null"
  | bool b => if b then "true" else "false"
  | num n => numberText n
  | str s => quote s
  | arr [] => "[]"
  | arr (v :: rest) => "[" ++ prettyItems (level + 1) (v :: rest) ++ indent level ++ "]"
  | obj [] => "\x7b\x7d"
  | obj (f :: rest) => "\x7b" ++ prettyFields (level + 1) (f :: rest) ++ indent level ++ "\x7d"

/-- Items, each on a line of its own, with commas between them. -/
def prettyItems (level : Nat) : List Json → String
  | [] => ""
  | [v] => indent level ++ prettyAt level v
  | v :: rest => indent level ++ prettyAt level v ++ "," ++ prettyItems level rest

/-- Fields, each on a line of its own, with commas between them. -/
def prettyFields (level : Nat) : List (String × Json) → String
  | [] => ""
  | [(k, v)] => indent level ++ quote k ++ ": " ++ prettyAt level v
  | (k, v) :: rest => indent level ++ quote k ++ ": " ++ prettyAt level v ++ "," ++
      prettyFields level rest

end

/-- The text of a value over several lines. -/
def pretty (v : Json) : String := prettyAt 0 v

end MatrixFlow.Json
