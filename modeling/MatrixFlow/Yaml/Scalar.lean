import MatrixFlow.Number.Basic
import MatrixFlow.Yaml.Token

/-!
# What a scalar means

* `Resolved`: null, a truth value, a number or a text.
* `resolvePlain`: the meaning of a scalar without quotes. Numbers may be written in base ten, or
  in base 2, 8 or 16 behind `0b`, `0o` or `0x`; digits behind a needless zero are no number.
* `resolve`: the meaning of a scalar of any style, which a tag may prescribe.
* `numberText`: how a number is written in a text.
-/

namespace MatrixFlow.Yaml

/-- The meaning of a scalar. -/
inductive Resolved where
  | null
  | bool (value : Bool)
  | int (value : Int)
  /-- An integer of more than 64 bits. -/
  | wide (value : Int)
  | float (value : Binary64)
  | text
deriving DecidableEq, Repr

/-- The words for null. -/
def isNullWord (s : String) : Bool :=
  ["null", "Null", "NULL", "~"].contains s

/-- The truth value of a word. -/
def boolOfWord? (s : String) : Option Bool :=
  if ["true", "True", "TRUE"].contains s then some true
  else if ["false", "False", "FALSE"].contains s then some false
  else none

/-- The text behind a sign. -/
def afterSign (cs : List Char) : List Char :=
  match cs with
  | '-' :: r | '+' :: r => r
  | r => r

/-- Two digits or more, the first of them zero. Such a text is no number. -/
def hasNeedlessZero (cs : List Char) : Bool :=
  match afterSign cs with
  | '0' :: c :: r => (c :: r).all Char.isDigit
  | _ => false

/-- The natural number that digits with a base indicator denote, or digits alone. -/
def naturalOf? (cs : List Char) : Option Nat :=
  match cs with
  | '0' :: 'x' :: r => Number.digitsValue? 16 r
  | '0' :: 'o' :: r => Number.digitsValue? 8 r
  | '0' :: 'b' :: r => Number.digitsValue? 2 r
  | r => if hasNeedlessZero r then none else Number.digitsValue? 10 r

/-- The integer that a text denotes. -/
def integerOf? (cs : List Char) : Option Int :=
  match cs with
  | '-' :: r => (naturalOf? r).map fun n => -(n : Int)
  | '+' :: r => (naturalOf? r).map Int.ofNat
  | r => (naturalOf? r).map Int.ofNat

/-- Whether an integer fits into 64 bits, or into 128; more bits are too many. -/
def Resolved.ofInt? (i : Int) : Option Resolved :=
  if -(pow2 63 : Int) ≤ i ∧ i < (pow2 64 : Int) then some (.int i)
  else if -(pow2 127 : Int) ≤ i ∧ i < (pow2 128 : Int) then some (.wide i)
  else none

/-- The exponent at the end of a number: a mark, perhaps a sign, and digits. -/
def exponentOf? (cs : List Char) : Option Int :=
  match cs with
  | [] => some 0
  | 'e' :: '-' :: r | 'E' :: '-' :: r => (Number.digitsValue? 10 r).map fun n => -(n : Int)
  | 'e' :: '+' :: r | 'E' :: '+' :: r => (Number.digitsValue? 10 r).map Int.ofNat
  | 'e' :: r | 'E' :: r => (Number.digitsValue? 10 r).map Int.ofNat
  | _ => none

/-- The number that decimal digits denote, with a point and an exponent if they have them. A
number that is too great for a finite one is none. -/
def decimalOf? (negative : Bool) (cs : List Char) : Option Binary64 := do
  let whole := cs.takeWhile Char.isDigit
  let (places, rest) := match cs.dropWhile Char.isDigit with
    | '.' :: r => (r.takeWhile Char.isDigit, r.dropWhile Char.isDigit)
    | r => ([], r)
  let digits ← Number.digitsValue? 10 (whole ++ places)
  let exponent ← exponentOf? rest
  let x := Binary64.ofDecimal negative digits (exponent - places.length)
  if x.isFinite then some x else none

/-- The fraction, infinity or lack of a number that a text denotes. -/
def floatOf? (s : String) : Option Binary64 :=
  if [".inf", ".Inf", ".INF", "+.inf", "+.Inf", "+.INF"].contains s then some (.infinite false)
  else if ["-.inf", "-.Inf", "-.INF"].contains s then some (.infinite true)
  else if [".nan", ".NaN", ".NAN"].contains s then some .nan
  else match s.toList with
    | '+' :: r => decimalOf? false r
    | '-' :: r => decimalOf? true r
    | r => decimalOf? false r

/-- The meaning of a scalar without quotes. -/
def resolvePlain (s : String) : Resolved :=
  if s.isEmpty || isNullWord s then .null
  else match boolOfWord? s with
    | some b => .bool b
    | none =>
      match (integerOf? s.toList).bind Resolved.ofInt? with
      | some r => r
      | none =>
        if hasNeedlessZero s.toList then .text
        else match floatOf? s with
          | some x => .float x
          | none => .text

/-- What a tag asks of a scalar that it is not. -/
inductive TagDemand where
  | boolean
  | integer
  | float
  | null
deriving DecidableEq, Repr

/-- What is asked for, in words. -/
def TagDemand.text : TagDemand → String
  | boolean => "a boolean"
  | integer => "an integer"
  | float => "a float"
  | null => "null"

/-- The name of a local tag, which is what follows its exclamation mark. A mark alone is a name. -/
def TagText.localName? (t : TagText) : Option String :=
  match t.legible, t.text.toList with
  | true, ['!'] => some "!"
  | true, '!' :: r => some (String.ofList r)
  | _, _ => none

/-- The meaning of a scalar. Without a tag, or with a local one, quotes make it a text. A scalar
that is not what its tag demands has no meaning. -/
def resolve (tag : Option TagText) (style : Style) (s : String) : Except TagDemand Resolved :=
  let byStyle := if style = .plain then resolvePlain s else .text
  match tag with
  | none => .ok byStyle
  | some t =>
    if t.text = "tag:yaml.org,2002:bool" then
      match boolOfWord? s with
      | some b => .ok (.bool b)
      | none => .error .boolean
    else if t.text = "tag:yaml.org,2002:int" then
      match (integerOf? s.toList).bind Resolved.ofInt? with
      | some r => .ok r
      | none => .error .integer
    else if t.text = "tag:yaml.org,2002:float" then
      match floatOf? s with
      | some x => .ok (.float x)
      | none => .error .float
    else if t.text = "tag:yaml.org,2002:null" then
      if isNullWord s then .ok .null else .error .null
    else if t.text.toList.head? = some '!' then .ok byStyle
    else .ok .text

/-- Fractions are positional from `1e-5` to below `1e16`. -/
def floatStyle : FloatStyle := ⟨some (-5, 15), false⟩

/-- The text of a number. -/
def numberText : Number → String
  | .int i => Number.intText i
  | .float (.finite n m e) => floatStyle.render n m e
  | .float (.infinite false) => ".inf"
  | .float (.infinite true) => "-.inf"
  | .float .nan => ".nan"

end MatrixFlow.Yaml
