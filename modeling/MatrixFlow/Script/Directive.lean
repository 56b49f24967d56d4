import MatrixFlow.Number.Binary64
import MatrixFlow.Script.Arithmetic

/-!
# Directives

A directive in a format tells how a number or a text is printed: with which sign, in which field,
with how many digits.

* `Directive`: a directive.
* `Directive.text`, `Directive.integer`, `Directive.quantity`: a text or a number as it is printed.
* `Quantity`: a number that may have a fraction; `quantity?` reads one.
-/

namespace MatrixFlow.Script

/-- A number that may have a fraction, or none at all. -/
inductive Quantity where
  | finite (negative : Bool) (num den : Nat)
  | infinite (negative : Bool)
  | unknown (negative : Bool)
deriving DecidableEq, Repr

/-- How something is printed. -/
structure Directive where
  flags : Octets
  width : Nat
  precision : Option Nat
  conversion : Char
deriving Repr

/-! ## Reading numbers -/

/-- The exponent that a text begins with, and its length. -/
def exponentHere (cs : Octets) : Int × Nat :=
  match cs with
  | c :: r =>
    if c == 'e' || c == 'E' then
      let (negative, digits, before) := match r with
        | '-' :: digits => (true, digits, 2)
        | '+' :: digits => (false, digits, 2)
        | digits => (false, digits, 1)
      let (value, count) := leadingNumber 10 digits.length digits
      if count = 0 then (0, 0) else (if negative then -(value : Int) else value, before + count)
    else (0, 0)
  | [] => (0, 0)

/-- The words for numbers that are none. -/
def wordQuantity? (negative : Bool) (cs : Octets) : Option (Quantity × Nat) :=
  let lower := cs.map Char.toLower
  if Text.startsWith "infinity".toList lower then some (.infinite negative, 8)
  else if Text.startsWith "inf".toList lower then some (.infinite negative, 3)
  else if Text.startsWith "nan".toList lower then some (.unknown negative, 3)
  else none

/-- The number that a text begins with, and its length. -/
def quantity? (cs : Octets) : Option (Quantity × Nat) :=
  let body := cs.dropWhile fun c => c == ' ' || ('\t' ≤ c && c ≤ '\r')
  let (negative, unsigned) := match body with
    | '-' :: r => (true, r)
    | '+' :: r => (false, r)
    | r => (false, r)
  let before := cs.length - unsigned.length
  let hexadecimal := match unsigned with
    | '0' :: x :: r =>
      if x == 'x' || x == 'X' then
        let (value, count) := leadingNumber 16 r.length r
        if count = 0 then none else some (Quantity.finite negative value 1, count + 2)
      else none
    | _ => none
  match hexadecimal, wordQuantity? negative unsigned with
  | some (q, n), _ | none, some (q, n) => some (q, before + n)
  | none, none =>
    let whole := unsigned.takeWhile Char.isDigit
    let (fraction, rest) := match unsigned.drop whole.length with
      | '.' :: r =>
        let digits := r.takeWhile Char.isDigit
        if whole.isEmpty && digits.isEmpty then ([], '.' :: r) else (digits, r.drop digits.length)
      | r => ([], r)
    let digits := whole ++ fraction
    if digits.isEmpty then none
    else
      let (power, n) := exponentHere rest
      let power := max (-5000) (min 5000 power)
      let value := (leadingNumber 10 digits.length digits).1
      let scale := power - fraction.length
      let q := Quantity.finite negative (value * pow10 scale.toNat) (pow10 (-scale).toNat)
      some (q, cs.length - rest.length + n)

/-- The number nearest to a fraction among those with so many binary digits. -/
def nearestRatio (bits num den : Nat) : Nat × Nat :=
  if num = 0 || den = 0 then (0, 1)
  else
    let shift : Int := (num.log2 : Int) - den.log2 - bits
    let top := num * pow2 (-shift).toNat
    let bottom := den * pow2 shift.toNat
    let shift := if top / bottom < pow2 bits then shift else shift + 1
    let mant := roundHalfEven (num * pow2 (-shift).toNat) (den * pow2 shift.toNat)
    (mant * pow2 shift.toNat, pow2 (-shift).toNat)

/-- A number among those with so many binary digits. -/
def Quantity.rounded (bits : Nat) : Quantity → Quantity
  | finite negative num den =>
    let (num, den) := nearestRatio bits num den
    finite negative num den
  | q => q

/-! ## Fields -/

/-- A text in a field of a width. -/
def padded (flags : Octets) (width : Nat) (cs : Octets) : Octets :=
  let gap := List.replicate (width - cs.length) ' '
  if flags.contains '-' then cs ++ gap else gap ++ cs

namespace Directive

/-- A flag is there. -/
def has (d : Directive) (c : Char) : Bool := d.flags.contains c

/-- A sign and digits in their field; zeros fill it up if asked for. -/
def field (d : Directive) (zeros : Bool) (sign digits : Octets) : Octets :=
  if zeros && d.has '0' && !d.has '-' then
    sign ++ List.replicate (d.width - sign.length - digits.length) '0' ++ digits
  else padded d.flags d.width (sign ++ digits)

/-- The sign of a number. -/
def sign (d : Directive) (negative : Bool) : Octets :=
  if negative then ['-'] else if d.has '+' then ['+'] else if d.has ' ' then [' '] else []

/-- A text as it is printed. -/
def text (d : Directive) (cs : Octets) : Octets :=
  padded d.flags d.width (match d.precision with
    | some n => cs.take n
    | none => cs)

/-- A whole number as it is printed. -/
def integer (d : Directive) (n : Int) : Octets :=
  let word := (n % pow2 64).toNat
  let lengthened (digits : Octets) : Octets :=
    match d.precision with
    | some p =>
      if p = 0 && n = 0 then [] else List.replicate (p - digits.length) '0' ++ digits
    | none => digits
  let zeros := d.precision.isNone
  match d.conversion with
  | 'x' | 'X' =>
    let digits := lengthened (Nat.toDigits 16 word)
    let mark : Octets := if d.has '#' && word ≠ 0 then ['0', 'x'] else []
    let shown (cs : Octets) := if d.conversion == 'X' then cs.map Char.toUpper else cs
    d.field zeros (shown mark) (shown digits)
  | 'o' =>
    let digits := lengthened (Nat.toDigits 8 word)
    d.field zeros [] (if d.has '#' && digits.head? != some '0' then '0' :: digits else digits)
  | 'u' => d.field zeros [] (lengthened (Nat.toDigits 10 word))
  | _ => d.field zeros (d.sign (n < 0)) (lengthened (Nat.toDigits 10 n.natAbs))

/-! ## Numbers with fractions -/

/-- A fraction with so many places behind the point. -/
def placesText (point : Bool) (places num den : Nat) : Octets :=
  let digits := Nat.toDigits 10 (roundHalfEven (num * pow10 places) den)
  let digits := List.replicate (places + 1 - digits.length) '0' ++ digits
  let whole := digits.take (digits.length - places)
  if places = 0 then (if point then whole ++ ['.'] else whole)
  else whole ++ '.' :: digits.drop (digits.length - places)

/-- The greatest power of ten that is not above a fraction. -/
def tenExponent (num den : Nat) : Int :=
  let guess : Int := (Nat.toDigits 10 num).length - (Nat.toDigits 10 den).length
  if num * pow10 (-guess).toNat < den * pow10 guess.toNat then guess - 1 else guess

/-- One digit and so many more, and the power of ten of the first one. -/
def scientific (places num den : Nat) : Nat × Int :=
  if num = 0 then (0, 0)
  else
    let e := tenExponent num den
    let scale : Int := places - e
    let n := roundHalfEven (num * pow10 scale.toNat) (den * pow10 (-scale).toNat)
    if n = pow10 (places + 1) then (pow10 places, e + 1) else (n, e)

/-- An exponent as it is printed. -/
def exponentText (e : Int) : Octets :=
  let digits := Nat.toDigits 10 e.natAbs
  'e' :: (if e < 0 then '-' else '+') :: List.replicate (2 - digits.length) '0' ++ digits

/-- A fraction with an exponent. -/
def scientificText (point : Bool) (places num den : Nat) : Octets :=
  let (n, e) := scientific places num den
  placesText point places n (pow10 places) ++ exponentText e

/-- Zeros at the end of a fraction go, and then the point. -/
def trimZeros (cs : Octets) : Octets :=
  let (mantissa, rest) := cs.span (· != 'e')
  if mantissa.contains '.' then
    let kept := (mantissa.reverse.dropWhile (· == '0')).dropWhile (· == '.')
    kept.reverse ++ rest
  else cs

/-- A fraction in the shorter one of its forms. -/
def generalText (keepsZeros : Bool) (digits num den : Nat) : Octets :=
  let digits := max digits 1
  let (_, e) := scientific (digits - 1) num den
  let text := if -4 ≤ e && e < digits then placesText keepsZeros ((digits : Int) - 1 - e).toNat num den
    else scientificText keepsZeros (digits - 1) num den
  if keepsZeros then text else trimZeros text

/-- A number with a fraction as it is printed. -/
def quantity (d : Directive) (q : Quantity) : Octets :=
  let point := d.has '#'
  let (negative, body, zeros) := match q with
    | .infinite negative => (negative, "inf".toList, false)
    | .unknown negative => (negative, "nan".toList, false)
    | .finite negative num den =>
      let digits := d.precision.getD 6
      let body := match d.conversion with
        | 'f' | 'F' => placesText point digits num den
        | 'e' | 'E' => scientificText point digits num den
        | _ => generalText point digits num den
      (negative, body, true)
  let body := if d.conversion.isUpper then body.map Char.toUpper else body
  d.field zeros (d.sign negative) body

end Directive

/-- A count in a directive, perhaps the star for the next argument, and what follows. -/
inductive DirectiveCount where
  | given (n : Nat)
  | argument

/-- A count that begins here. -/
def directiveCount? (cs : Octets) : Option DirectiveCount × Octets :=
  match cs with
  | '*' :: r => (some .argument, r)
  | _ =>
    let digits := cs.takeWhile Char.isDigit
    ((String.ofList digits).toNat?.map .given, cs.drop digits.length)

end MatrixFlow.Script
