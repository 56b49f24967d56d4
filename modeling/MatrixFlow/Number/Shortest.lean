import MatrixFlow.Number.Binary64

/-!
# Decimal text of a binary number

* `shortest`: the decimal with the fewest digits that reads back as a given finite number, and
  of those the nearest to it.
* `FloatStyle`, `FloatStyle.render`: how chosen digits are laid out.
* `fixed`, `Binary64.fixedText`: a number rounded to a given count of places.
-/

namespace MatrixFlow

namespace Binary64

/-- Compares `a * 10^p` with `b * 2^q`. -/
def compareScaled (a : Nat) (p : Int) (b : Nat) (q : Int) : Ordering :=
  compare (a * pow10 p.toNat * pow2 (-q).toNat) (b * pow2 q.toNat * pow10 (-p).toNat)

/-- Whether `d * 10^p` rounds to `mant * 2^exp`: it lies between the midpoints to the two
neighbours, and a midpoint itself belongs to the even number. -/
def readsBack (mant : Nat) (exp : Int) (d : Nat) (p : Int) : Bool :=
  let below := if mant = pow2 52 ∧ minExp < exp then 1 else 2
  let low := compareScaled d p (4 * mant - below) (exp - 2)
  let high := compareScaled d p (4 * mant + 2) (exp - 2)
  (low == .gt && high == .lt) || (mant % 2 == 0 && (low == .eq || high == .eq))

/-- The least `k` with `mant * 2^exp < 10^k`, looked for from `k` on in `fuel` steps. -/
def scaleFrom (mant : Nat) (exp : Int) : (fuel : Nat) → Int → Int
  | 0, k => k
  | fuel + 1, k =>
    if compareScaled 1 k mant exp == .gt then k else scaleFrom mant exp fuel (k + 1)

/-- The least `k` with `mant * 2^exp < 10^k`. The binary logarithm gives it but for a few. -/
def scale (mant : Nat) (exp : Int) : Int :=
  scaleFrom mant exp 8 (((mant.log2 : Int) + exp) * 30103 / 100000 - 1)

/-- The number `d` without its trailing zeros, which go into the exponent. -/
def stripZeros : (fuel : Nat) → Nat → Int → Nat × Int
  | 0, d, p => (d, p)
  | fuel + 1, d, p => if d % 10 = 0 ∧ d ≠ 0 then stripZeros fuel (d / 10) (p + 1) else (d, p)

/-- Of the two decimals of unit `10^p` around `mant * 2^exp`, the one to take: both must read
back, and of two that do the nearer is taken, the even one if they are equally near. -/
def onGrid (mant : Nat) (exp : Int) (p : Int) : Option Nat :=
  let d := mant * pow2 exp.toNat * pow10 (-p).toNat / (pow2 (-exp).toNat * pow10 p.toNat)
  match readsBack mant exp d p && d != 0, readsBack mant exp (d + 1) p with
  | true, true =>
    match compareScaled (2 * d + 1) p (2 * mant) exp with
    | .gt => some d
    | .lt => some (d + 1)
    | .eq => some (if d % 2 = 0 then d else d + 1)
  | true, false => some d
  | false, true => some (d + 1)
  | false, false => none

/-- Looks for the first count of digits at which a decimal reads back. -/
def shortestFrom (mant : Nat) (exp : Int) (k : Int) : (fuel : Nat) → (count : Nat) → Nat × Int
  | 0, count =>
    let p := k - count
    (mant * pow2 exp.toNat * pow10 (-p).toNat / (pow2 (-exp).toNat * pow10 p.toNat), p)
  | fuel + 1, count =>
    match onGrid mant exp (k - count) with
    | some d => (d, k - count)
    | none => shortestFrom mant exp k fuel (count + 1)

/-- Digits `d` and exponent `p` of the decimal `d * 10^p` with the fewest digits that reads back
as `mant * 2^exp`, and of those the nearest to it. Zero is `0 * 10^0`. -/
def shortest (mant : Nat) (exp : Int) : Nat × Int :=
  if mant = 0 then (0, 0)
  else
    let (d, p) := shortestFrom mant exp (scale mant exp) 17 1
    stripZeros 20 d p

end Binary64

/-- How the digits of a number are laid out. The decimal exponent of a number is that of its
first digit. -/
structure FloatStyle where
  /-- The decimal exponents that are written out with zeros; all of them if there is no range. -/
  positional : Option (Int × Int)
  /-- A plus sign stands before an exponent that is not negative. -/
  plusSign : Bool

namespace FloatStyle

/-- A text of `n` zeros. -/
def zeros (n : Nat) : List Char := List.replicate n '0'

/-- Digits with the point where the exponent puts it; at least one digit on each side. -/
def positionalText (digits : List Char) (p : Int) : List Char :=
  if 0 ≤ p then digits ++ zeros p.toNat ++ ['.', '0']
  else
    let places := (-p).toNat
    if places < digits.length then
      digits.take (digits.length - places) ++ '.' :: digits.drop (digits.length - places)
    else ['0', '.'] ++ zeros (places - digits.length) ++ digits

/-- Digits with the point after the first, and an exponent. -/
def exponentText (plusSign : Bool) (digits : List Char) (exponent : Int) : List Char :=
  let mantissa := match digits with
    | [] => []
    | [d] => [d]
    | d :: r => d :: '.' :: r
  let sign := if exponent < 0 then ['-'] else if plusSign then ['+'] else []
  mantissa ++ 'e' :: sign ++ Nat.toDigits 10 exponent.natAbs

/-- The text of a finite number. -/
def render (style : FloatStyle) (negative : Bool) (mant : Nat) (exp : Int) : String :=
  let (d, p) := Binary64.shortest mant exp
  let digits := Nat.toDigits 10 d
  let exponent := p + digits.length - 1
  let inRange := match style.positional with
    | none => true
    | some (low, high) => decide (low ≤ exponent ∧ exponent ≤ high)
  let text :=
    if mant == 0 || inRange then positionalText digits p
    else exponentText style.plusSign digits exponent
  String.ofList (if negative then '-' :: text else text)

end FloatStyle

/-- The quotient `num / den` with `places` digits after the point, a half going to the even
neighbour. -/
def fixed (places : Nat) (num den : Nat) : String :=
  let scaled := roundHalfEven (num * pow10 places) den
  let digits := Nat.toDigits 10 scaled
  let padded := FloatStyle.zeros (places + 1 - digits.length) ++ digits
  let whole := padded.take (padded.length - places)
  let rest := padded.drop (padded.length - places)
  String.ofList (if places = 0 then whole else whole ++ '.' :: rest)

/-- A number with `places` digits after the point. -/
def Binary64.fixedText (places : Nat) : Binary64 → String
  | finite negative mant exp =>
    let (num, den) := toRatio mant exp
    (if negative then "-" else "") ++ fixed places num den
  | infinite negative => if negative then "-inf" else "inf"
  | nan => "NaN"

end MatrixFlow
