/-!
# Binary floating-point numbers of 64 bits

A finite number is kept as `±mant * 2^exp`, so every question about it is one about naturals.

* `pow2`, `pow10`, `total`, `roundedUp`: powers, sums and multiples of naturals.
* `Binary64.ofRatio`: the number nearest to a fraction, of two equally near ones the even one.
* `Binary64.ofDecimal`: the number nearest to `digits * 10^exp10`.
* `Binary64.add`, `Binary64.sum`: sums, rounded at every step.
* `Binary64.timesTen`, `Binary64.overTen`: products with powers of ten and quotients by them.
* `Binary64.equal`: equality of numbers; the two zeros are equal and nothing equals "no number".
-/

namespace MatrixFlow

/-! ## Naturals -/

/-- A power of two. -/
def pow2 (n : Nat) : Nat := Nat.pow 2 n

/-- A power of ten. -/
def pow10 (n : Nat) : Nat := Nat.pow 10 n

/-- The sum of a list. -/
def total : List Nat → Nat
  | [] => 0
  | n :: rest => n + total rest

/-- The first multiple of a block that is not less than a number. -/
def roundedUp (n block : Nat) : Nat := (n + (block - 1)) / block * block

/-! ## Numbers -/

/-- A finite number `±mant * 2^exp`, an infinity, or no number at all. -/
inductive Binary64 where
  | finite (negative : Bool) (mant : Nat) (exp : Int)
  | infinite (negative : Bool)
  | nan
deriving DecidableEq, Repr

/-- The quotient `num / den` rounded to the nearest natural number, a half to the even neighbour. -/
def roundHalfEven (num den : Nat) : Nat :=
  let q := num / den
  let r := num % den
  if 2 * r < den then q
  else if den < 2 * r then q + 1
  else if q % 2 = 0 then q else q + 1

namespace Binary64

/-- The least exponent, that of the numbers next to zero. -/
def minExp : Int := -1074

/-- The greatest exponent of a finite number. -/
def maxExp : Int := 971

/-- Zero with a sign. -/
def zero (negative : Bool) : Binary64 := finite negative 0 minExp

/-- The exponent with which `num / den` has 53 binary digits before the point, or the least
exponent where that is greater. -/
def exponentOf (num den : Nat) : Int :=
  let low := max ((num.log2 : Int) - den.log2 - 53) minExp
  if num * pow2 (-low).toNat / (den * pow2 low.toNat) < pow2 53 then low else low + 1

/-- The number nearest to `±num / den`. -/
def ofRatio (negative : Bool) (num den : Nat) : Binary64 :=
  if num = 0 then zero negative
  else
    let exp := exponentOf num den
    let mant := roundHalfEven (num * pow2 (-exp).toNat) (den * pow2 exp.toNat)
    let (mant, exp) := if mant = pow2 53 then (pow2 52, exp + 1) else (mant, exp)
    if maxExp < exp then infinite negative else finite negative mant exp

/-- The number of decimal digits of a natural number. -/
def decimalLength (n : Nat) : Nat :=
  (Nat.toDigits 10 n).length

/-- The number nearest to `±digits * 10^exp10`. Beyond 400 digits before or after the point the
answer is an infinity or zero, which saves writing the power of ten out. -/
def ofDecimal (negative : Bool) (digits : Nat) (exp10 : Int) : Binary64 :=
  let size := decimalLength digits + exp10
  if digits = 0 ∨ size < -400 then zero negative
  else if 400 < size then infinite negative
  else ofRatio negative (digits * pow10 exp10.toNat) (pow10 (-exp10).toNat)

/-- The fraction of two naturals that a finite magnitude is. -/
def toRatio (mant : Nat) (exp : Int) : Nat × Nat :=
  (mant * pow2 exp.toNat, pow2 (-exp).toNat)

/-- A signed natural number. -/
def signed (negative : Bool) (n : Nat) : Int :=
  if negative then -(n : Int) else n

/-- The number nearest to a sum. A sum that vanishes is the positive zero, unless both numbers
are the negative one. -/
def add : Binary64 → Binary64 → Binary64
  | finite n m e, finite n' m' e' =>
    let low := min e e'
    let total := signed n (m * pow2 (e - low).toNat) + signed n' (m' * pow2 (e' - low).toNat)
    if total = 0 then zero (n && n')
    else
      let (num, den) := toRatio total.natAbs low
      ofRatio (total < 0) num den
  | infinite n, infinite n' => if n = n' then infinite n else nan
  | infinite n, finite .. => infinite n
  | finite .., infinite n => infinite n
  | nan, _ => nan
  | _, nan => nan

/-- The sum of numbers, from the first on. The sum of none is the negative zero, which changes no
number that it is added to. -/
def sum (xs : List Binary64) : Binary64 :=
  xs.foldl add (zero true)

/-- The number nearest to `10^k`, as a fraction of two naturals. -/
def powerOfTen (k : Nat) : Nat × Nat :=
  match ofDecimal false 1 k with
  | finite _ m e => toRatio m e
  | _ => (pow10 k, 1)

/-- The product with the number nearest to `10^k`, rounded. -/
def timesTen (x : Binary64) (k : Nat) : Binary64 :=
  match x with
  | finite n m e =>
    let (num, den) := toRatio m e
    ofRatio n (num * (powerOfTen k).1) (den * (powerOfTen k).2)
  | x => x

/-- The quotient by the number nearest to `10^k`, rounded. -/
def overTen (x : Binary64) (k : Nat) : Binary64 :=
  match x with
  | finite n m e =>
    let (num, den) := toRatio m e
    ofRatio n (num * (powerOfTen k).2) (den * (powerOfTen k).1)
  | x => x

/-- Equality of numbers. -/
def equal : Binary64 → Binary64 → Bool
  | finite n m e, finite n' m' e' => (m == 0 && m' == 0) || (n == n' && m == m' && e == e')
  | infinite n, infinite n' => n == n'
  | _, _ => false

/-- Not an infinity, and a number. -/
def isFinite : Binary64 → Bool
  | finite .. => true
  | _ => false

end Binary64

end MatrixFlow
