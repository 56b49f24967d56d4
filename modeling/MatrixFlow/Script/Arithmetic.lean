import MatrixFlow.Number.Binary64
import MatrixFlow.Script.Escape
import MatrixFlow.Script.Variable

/-!
# Numbers of formulas

Formulas are computed with whole numbers of 64 bits, and can change variables.

* `FormulaFault`: why a formula has no value.
* `FormulaScope`: what a formula can ask for.
* `combine`: the value of two operands.
-/

namespace MatrixFlow.Script

/-- Why a formula has no value. -/
inductive FormulaCause where
  | divisionByZero
  | operandMissing
  /-- Something stands where the formula should be over. -/
  | leftOver
  | bracketMissing
  | colonMissing
  /-- There is nothing to choose. -/
  | choiceMissing
  | notOperator
  /-- Only a variable can be changed. -/
  | notVariable
  | signNeedsVariable (sign : String)
  | negativeExponent
  /-- Values of variables are formulas that lead to each other without an end. -/
  | tooDeep
  | badIndex
  /-- There are two bases. -/
  | badNumber
  | badBase
  /-- There is no digit behind a base. -/
  | digitMissing
  | digitTooGreat
  /-- The value of a variable is no number. -/
  | illegalValue
  | unbound
deriving DecidableEq, Repr

/-- A cause, with the formula as far as messages show it, and what stands there. -/
structure FormulaFault where
  cause : FormulaCause
  formula : Octets
  token : Octets
deriving DecidableEq, Repr

/-- What a formula can ask for. -/
structure FormulaScope where
  lookup : Place → Option Octets
  /-- The elements of a variable have names. -/
  isNamed : String → Bool
  /-- A missing variable is an error. -/
  needsValues : Bool

/-- The number of 64 bits that a whole number becomes. -/
def wrap64 (n : Int) : Int := Int.bmod n (pow2 64)

/-- A blank of any kind. -/
def isBlankHere (c : Char) : Bool := c == ' ' || (('\t' ≤ c) && (c ≤ '\r'))

/-- A text without blanks at its ends. -/
def trimBlank (cs : Octets) : Octets :=
  ((cs.dropWhile isBlankHere).reverse.dropWhile isBlankHere).reverse

/-- The signs behind which an equals sign changes a variable. -/
def changingSigns : List String :=
  ["<<", ">>", "+", "-", "*", "/", "%", "&", "^", "|"]

/-- Bits of two numbers, combined. -/
def bitwise (f : Nat → Nat → Nat) (a b : Int) : Int :=
  wrap64 (f (a % pow2 64).toNat (b % pow2 64).toNat)

/-- One or zero. -/
def truth (b : Bool) : Int := if b then 1 else 0

/-- A power of 64 bits, by the bits of the exponent, of which there are at most so many. -/
def wrappedPower (base : Int) (exponent : Nat) : (bits : Nat) → Int
  | 0 => 1
  | bits + 1 =>
    if exponent = 0 then 1
    else
      let half := wrappedPower (wrap64 (base * base)) (exponent / 2) bits
      if exponent % 2 = 1 then wrap64 (base * half) else half

/-- The value of two operands. A divisor is not zero, and an exponent not negative. -/
def combine (sign : String) (a b : Int) : Int :=
  match sign with
  | "**" => wrappedPower a b.toNat 64
  | "*" => wrap64 (a * b)
  | "/" => wrap64 (a.tdiv b)
  | "%" => wrap64 (a.tmod b)
  | "+" => wrap64 (a + b)
  | "-" => wrap64 (a - b)
  | "<<" => wrap64 (a * pow2 (b % 64).toNat)
  | ">>" => a / pow2 (b % 64).toNat
  | "<" => truth (a < b)
  | ">" => truth (a > b)
  | "<=" => truth (a ≤ b)
  | ">=" => truth (a ≥ b)
  | "==" => truth (a = b)
  | "!=" => truth (a ≠ b)
  | "&" => bitwise (· &&& ·) a b
  | "^" => bitwise (· ^^^ ·) a b
  | "|" => bitwise (· ||| ·) a b
  | "&&" => truth (a ≠ 0 && b ≠ 0)
  | _ => truth (a ≠ 0 || b ≠ 0)

/-- The sign divides, so that its second operand cannot be zero. -/
def isDividing (sign : String) : Bool := sign == "/" || sign == "%"

end MatrixFlow.Script
