import MatrixFlow.Number.Shortest

/-!
# Numbers of a document

A number is an integer or a binary fraction; `1` and `1.0` are different numbers. `Number.equal`
says when two are the same, `Number.intText` writes an integer, and `Number.digitsValue?` reads one
from digits of any base.
-/

namespace MatrixFlow

/-- A number as a document writes it: an integer, or a binary fraction. -/
inductive Number where
  | int (value : Int)
  | float (value : Binary64)
deriving DecidableEq, Repr

namespace Number

/-- The same number, of the same kind. -/
def equal : Number → Number → Bool
  | int a, int b => a == b
  | float a, float b => a.equal b
  | _, _ => false

/-- The decimal text of an integer. -/
def intText (i : Int) : String :=
  let digits := Nat.toDigits 10 i.natAbs
  String.ofList (if i < 0 then '-' :: digits else digits)

/-- The value of a run of digits in a base, if it is not empty and holds digits only. -/
def digitsValue? (base : Nat) (cs : List Char) : Option Nat :=
  if cs.isEmpty then none
  else cs.foldl (fun acc c => do
    let n ← acc
    let d ←
      if '0' ≤ c ∧ c ≤ '9' then some (c.toNat - 48)
      else if 'a' ≤ c ∧ c ≤ 'f' then some (c.toNat - 87)
      else if 'A' ≤ c ∧ c ≤ 'F' then some (c.toNat - 55)
      else none
    if d < base then some (n * base + d) else none) (some 0)

end Number

end MatrixFlow
