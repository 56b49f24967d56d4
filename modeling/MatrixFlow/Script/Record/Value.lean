import MatrixFlow.Script.Directive

/-!
# Values and tables of record programs

A value is a number or a text, and each can be asked for as the other. A table holds values under
keys. Its keys stand in buckets, and are listed bucket by bucket, those that were used last first.

* `Value`: a value.
* `Value.toNumber`, `Value.toText`: a value as a number or as a text.
* `Value.compare`: how two values compare, as numbers or as texts.
* `Key`: what a value of a table is found by.
* `Table.get?`, `Table.insert`, `Table.erase`: one key.
* `Table.keys`: all keys in their order.
-/

namespace MatrixFlow.Script.Record

/-- A value. -/
inductive Value where
  | unset
  | number (x : Float)
  | text (cs : Octets)
  /-- A text from outside, which counts as a number if it is written as one. -/
  | input (cs : Octets)
deriving Inhabited

/-! ## Numbers as fractions and texts -/

/-- A number as an exact fraction. -/
def quantityOf (x : Float) : Quantity :=
  if x.isNaN then .unknown true
  else if x.isInf then .infinite (x < 0)
  else
    let bits := x.toBits.toNat
    let negative := pow2 63 ≤ bits
    let power := bits / pow2 52 % pow2 11
    let digits := bits % pow2 52
    let (mant, exp) : Nat × Int :=
      if power = 0 then (digits, -1074) else (digits + pow2 52, power - 1075)
    .finite negative (mant * pow2 exp.toNat) (pow2 (-exp).toNat)

/-- The nearest number to a fraction with a decimal exponent. -/
def decimalNumber (digits : Nat) (power : Int) : Float :=
  if 0 ≤ power then Float.ofScientific digits false power.toNat
  else Float.ofScientific digits true (-power).toNat

/-- The integer that a number is, within the range of long words. -/
def integer? (x : Float) : Option Int :=
  if -9223372036854775808.0 ≤ x && x < 9223372036854775808.0 then
    let n := x.toInt64
    if n.toFloat == x then some n.toInt else none
  else if 0 < x && x ≤ 18446744073709551616.0 then some x.toUInt64.toNat
  else none

/-- A number without its fraction. -/
def truncated (x : Float) : Float :=
  if x < 0 then x.ceil else x.floor

/-- A number as an integer: what is beyond the long words becomes the greatest or least of them. -/
def clampedInteger (x : Float) : Int :=
  match integer? (truncated x) with
  | some n => n
  | none => if 0 < x then (pow2 64 : Int) - 1 else -(pow2 63 : Int)

/-- The digits of an integer with its sign. -/
def integerText (n : Int) : Octets :=
  let digits := Nat.toDigits 10 n.natAbs
  if n < 0 then '-' :: digits else digits

/-- A number that is no integer, printed in a form with one directive. -/
def fractionText (form : Octets) (x : Float) : Octets :=
  let front := form.takeWhile (· != '%')
  let rest := form.drop (front.length + 1)
  let flags := rest.takeWhile fun c => ['-', '+', ' ', '#', '0'].contains c
  let rest := rest.drop flags.length
  let (width, rest) := directiveCount? rest
  let (precision, rest) := match rest with
    | '.' :: r =>
      let (count, r) := directiveCount? r
      (some (size count), r)
    | r => (none, r)
  match rest with
  | [] => form
  | conversion :: behind =>
    let d : Directive := ⟨flags, size width, precision, conversion⟩
    let shown := match conversion with
      | 'd' | 'i' | 'x' | 'X' | 'o' | 'u' => d.integer (clampedInteger x)
      | _ => d.quantity (quantityOf x)
    front ++ shown ++ behind
where
  /-- A count that is given in digits. -/
  size : Option DirectiveCount → Nat
    | some (.given n) => n
    | _ => 0

/-- A number as a text; one that is no integer is printed in a form. -/
def numberText (form : Octets) (x : Float) : Octets :=
  match integer? x with
  | some n => integerText n
  | none => fractionText form x

/-! ## Texts as numbers -/

/-- A blank in front of a number or behind it. -/
def isNumberBlank (c : Char) : Bool := c == ' ' || ('\t' ≤ c && c ≤ '\r')

/-- The decimal number that a text begins with, and what follows. -/
def decimalHere? (cs : Octets) : Option (Float × Octets) :=
  let whole := cs.takeWhile Char.isDigit
  let rest := cs.drop whole.length
  let (fraction, rest) := match rest with
    | '.' :: r =>
      let digits := r.takeWhile Char.isDigit
      if whole.isEmpty && digits.isEmpty then ([], rest) else (digits, r.drop digits.length)
    | _ => ([], rest)
  let digits := whole ++ fraction
  if digits.isEmpty then none
  else
    let (power, n) := exponentHere rest
    let power := max (-5000) (min 5000 power) - fraction.length
    some (decimalNumber (leadingNumber 10 digits.length digits).1 power, rest.drop n)

/-- A sign and the number behind it. -/
def signedHere? (read : Octets → Option (Float × Octets)) (cs : Octets) :
    Option (Float × Octets) :=
  match cs with
  | '-' :: r => (read r).map fun (x, rest) => (-x, rest)
  | '+' :: r => read r
  | r => read r

/-- The number that a text begins with, in any form. -/
def anyHere? (cs : Octets) : Option (Float × Octets) :=
  let hexadecimal := match cs with
    | '0' :: x :: r =>
      if x == 'x' || x == 'X' then
        let (value, count) := leadingNumber 16 r.length r
        if count = 0 then none else some (Float.ofNat value, r.drop count)
      else none
    | _ => none
  match hexadecimal with
  | some found => some found
  | none =>
    match wordQuantity? false cs with
    | some (.infinite _, n) => some (1.0 / 0.0, cs.drop n)
    | some (_, n) => some (0.0 / 0.0, cs.drop n)
    | none => decimalHere? cs

/-- The number at the start of a text, zero if there is none. -/
def leadingFloat (cs : Octets) : Float :=
  match signedHere? anyHere? (cs.dropWhile isNumberBlank) with
  | some (x, _) => x
  | none => 0.0

/-- The number that a text is as a whole. -/
def wholeFloat? (cs : Octets) : Option Float :=
  match signedHere? decimalHere? (cs.dropWhile isNumberBlank) with
  | some (x, rest) => if rest.all isNumberBlank then some x else none
  | none => none

namespace Value

/-- A value as a number. -/
def toNumber : Value → Float
  | unset => 0.0
  | number x => x
  | text cs | input cs => leadingFloat cs

/-- A value as a text; `form` is for numbers that are no integers. -/
def toText (form : Octets) : Value → Octets
  | unset => []
  | number x => numberText form x
  | text cs | input cs => cs

/-- The number that a value counts as where values are compared. -/
def numeric? : Value → Option Float
  | unset => some 0.0
  | number x => some x
  | text _ => none
  | input cs => wholeFloat? cs

/-- A value holds as a condition. -/
def holds : Value → Bool
  | unset => false
  | number x => x != 0.0
  | text cs => !cs.isEmpty
  | input cs =>
    match wholeFloat? cs with
    | some x => x != 0.0
    | none => !cs.isEmpty

/-- How two texts compare, byte by byte. -/
def compareTexts : Octets → Octets → Ordering
  | [], [] => .eq
  | [], _ => .lt
  | _, [] => .gt
  | a :: as, b :: bs => if a < b then .lt else if b < a then .gt else compareTexts as bs

/-- How two values compare: as numbers if both count as such, otherwise as texts. -/
def compare (form : Octets) (a b : Value) : Ordering :=
  match a.numeric?, b.numeric? with
  | some x, some y => if x < y then .lt else if y < x then .gt else .eq
  | _, _ => compareTexts (a.toText form) (b.toText form)

end Value

/-! ## Arithmetic -/

/-- What is left of a number by another one, with the sign of the first. -/
def remainder (x y : Float) : Float :=
  match quantityOf x, quantityOf y with
  | .finite negative a b, .finite _ c d =>
    if c = 0 then 0.0 / 0.0
    else
      let left := (a * d) % (c * b)
      let size := match quotient? left (b * d) with
        | some size => size
        | none => 0.0
      if negative then -size else size
  | .finite .., .infinite _ => x
  | _, _ => 0.0 / 0.0
where
  /-- A fraction whose denominator is a power of two, as a number. -/
  quotient? (num den : Nat) : Option Float :=
    if den = 0 then none else some ((Float.ofNat num).scaleB (-(den.log2 : Int)))

/-! ## Tables -/

/-- What a value is found by. -/
structure Key where
  text : Octets
  /-- The whole number that the key was, if it was one. -/
  number : Option Int

/-- The key that a value is. -/
def Key.ofValue (form : Octets) : Value → Key
  | .number x =>
    match integer? x with
    | some n => ⟨integerText n, some n⟩
    | none => ⟨fractionText form x, none⟩
  | v => ⟨v.toText form, none⟩

/-- A value and the key that it stands under. -/
structure Entry where
  key : Key
  value : Value

/-- Values under keys. -/
structure Table where
  buckets : Array (List Entry)
  size : Nat
  /-- All keys have been whole numbers so far. -/
  numbered : Bool

namespace Table

/-- The number of a key, by which its bucket is chosen. -/
def hash (cs : Octets) : UInt32 :=
  cs.foldl (fun h c => (h ^^^ c.toNat.toUInt32) * 16777619) 2166136261

/-- How many buckets there are at first. -/
def bucketCount : Nat := 64

/-- How many keys there are for each bucket at most. -/
def bucketSize : Nat := 12

/-- A table that holds nothing. -/
def empty : Table := ⟨Array.replicate bucketCount [], 0, true⟩

/-- The bucket of a key. -/
def bucketOf (t : Table) (cs : Octets) : Nat :=
  (hash cs).toNat % max t.buckets.size 1

/-- Puts an entry in front of its bucket. -/
def push (t : Table) (e : Entry) : Table :=
  let i := t.bucketOf e.key.text
  { t with buckets := t.buckets.modify i fun bucket => e :: bucket }

/-- All entries, bucket by bucket. -/
def entries (t : Table) : List Entry :=
  t.buckets.toList.flatMap id

/-- A table whose keys are looked up as texts: the entries of numbers are put in their buckets one
by one, lower numbers first. -/
def spelled (t : Table) : Table :=
  if t.numbered then
    let place (e : Entry) : Nat := ((e.key.number.getD 0) % (max t.buckets.size 1 : Nat)).toNat
    let sorted := t.entries.mergeSort fun a b => place a ≤ place b
    let cleared := { t with buckets := Array.replicate t.buckets.size [], numbered := false }
    sorted.foldl push cleared
  else t

/-- The value under a key. -/
def get? (t : Table) (key : Key) : Option Value :=
  ((t.buckets.getD (t.bucketOf key.text) []).find? fun e => e.key.text == key.text).map (·.value)

/-- A table with twice as many buckets. -/
def grown (t : Table) : Table :=
  let old := t.entries
  let cleared := { t with buckets := Array.replicate (2 * t.buckets.size) [] }
  old.reverse.foldl push cleared

/-- Puts a value under a key. A key that is a text comes to the front of its bucket, as does a new
one. -/
def insert (t : Table) (key : Key) (v : Value) : Table :=
  let t := if key.number.isNone then t.spelled else t
  let i := t.bucketOf key.text
  let bucket := t.buckets.getD i []
  if bucket.any fun e => e.key.text == key.text then
    let bucket := match key.number with
      | some _ => bucket.map fun e => if e.key.text == key.text then { e with value := v } else e
      | none => ⟨key, v⟩ :: bucket.filter fun e => e.key.text != key.text
    { t with buckets := t.buckets.setIfInBounds i bucket }
  else
    let t := { t with buckets := t.buckets.setIfInBounds i (⟨key, v⟩ :: bucket), size := t.size + 1 }
    if t.buckets.size * bucketSize < t.size then t.grown else t

/-- Takes a key away. -/
def erase (t : Table) (key : Key) : Table :=
  let i := t.bucketOf key.text
  let bucket := t.buckets.getD i []
  let kept := bucket.filter fun e => e.key.text != key.text
  { t with
    buckets := t.buckets.setIfInBounds i kept
    size := t.size - (bucket.length - kept.length) }

/-- All keys in their order. -/
def keys (t : Table) : List Octets :=
  t.spelled.entries.map (·.key.text)

/-- A table of values that are numbered from one on. -/
def ofList (values : List Value) : Table :=
  values.zipIdx.foldl
    (fun t (v, i) => t.insert ⟨Nat.toDigits 10 (i + 1), some ((i : Int) + 1)⟩ v) empty

end Table

end MatrixFlow.Script.Record
