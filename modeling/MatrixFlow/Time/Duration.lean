import MatrixFlow.Number.Shortest

/-!
# Durations

* `Duration`: a length of time in nanoseconds.
* `Duration.seconds`: the length as a floating-point number of seconds.
* `Duration.text`: the length for readers, such as `850ms`, `12.3s` and `2m 5s`.
* `Duration.exactText`: the exact length, such as `1.5ms`.
-/

namespace MatrixFlow

/-- A length of time. -/
structure Duration where
  nanos : Nat
deriving DecidableEq, Repr, Inhabited

namespace Duration

/-- No time. -/
def zero : Duration := ⟨0⟩

/-- So many milliseconds. -/
def ofMillis (n : Nat) : Duration := ⟨n * 1000000⟩

/-- So many seconds. -/
def ofSeconds (n : Nat) : Duration := ⟨n * 1000000000⟩

/-- So many minutes. -/
def ofMinutes (n : Nat) : Duration := ofSeconds (n * 60)

/-- The one and then the other. -/
def add (a b : Duration) : Duration := ⟨a.nanos + b.nanos⟩

/-- The full milliseconds. -/
def millis (d : Duration) : Nat := d.nanos / 1000000

/-- The full seconds. -/
def wholeSeconds (d : Duration) : Nat := d.nanos / 1000000000

/-- The length in seconds: the full seconds and the rest are rounded, and so is their sum. -/
def seconds (d : Duration) : Binary64 :=
  (Binary64.ofRatio false d.wholeSeconds 1).add
    (Binary64.ofRatio false (d.nanos % 1000000000) 1000000000)

/-- The full milliseconds, as far as they fit into 64 bits. -/
def reportedMillis (d : Duration) : Nat := min d.millis (pow2 64 - 1)

/-- The length for readers: milliseconds below a second, tenths of seconds below a minute, and
minutes and seconds from there on. -/
def text (d : Duration) : String :=
  if d.millis < 1000 then toString d.millis ++ "ms"
  else if d.millis < 60000 then d.seconds.fixedText 1 ++ "s"
  else toString (d.wholeSeconds / 60) ++ "m " ++ toString (d.wholeSeconds % 60) ++ "s"

/-- A number with a fraction of so many digits, without zeros at its end. -/
def fractionText (whole fraction places : Nat) : String :=
  let digits := Nat.toDigits 10 fraction
  let filled := List.replicate (places - digits.length) '0' ++ digits
  let kept := (filled.reverse.dropWhile (· == '0')).reverse
  toString whole ++ if kept.isEmpty then "" else "." ++ String.ofList kept

/-- The exact length in the largest unit of which there is at least one. -/
def exactText (d : Duration) : String :=
  let n := d.nanos
  if n ≥ 1000000000 then fractionText (n / 1000000000) (n % 1000000000) 9 ++ "s"
  else if n ≥ 1000000 then fractionText (n / 1000000) (n % 1000000) 6 ++ "ms"
  else if n ≥ 1000 then fractionText (n / 1000) (n % 1000) 3 ++ "\u00b5s"
  else toString n ++ "ns"

end Duration

end MatrixFlow
