import MatrixFlow.Script.Session

/-!
# Quotation

Values are shown as words that stand for them.

* `shownValue`: between quotation marks.
* `escapedValue`: between quotation marks, with escapes.
* `barestValue`: without quotation marks where none are needed.
* `slashedValue`: with backslashes.
-/

namespace MatrixFlow.Script

/-- A text between quotation marks, as the shell shows values. -/
def shownValue (cs : Octets) : Octets :=
  if cs == ['\x27'] then ['\\', '\x27']
  else '\x27' :: cs.flatMap (fun c => if c == '\x27' then octets "'\\''" else [c]) ++ ['\x27']

/-- A text between quotation marks, as the shell of the plain dialect shows values. -/
def plainShownValue (cs : Octets) : Octets :=
  go cs.length cs
where
  /-- Goes on with a part without quotation marks and the marks behind it. -/
  go : Nat → Octets → Octets
    | fuel, cs =>
      let bare := cs.takeWhile (· != '\x27')
      let rest := cs.drop bare.length
      let marks := rest.takeWhile (· == '\x27')
      let first := '\x27' :: bare ++ ['\x27']
      if marks.isEmpty then first
      else
        let first := first ++ '\x22' :: marks ++ ['\x22']
        match fuel, rest.drop marks.length with
        | _, [] | 0, _ => first
        | fuel + 1, rest => first ++ go fuel rest

/-- A character that has to be shown by an escape. -/
def isControl (c : Char) : Bool := c.toNat < 32 || c.toNat = 127

/-- A text with escapes between quotation marks with a dollar sign. -/
def escapedValue (cs : Octets) : Octets :=
  octets "$'" ++ cs.flatMap escaped ++ ['\x27']
where
  /-- A character as it is shown. -/
  escaped (c : Char) : Octets :=
    match c with
    | '\n' => ['\\', 'n']
    | '\t' => ['\\', 't']
    | '\r' => ['\\', 'r']
    | '\x07' => ['\\', 'a']
    | '\x08' => ['\\', 'b']
    | '\x0b' => ['\\', 'v']
    | '\x0c' => ['\\', 'f']
    | '\x1b' => ['\\', 'E']
    | '\\' => ['\\', '\\']
    | '\x27' => ['\\', '\x27']
    | c =>
      if isControl c || 128 ≤ c.toNat then
        let digits := Nat.toDigits 8 c.toNat
        '\\' :: List.replicate (3 - digits.length) '0' ++ digits
      else [c]

/-- A text as a word that stands for it. -/
def wordValue (cs : Octets) : Octets :=
  if cs.any fun c => isControl c || 128 ≤ c.toNat then escapedValue cs else shownValue cs

/-- A value as declarations show it. -/
def declaredValue (cs : Octets) : Octets :=
  if cs.any isControl then escapedValue cs
  else '\x22' :: cs.flatMap (fun c =>
    if ['\x22', '\\', '$', '\x60'].contains c then ['\\', c] else [c]) ++ ['\x22']

/-- Somewhere in the text stands a sign that means more than itself in a script. -/
def hasSigns (cs : Octets) : Bool :=
  cs.head? == some '#' || go ' ' cs
where
  /-- Looks behind a character. -/
  go : Char → Octets → Bool
    | _, [] => false
    | before, c :: r =>
      " \t\n'\"\\|&;()<>!\x7b\x7d*[?]^$\x60".toList.contains c ||
        (c == '~' && (before == ' ' || before == '=' || before == ':')) || go c r

/-- A text as a word, without quotation marks where none are needed. -/
def barestValue (cs : Octets) : Octets :=
  if cs.any fun c => isControl c || 128 ≤ c.toNat then escapedValue cs
  else if hasSigns cs then shownValue cs
  else cs

/-- A text as a word in which backslashes take the meaning of signs away. -/
def slashedValue (cs : Octets) : Octets :=
  if cs.isEmpty then ['\x27', '\x27']
  else if cs.any fun c => isControl c || 128 ≤ c.toNat then escapedValue cs
  else go ' ' true cs
where
  /-- Goes on behind a character. -/
  go : Char → Bool → Octets → Octets
    | _, _, [] => []
    | before, first, c :: r =>
      let slash := c == ',' || hasSigns ['x', c] || (c == '#' && first) ||
        (c == '~' && (first || before == '=' || before == ':'))
      if slash then '\\' :: c :: go c false r else c :: go c false r

end MatrixFlow.Script
