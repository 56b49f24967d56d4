import MatrixFlow.Script.Directive
import MatrixFlow.Script.Tool.Lines

/-!
# Tools for bytes

* `odTool`: shows bytes as numbers or characters.
* `base64Tool`, `base32Tool`: bytes as letters and digits, and back.
-/

namespace MatrixFlow.Script

open ToolM

/-! ## Units of bytes -/

/-- How units of bytes are shown: a letter for the form, and how many bytes they have. -/
structure UnitForm where
  letter : Char
  size : Nat
  /-- The characters are shown too. -/
  shows : Bool
deriving DecidableEq, Repr

namespace UnitForm

/-- How wide a unit is, without the blank in front. -/
def width (f : UnitForm) : Nat :=
  match f.letter, f.size with
  | 'x', n => 2 * n
  | 'o', 1 => 3
  | 'o', 2 => 6
  | 'o', 4 => 11
  | 'o', _ => 22
  | 'd', 1 => 4
  | 'd', 2 => 6
  | 'd', 4 => 11
  | 'd', _ => 20
  | 'u', 1 => 3
  | 'u', 2 => 5
  | 'u', 4 => 10
  | 'u', _ => 20
  | _, _ => 3

/-- The names of the characters that are not printed. -/
def controlNames : List String :=
  ["nul", "soh", "stx", "etx", "eot", "enq", "ack", "bel", "bs", "ht", "nl", "vt", "ff", "cr",
    "so", "si", "dle", "dc1", "dc2", "dc3", "dc4", "nak", "syn", "etb", "can", "em", "sub", "esc",
    "fs", "gs", "rs", "us", "sp"]

/-- A byte by its name. -/
def named (c : Char) : Octets :=
  let n := c.toNat % 128
  match controlNames[n]? with
  | some name => octets name
  | none => if n = 127 then octets "del" else [Char.ofNat n]

/-- A number with at least so many digits. -/
def digits (base width n : Nat) : Octets :=
  let cs := Nat.toDigits base n
  List.replicate (width - cs.length) '0' ++ cs

/-- A byte as a character or its escape. -/
def escaped (c : Char) : Octets :=
  match c with
  | '\x00' => ['\\', '0']
  | '\x07' => ['\\', 'a']
  | '\x08' => ['\\', 'b']
  | '\x0c' => ['\\', 'f']
  | '\n' => ['\\', 'n']
  | '\r' => ['\\', 'r']
  | '\t' => ['\\', 't']
  | '\x0b' => ['\\', 'v']
  | c => if ' ' ≤ c && c ≤ '~' then [c] else digits 8 3 c.toNat

/-- A unit as it is shown; its first byte counts least. -/
def text (f : UnitForm) (unit : Octets) : Octets :=
  let value := unit.foldr (fun c n => c.toNat + 256 * n) 0
  match f.letter with
  | 'c' => (unit.head?.map escaped).getD []
  | 'a' => (unit.head?.map named).getD []
  | 'x' => digits 16 (2 * f.size) value
  | 'o' => digits 8 f.width value
  | 'd' =>
    let half := pow2 (8 * f.size - 1)
    octets (toString (if value < half then (value : Int) else value - 2 * half))
  | _ => Nat.toDigits 10 value

end UnitForm

/-- The forms that the text of a type names. -/
def unitForms? : (fuel : Nat) → Octets → Option (List UnitForm)
  | 0, _ => some []
  | _, [] => some []
  | fuel + 1, c :: r =>
    let go (size : Nat) (rest : Octets) : Option (List UnitForm) :=
      let shows := rest.head? == some 'z'
      (unitForms? fuel (if shows then rest.drop 1 else rest)).map (UnitForm.mk c size shows :: ·)
    if c == 'a' || c == 'c' then go 1 r
    else if ['d', 'o', 'u', 'x'].contains c then
      match r with
      | 'C' :: rest => go 1 rest
      | 'S' :: rest => go 2 rest
      | 'I' :: rest => go 4 rest
      | 'L' :: rest => go 8 rest
      | d :: rest =>
        if ['1', '2', '4', '8'].contains d then go (d.toNat - 48) rest else go 4 r
      | [] => go 4 r
    else none

/-- Pieces of a length. -/
def piecesOfSize (size : Nat) : (fuel : Nat) → Octets → List Octets
  | 0, _ => []
  | fuel + 1, cs =>
    if cs.isEmpty then [] else cs.take size :: piecesOfSize size fuel (cs.drop size)

/-- The units of a row in their fields, whose extra width is shared out. -/
def unitRow (f : UnitForm) (perRow pad : Nat) (row : Octets) : Octets :=
  let units := piecesOfSize f.size (row.length + 1) row
  (units.zipIdx.map fun (unit, i) =>
    let before := pad * (perRow - i) / perRow
    let after := pad * (perRow - i - 1) / perRow
    atRight (f.width + before - after) (f.text unit)).flatten

/-- An offset as it is shown. -/
def offsetText (radix : Char) (n : Nat) : Octets :=
  match radix with
  | 'd' => UnitForm.digits 10 7 n
  | 'x' => UnitForm.digits 16 6 n
  | 'n' => []
  | _ => UnitForm.digits 8 7 n

/-- The options of `od`. -/
def odOptions : OptionSpec :=
  ⟨"abcdiloOsvxX", "AjNStw", "", [("address-radix", "A"), ("skip-bytes", "j"),
    ("read-bytes", "N"), ("format", "t"), ("output-duplicates", "v"), ("width", "w")], true, 1⟩

/-- The type that a short option stands for. -/
def shortType (c : Char) : Option String :=
  match c with
  | 'a' => some "a"
  | 'b' => some "o1"
  | 'c' => some "c"
  | 'd' => some "u2"
  | 'i' => some "d4"
  | 'l' => some "d8"
  | 'o' => some "o2"
  | 's' => some "d2"
  | 'x' => some "x2"
  | _ => none

/-- The tool `od`. -/
def odTool : Tool := withOptions odOptions fun o => do
  let (found, lost) ← inputs o.rest fileMessage
  if found.isEmpty then return 1
  let skip := ((o.value? 'j').bind natural?).getD 0
  let all := (found.flatMap (·.2)).drop skip
  let most := (o.value? 'N').bind natural?
  match found, most with
  | [(path, text)], some n => leaveBehind path text (skip + n) 4096
  | _, _ => pure ()
  let all := match most with
    | some n => all.take n
    | none => all
  let types := o.given.filterMap fun (k, v) =>
    match k.toList with
    | ['t'] => some v
    | [c] => (shortType c).map octets
    | _ => none
  let types := if types.isEmpty then [['o', '2']] else types
  match types.find? fun t => (unitForms? (t.length + 1) t).isNone with
  | some t =>
    warn (octets "invalid character '" ++ t.take 1 ++ octets "' in type string '" ++ t ++
      ['\x27'])
    return 1
  | none =>
    let forms := types.flatMap fun t => (unitForms? (t.length + 1) t).getD []
    let radix := ((o.value? 'A').bind (·.head?)).getD 'o'
    let width := max 1 (((o.value? 'w').bind natural?).getD 16)
    let perRow (f : UnitForm) : Nat := max 1 (width / f.size)
    let block := (forms.map fun f => (f.width + 1) * perRow f).foldl max 0
    let rows := piecesOfSize width (all.length + 1) all
    let last := rows.length - 1
    let _ ← rows.zipIdx.foldlM (fun (before : Option Octets × Bool) (row, i) => do
      let repeats := !o.has 'v' && before.1 == some row && i < last
      if repeats then
        if !before.2 then sayLine ['*']
        return (before.1, true)
      else
        let lines := forms.zipIdx.map fun (f, j) =>
          let start := offsetText radix (skip + i * width)
          let start := if j = 0 then start else blanks start.length
          let pad := block - f.width * perRow f
          let cells := unitRow f (perRow f) pad row
          let shown := if f.shows then
              blanks (block - cells.length) ++ octets "  >" ++
                row.map (fun c => if ' ' ≤ c && c ≤ '~' then c else '.') ++ ['<']
            else []
          start ++ cells ++ shown
        lines.forM sayLine
        return (some row, false)) (none, false)
    if radix != 'n' then sayLine (offsetText radix (skip + all.length))
    return if lost = 0 then 0 else 1

/-! ## Letters for bits -/

/-- The letters for six bits. -/
def letters64 : Octets :=
  "ABCDEFGHIJKLMNOPQRSTUVWXYZabcdefghijklmnopqrstuvwxyz0123456789+/".toList

/-- The letters for five bits. -/
def letters32 : Octets := "ABCDEFGHIJKLMNOPQRSTUVWXYZ234567".toList

/-- The first bits of a number with so many bits stand in front. -/
def bitsOf (count n : Nat) : List Bool :=
  (List.range count).map fun i => n.testBit (count - 1 - i)

/-- The number of bits. -/
def ofBits (bits : List Bool) : Nat :=
  bits.foldl (fun n b => 2 * n + b.toNat) 0

/-- Bits in groups of a size; the last group is filled up. -/
def bitGroups (size : Nat) : (fuel : Nat) → List Bool → List Nat
  | 0, _ => []
  | fuel + 1, bits =>
    if bits.isEmpty then []
    else
      let group := bits.take size
      ofBits (group ++ List.replicate (size - group.length) false) ::
        bitGroups size fuel (bits.drop size)

/-- Bytes as letters, filled up with equals signs to whole groups. -/
def encodeLetters (letters : Octets) (size unit : Nat) (cs : Octets) : Octets :=
  let bits := cs.flatMap fun c => bitsOf 8 c.toNat
  let text := (bitGroups size (bits.length + 1) bits).map fun n => (letters[n]?).getD '='
  text ++ List.replicate ((unit - text.length % unit) % unit) '='

/-- The bytes that letters stand for, and whether all of them do. -/
def decodeLetters (letters : Octets) (size unit : Nat) (cs : Octets) : Octets × Bool :=
  let body := cs.takeWhile fun c => letters.contains c
  let ending := cs.drop body.length
  let bits := body.flatMap fun c => bitsOf size ((letters.findIdx? (· == c)).getD 0)
  let whole := bits.take (bits.length - bits.length % 8)
  let ended := ending.all (· == '=') && (body.length + ending.length) % unit = 0
  ((bitGroups 8 (whole.length + 1) whole).map fun n => Char.ofNat n, ended)

/-- A tool that writes bytes as letters, and back. -/
def lettersTool (letters : Octets) (size unit : Nat) : Tool :=
  withOptions (.of "di" "w" [("decode", "d"), ("ignore-garbage", "i"), ("wrap", "w")]) fun o => do
    match ← contents (o.rest.head?.getD ['-']) with
    | .error e =>
      warn (fileMessage (o.rest.head?.getD ['-']) e)
      return 1
    | .ok text =>
      if o.has 'd' then
        let text := text.filter fun c => c != '\n' &&
          (!o.has 'i' || letters.contains c || c == '=')
        let (bytes, ended) := decodeLetters letters size unit text
        say bytes
        if ended then return 0
        warn (octets "invalid input")
        return 1
      else
        let encoded := encodeLetters letters size unit text
        let width := ((o.value? 'w').bind natural?).getD 76
        if width = 0 then say encoded
        else say ((piecesOfSize width (encoded.length + 1) encoded).flatMap (· ++ ['\n']))
        return 0

/-- The tool `base64`. -/
def base64Tool : Tool := lettersTool letters64 6 4

/-- The tool `base32`. -/
def base32Tool : Tool := lettersTool letters32 5 8

end MatrixFlow.Script
