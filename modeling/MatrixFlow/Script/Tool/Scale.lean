import MatrixFlow.Script.Cursor
import MatrixFlow.Script.Directive
import MatrixFlow.Script.Tool.Lines

/-!
# Numbers in units

* `ScaledNumber`: a number with a sign and a fraction.
* `readScaled`: a number with the letter of its unit.
* `scaledText`: a number with the letter of the unit that suits it.
* `numfmtTool`: the tool `numfmt`.
-/

namespace MatrixFlow.Script

open ToolM

/-- The letters of units, each for one more power of the base. -/
def unitLetters : List Char := ['K', 'M', 'G', 'T', 'P', 'E', 'Z', 'Y', 'R', 'Q']

/-- Which units there are. -/
inductive UnitSystem where
  | plain
  /-- Powers of 1000. -/
  | thousands
  /-- Powers of 1024. -/
  | binary
  /-- Powers of 1024, with an `i` behind each letter. -/
  | binaryMarked
  /-- The `i` tells which powers they are. -/
  | either
deriving DecidableEq, Repr

namespace UnitSystem

/-- The base of the units. -/
def base : UnitSystem → Nat
  | binary | binaryMarked => 1024
  | _ => 1000

/-- A system by its name. -/
def ofName? (input : Bool) (name : Octets) : Option UnitSystem :=
  match plainString name with
  | "none" => some .plain
  | "si" => some .thousands
  | "iec" => some .binary
  | "iec-i" => some .binaryMarked
  | "auto" => if input then some .either else none
  | _ => none

end UnitSystem

/-- How numbers are rounded. -/
inductive RoundWay where
  | up
  | down
  | fromZero
  | towardsZero
  | nearest
deriving DecidableEq, Repr

/-- A way of rounding by its name. -/
def RoundWay.ofName? (name : Octets) : Option RoundWay :=
  match plainString name with
  | "up" => some .up
  | "down" => some .down
  | "from-zero" => some .fromZero
  | "towards-zero" => some .towardsZero
  | "nearest" => some .nearest
  | _ => none

/-- The quotient, rounded. -/
def RoundWay.divide (w : RoundWay) (negative : Bool) (num den : Nat) : Nat :=
  let away := (num + den - 1) / den
  let toward := num / den
  match w with
  | up => if negative then toward else away
  | down => if negative then away else toward
  | fromZero => away
  | towardsZero => toward
  | nearest => (2 * num + den) / (2 * den)

/-- A number with a sign and a fraction, and how many digits behind the point it was written
with. -/
structure ScaledNumber where
  negative : Bool
  num : Nat
  den : Nat
  places : Nat

/-- What is wrong with a number in a unit. -/
inductive ScaleFault where
  | notNumber (text : Octets)
  | badSuffix (text : Octets)
  | leftOver (text rest : Octets)
  | suffixRefused (text : Octets)
  | markMissing (text : Octets)
deriving DecidableEq, Repr

/-- The fault in words. -/
def ScaleFault.text : ScaleFault → Octets
  | notNumber t => octets "invalid number: '" ++ t ++ ['\x27']
  | badSuffix t => octets "invalid suffix in input: '" ++ t ++ ['\x27']
  | leftOver t rest => octets "invalid suffix in input '" ++ t ++ octets "': '" ++ rest ++ ['\x27']
  | suffixRefused t =>
    octets "rejecting suffix in input: '" ++ t ++ octets "' (consider using \x2d\x2dfrom)"
  | markMissing t =>
    octets "missing 'i' suffix in input: '" ++ t ++ octets "' (e.g Ki/Mi/Gi)"

/-- A number with the letter of its unit. -/
def readScaled (system : UnitSystem) (text : Octets) : Except ScaleFault ScaledNumber :=
  let (negative, body) := match text with
    | '-' :: r => (true, r)
    | r => (false, r)
  let whole := body.takeWhile Char.isDigit
  let rest := body.drop whole.length
  let (fraction, rest) := match rest with
    | '.' :: r =>
      let digits := r.takeWhile Char.isDigit
      if digits.isEmpty then ([], rest) else (digits, r.drop digits.length)
    | r => ([], r)
  if whole.isEmpty then .error (.notNumber text)
  else
    let digits := whole ++ fraction
    let value := (leadingNumber 10 digits.length digits).1
    let number (factor : Nat) : ScaledNumber :=
      ⟨negative, value * factor, pow10 fraction.length, fraction.length⟩
    match rest with
    | [] => .ok (number 1)
    | c :: after =>
      match unitLetters.findIdx? (· == c) with
      | none => .error (.badSuffix text)
      | some i =>
        let marked := after.head? == some 'i'
        let factor (base : Nat) : Nat := Nat.pow base (i + 1)
        let ended (n : ScaledNumber) (left : Octets) : Except ScaleFault ScaledNumber :=
          if left.isEmpty then .ok { n with places := 0 } else .error (.leftOver text left)
        match system with
        | .plain => .error (.suffixRefused text)
        | .thousands => ended (number (factor 1000)) after
        | .binary => ended (number (factor 1024)) after
        | .binaryMarked =>
          if marked then ended (number (factor 1024)) (after.drop 1)
          else .error (.markMissing text)
        | .either =>
          if marked then ended (number (factor 1024)) (after.drop 1)
          else ended (number (factor 1000)) after

/-- The greatest power of a base that is not above a number. -/
def unitPower (base num den : Nat) : (fuel : Nat) → Nat → Nat
  | 0, power => power
  | fuel + 1, power =>
    if Nat.pow base (power + 1) * den ≤ num then unitPower base num den fuel (power + 1)
    else power

/-- A number with the letter of the unit that suits it; `places` tells how many digits stand behind
the point. -/
def scaledText (system : UnitSystem) (way : RoundWay) (places : Option Nat) (n : ScaledNumber) :
    Octets :=
  let sign : Octets := if n.negative then ['-'] else []
  match system with
  | .plain | .either =>
    let places := places.getD n.places
    let scaled := way.divide n.negative (n.num * pow10 places) n.den
    (if scaled = 0 then [] else sign) ++ Directive.placesText false places scaled (pow10 places)
  | system =>
    let base := system.base
    let power := unitPower base n.num n.den 12 0
    let den := n.den * Nat.pow base power
    let adjusted := match places with
      | some p => min (power * 3) p
      | none => if n.num < 10 * den then 1 else 0
    let scaled := way.divide n.negative (n.num * pow10 adjusted) den
    let den := pow10 adjusted
    let (den, power) := if base * den ≤ scaled then (den * base, power + 1) else (den, power)
    let shown := match places with
      | some p => p
      | none => if scaled ≠ 0 && scaled < 10 * den && 0 < power then 1 else 0
    let letter : Octets := match power with
      | 0 => []
      | k + 1 =>
        unitLetters.getD k '?' :: if system = .binaryMarked then ['i'] else []
    sign ++ Directive.placesText false shown scaled den ++ letter

/-! ## The tool -/

/-- How a number is laid out. -/
structure ScaleFormat where
  before : Octets
  after : Octets
  /-- The width; less than zero for numbers on the left. -/
  width : Int
  zeros : Bool
  places : Option Nat

/-- Reads a format with one directive. -/
def scaleFormat (text : Octets) : Except Octets ScaleFormat :=
  let before := text.takeWhile (· != '%')
  let rest := text.drop (before.length + 1)
  let flags := rest.takeWhile fun c => c == '-' || c == '0' || c == '\x27' || c == ' '
  let body := rest.drop flags.length
  let digits := body.takeWhile Char.isDigit
  let width : Int := (leadingNumber 10 digits.length digits).1
  let (places, body) := match body.drop digits.length with
    | '.' :: r =>
      let digits := r.takeWhile Char.isDigit
      (some (leadingNumber 10 digits.length digits).1, r.drop digits.length)
    | r => (none, r)
  if before.length = text.length then
    .error (octets "format '" ++ text ++ octets "' has no % directive")
  else match body with
    | 'f' :: after =>
      if after.contains '%' then
        .error (octets "format '" ++ text ++ octets "' has too many % directives")
      else .ok ⟨before, after, if flags.contains '-' then -width else width,
        flags.contains '0', places⟩
    | _ => .error (octets "invalid format '" ++ text ++
        octets "', directive must be %[0]['][-][N][.][N]f")

/-- How numbers are read and printed. -/
structure ScaleRequest where
  source : UnitSystem
  target : UnitSystem
  sourceUnit : Nat
  targetUnit : Nat
  way : RoundWay
  suffix : Octets
  padding : Int
  format : ScaleFormat

/-- A text in a field; less than zero for texts on the left. -/
def inField (width : Int) (zeros : Bool) (cs : Octets) : Octets :=
  let gap := width.natAbs - cs.length
  if width < 0 then cs ++ List.replicate gap ' '
  else if zeros then
    match cs with
    | '-' :: r => '-' :: List.replicate gap '0' ++ r
    | cs => List.replicate gap '0' ++ cs
  else List.replicate gap ' ' ++ cs

/-- A number as it is asked for. -/
def ScaleRequest.convert (r : ScaleRequest) (text : Octets) : Except ScaleFault Octets :=
  let bare := if r.suffix.isEmpty then text else (Text.stripEnd? r.suffix text).getD text
  (readScaled r.source bare).map fun n =>
    let n := { n with num := n.num * r.sourceUnit, den := n.den * r.targetUnit }
    let shown := scaledText r.target r.way r.format.places n ++ r.suffix
    let shown := inField r.format.width r.format.zeros shown
    inField r.padding false (r.format.before ++ shown ++ r.format.after)

/-- The fields of a line between blanks, each with the blanks in front of it. -/
def blankFields : (fuel : Nat) → Octets → List (Octets × Octets)
  | 0, _ => []
  | fuel + 1, cs =>
    if cs.isEmpty then []
    else
      let blanks := cs.takeWhile fun c => c == ' ' || c == '\t'
      let rest := cs.drop blanks.length
      let word := rest.takeWhile fun c => c != ' ' && c != '\t'
      (blanks, word) :: blankFields fuel (rest.drop word.length)

/-- The numbers of fields: ranges, or all. -/
def fieldRanges? (text : Octets) : Option (List (Nat × Option Nat)) :=
  if text == ['-'] then some [(1, none)]
  else (Text.splitOn ',' text).mapM fun part =>
    match (Text.splitOn '-' part).map fun p => (p.isEmpty, (String.ofList p).toNat?) with
    | [(_, some n)] => if n = 0 then none else some (n, some n)
    | [(_, some n), (true, _)] => some (n, none)
    | [(true, _), (_, some m)] => some (1, some m)
    | [(_, some n), (_, some m)] => some (n, some m)
    | _ => none

/-- A line with its numbers converted, and the faults. -/
def ScaleRequest.line (r : ScaleRequest) (delimiter : Option Char)
    (ranges : List (Nat × Option Nat)) (cs : Octets) : Octets × List ScaleFault :=
  let isAsked (i : Nat) : Bool :=
    ranges.any fun (low, high) => low ≤ i && high.all (i ≤ ·)
  let convert (r : ScaleRequest) (i : Nat) (word : Octets) : Octets × Option ScaleFault :=
    if isAsked i then
      match r.convert word with
      | .ok cs => (cs, none)
      | .error f => (word, some f)
    else (word, none)
  match delimiter with
  | some d =>
    let fields := ((Text.splitOn d cs).zipIdx).map fun (word, i) => convert r (i + 1) word
    (Text.joinWith [d] (fields.map (·.1)), fields.filterMap (·.2))
  | none =>
    let fields := blankFields (cs.length + 1) cs
    let fields := if fields.isEmpty then [([], [])] else fields
    let done := fields.zipIdx.map fun ((blanks, word), i) =>
      -- A number between blanks keeps the place where it ends.
      let first := i = 0
      let keepsPlace := r.padding = 0 && (if first then !blanks.isEmpty else 1 < blanks.length)
      let own := if first then blanks.length else blanks.length - 1
      let r := if keepsPlace then { r with padding := (own + word.length : Nat) } else r
      let (cs, fault) := convert r (i + 1) word
      let front := if fault.isSome || !isAsked (i + 1) || !keepsPlace then blanks
        else if first then [] else blanks.take 1
      (front ++ cs, fault)
    (done.flatMap (·.1), done.filterMap (·.2))

/-- What happens to what is no number. -/
inductive InvalidRule where
  | abort
  | fail
  | warn
  | ignore
deriving DecidableEq, Repr

/-- The values that an option takes, in a message. -/
def validNames (option : String) (value : Octets) (names : List String) : Octets :=
  octets "invalid argument '" ++ value ++ octets ("' for '\x2d\x2d" ++ option ++ "'\n") ++
    octets "Valid arguments are:" ++ names.flatMap fun n => octets ("\n  - '" ++ n ++ "'")

/-- Reads what the options of `numfmt` ask for; a message, with advice to ask for help or
without. -/
def scaleRequest (o : ToolOptions) : Except (Octets × Bool) ScaleRequest := do
  let system (name : String) (input : Bool) : Except (Octets × Bool) UnitSystem :=
    match o.valueOf? (name ++ "=") with
    | none => .ok .plain
    | some value =>
      match UnitSystem.ofName? input value with
      | some s => .ok s
      | none =>
        let names := (if input then ["none", "auto"] else ["none"]) ++ ["si", "iec", "iec-i"]
        .error (validNames name value names, true)
  let unit (name : String) : Except (Octets × Bool) Nat :=
    match o.valueOf? (name ++ "=") with
    | none => .ok 1
    | some value =>
      match readScaled .either value with
      | .ok n => if n.num = 0 then .error (octets "invalid unit size: '" ++ value ++ ['\x27'], false)
        else .ok (n.num / n.den)
      | .error _ => .error (octets "invalid unit size: '" ++ value ++ ['\x27'], false)
  let source ← system "from" true
  let target ← system "to" false
  let sourceUnit ← unit "from-unit"
  let targetUnit ← unit "to-unit"
  let way ← match o.valueOf? "round=" with
    | none => .ok .fromZero
    | some value =>
      match RoundWay.ofName? value with
      | some w => .ok w
      | none => .error (validNames "round" value
          ["up", "down", "from-zero", "towards-zero", "nearest"], true)
  let padding ← match o.valueOf? "padding=" with
    | none => .ok (0 : Int)
    | some value =>
      let (negative, digits) := match value with
        | '-' :: r => (true, r)
        | r => (false, r)
      match (String.ofList digits).toNat? with
      | some n =>
        if n = 0 then .error (octets "invalid padding value '" ++ value ++ ['\x27'], false)
        else .ok (if negative then -(n : Int) else n)
      | none => .error (octets "invalid padding value '" ++ value ++ ['\x27'], false)
  let format ← match o.valueOf? "format=" with
    | none => .ok ⟨[], [], 0, false, none⟩
    | some text => (scaleFormat text).mapError (·, false)
  return ⟨source, target, sourceUnit, targetUnit, way, (o.valueOf? "suffix=").getD [], padding,
    format⟩

/-- The tool `numfmt`. -/
def numfmtTool : Tool :=
  withOptions ⟨"z", "d", "", [("from", "from="), ("from-unit", "from-unit="), ("to", "to="),
      ("to-unit", "to-unit="), ("round", "round="), ("suffix", "suffix="),
      ("padding", "padding="), ("format", "format="), ("field", "field="), ("delimiter", "d"),
      ("header", "header="), ("invalid", "invalid="), ("grouping", "grouping"),
      ("debug", "debug"), ("zero-terminated", "z")], true, 1⟩ fun o => do
    let help := octets "\nTry '" ++ (← read).name ++ octets " \x2d\x2dhelp' for more information."
    let ranges := match o.valueOf? "field=" with
      | none => some [(1, some 1)]
      | some text => fieldRanges? text
    let rule : Option InvalidRule := match (o.valueOf? "invalid=").map plainString with
      | none | some "abort" => some .abort
      | some "fail" => some .fail
      | some "warn" => some .warn
      | some "ignore" => some .ignore
      | _ => none
    match scaleRequest o, ranges, rule with
    | .error (message, advises), _, _ =>
      warn (message ++ if advises then help else [])
      return 1
    | _, none, _ =>
      let text := (o.valueOf? "field=").getD []
      warn ((if text == ['0'] then octets "fields are numbered from 1"
        else octets "invalid field value '" ++ text ++ ['\x27']) ++ help)
      return 1
    | _, _, none =>
      warn (validNames "invalid" ((o.valueOf? "invalid=").getD [])
        ["abort", "fail", "warn", "ignore"] ++ help)
      return 1
    | .ok r, some ranges, some rule =>
      let delimiter := (o.value? 'd').bind List.head?
      let ending := if o.has 'z' then '\x00' else '\n'
      let headers := ((o.valueOf? "header=").bind fun t => (String.ofList t).toNat?).getD 0
      let lines ← if o.rest.isEmpty then do
          let input ← standardInput
          pure ((bareLines input).zipIdx.map fun (line, i) => (line, i < headers))
        else pure (o.rest.map (·, false))
      let (faulty, _) ← lines.foldlM (fun (faulty, stopped) (line, isHeader) => do
        if stopped then return (faulty, true)
        else if isHeader then
          say (line ++ [ending])
          return (faulty, false)
        else
          let (text, faults) := r.line delimiter ranges line
          match faults with
          | [] =>
            say (text ++ [ending])
            return (faulty, false)
          | f :: _ =>
            if rule ≠ .ignore then warn f.text
            if rule ≠ .abort then say (text ++ [ending])
            return (true, rule = .abort)) (false, false)
      return if faulty && (rule = .abort || rule = .fail) then 2 else 0

end MatrixFlow.Script
