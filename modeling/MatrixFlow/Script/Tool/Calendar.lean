import MatrixFlow.Script.Directive
import MatrixFlow.Script.Tool.Basic

/-!
# Dates

* `Moment`: a moment; `Civil`: its date and its time of day.
* `dateText`: a moment as a format says.
* `readMoment?`: the moment that a text describes.
* `dateTool`: the tool `date`.

All times are those of the zone that others are counted from.
-/

namespace MatrixFlow.Script

/-- A moment: seconds since the start of 1970, and nanoseconds. -/
structure Moment where
  seconds : Int
  nanos : Nat
deriving DecidableEq, Repr

/-! ## Calendar -/

/-- A date and a time of day. -/
structure Civil where
  year : Int
  month : Nat
  day : Nat
  hour : Nat
  minute : Nat
  second : Nat
deriving DecidableEq, Repr

/-- The days from the start of 1970 to a date. Years begin with March here, so that a leap day
comes last. -/
def daysOfDate (year : Int) (month day : Nat) : Int :=
  let year := if month ≤ 2 then year - 1 else year
  let era := year.fdiv 400
  let yearOfEra := year - era * 400
  let dayOfYear := (153 * ((month + 9) % 12) + 2) / 5 + (day : Int) - 1
  let dayOfEra := yearOfEra * 365 + yearOfEra / 4 - yearOfEra / 100 + dayOfYear
  era * 146097 + dayOfEra - 719468

/-- The year, month and day that so many days behind the start of 1970 are. -/
def dateOfDays (days : Int) : Int × Nat × Nat :=
  let shifted := days + 719468
  let era := shifted.fdiv 146097
  let dayOfEra := (shifted - era * 146097).toNat
  let yearOfEra := (dayOfEra - dayOfEra / 1460 + dayOfEra / 36524 - dayOfEra / 146096) / 365
  let dayOfYear := dayOfEra - (365 * yearOfEra + yearOfEra / 4 - yearOfEra / 100)
  let shiftedMonth := (5 * dayOfYear + 2) / 153
  let day := dayOfYear - (153 * shiftedMonth + 2) / 5 + 1
  let month := if shiftedMonth < 10 then shiftedMonth + 3 else shiftedMonth - 9
  let year := (yearOfEra : Int) + era * 400
  (if month ≤ 2 then year + 1 else year, month, day)

/-- The names of the days of a week. -/
def dayNames : List String :=
  ["Sunday", "Monday", "Tuesday", "Wednesday", "Thursday", "Friday", "Saturday"]

/-- The names of the months. -/
def monthNames : List String :=
  ["January", "February", "March", "April", "May", "June", "July", "August", "September",
    "October", "November", "December"]

/-- The day of the week of a count of days, from Sunday on. -/
def weekdayOfDays (days : Int) : Nat := ((days + 4) % 7).toNat

namespace Moment

/-- The days behind the start of 1970. -/
def days (m : Moment) : Int := m.seconds.fdiv 86400

/-- The date and the time of day. -/
def civil (m : Moment) : Civil :=
  let (year, month, day) := dateOfDays m.days
  let rest := (m.seconds - m.days * 86400).toNat
  ⟨year, month, day, rest / 3600, rest / 60 % 60, rest % 60⟩

/-- The number of the day in its year, from one on. -/
def dayOfYear (m : Moment) : Nat :=
  (m.days - daysOfDate m.civil.year 1 1 + 1).toNat

/-- The year of weeks that the moment is in, and the number of its week. A year begins with the
Monday whose week has the year's first Thursday. -/
def weekYear (m : Moment) : Int × Nat :=
  let weekday : Int := ((weekdayOfDays m.days + 6) % 7 : Nat)
  let thursday := m.days - weekday + 3
  let (year, _, _) := dateOfDays thursday
  (year, ((thursday - daysOfDate year 1 1) / 7).toNat + 1)

end Moment

/-! ## Formats -/

/-- How a field of a date is padded. -/
structure DatePad where
  /-- The sign that fills it up, if one was asked for. -/
  fill : Option Char
  bare : Bool
  upper : Bool
  swapped : Bool
  width : Option Nat

/-- A number in a field. -/
def DatePad.number (p : DatePad) (width : Nat) (fill : Char) (n : Int) : Octets :=
  let digits := Nat.toDigits 10 n.natAbs
  let sign : Octets := if n < 0 then ['-'] else []
  if p.bare then sign ++ digits
  else
    let fill := p.fill.getD fill
    let gap := (p.width.getD width) - digits.length - sign.length
    if fill == '0' then sign ++ List.replicate gap '0' ++ digits
    else List.replicate gap ' ' ++ sign ++ digits

/-- A text in a field. -/
def DatePad.text (p : DatePad) (s : String) : Octets :=
  let cs := octets s
  let cs := if p.upper || p.swapped then cs.map Char.toUpper else cs
  let fill := if p.fill == some '0' then '0' else ' '
  if p.bare then cs else List.replicate (p.width.getD 0 - cs.length) fill ++ cs

/-- The flags of a field, and what follows. -/
def datePad (p : DatePad) : Octets → DatePad × Octets
  | [] => (p, [])
  | c :: r =>
    match c with
    | '-' => datePad { p with bare := true } r
    | '_' => datePad { p with fill := some ' ', bare := false } r
    | '0' => datePad { p with fill := some '0', bare := false } r
    | '^' => datePad { p with upper := true } r
    | '#' => datePad { p with swapped := true } r
    | _ => (p, c :: r)

/-- One field of a date; nothing if there is no such field. -/
def dateField? (p : DatePad) (m : Moment) (c : Char) : Option Octets :=
  let t := m.civil
  let two (n : Nat) : Octets := p.number 2 '0' n
  let spaced (n : Nat) : Octets := p.number 2 ' ' n
  let plain (n : Nat) : Octets := (⟨none, false, false, false, none⟩ : DatePad).number 2 '0' n
  let clock := plain t.hour ++ ':' :: plain t.minute ++ ':' :: plain t.second
  let hour12 := if t.hour % 12 = 0 then 12 else t.hour % 12
  let weekday := weekdayOfDays m.days
  let dayName := dayNames.getD weekday ""
  let monthName := monthNames.getD (t.month - 1) ""
  let half := if t.hour < 12 then "AM" else "PM"
  let text (cs : Octets) : Octets := p.text (plainString cs)
  match c with
  | '%' => some ['%']
  | 'n' => some ['\n']
  | 't' => some ['\t']
  | 'a' => some (p.text (String.ofList (dayName.toList.take 3)))
  | 'A' => some (p.text dayName)
  | 'b' | 'h' => some (p.text (String.ofList (monthName.toList.take 3)))
  | 'B' => some (p.text monthName)
  | 'c' => some (text (octets (String.ofList (dayName.toList.take 3) ++ " " ++
      String.ofList (monthName.toList.take 3) ++ " ") ++
      (⟨none, false, false, false, none⟩ : DatePad).number 2 ' ' t.day ++ ' ' :: clock ++ ' ' ::
      integerOctets t.year))
  | 'C' => some (p.number 2 '0' (t.year.fdiv 100))
  | 'd' => some (two t.day)
  | 'D' | 'x' => some (text (plain t.month ++ '/' :: plain t.day ++ '/' ::
      plain (t.year % 100).toNat))
  | 'e' => some (spaced t.day)
  | 'F' => some (text (integerOctets t.year ++ '-' :: plain t.month ++ '-' :: plain t.day))
  | 'g' => some (two (m.weekYear.1 % 100).toNat)
  | 'G' => some (p.number 4 '0' m.weekYear.1)
  | 'H' => some (two t.hour)
  | 'I' => some (two hour12)
  | 'j' => some (p.number 3 '0' m.dayOfYear)
  | 'k' => some (spaced t.hour)
  | 'l' => some (spaced hour12)
  | 'm' => some (two t.month)
  | 'M' => some (two t.minute)
  | 'N' =>
    let digits := Nat.toDigits 10 m.nanos
    let digits := List.replicate (9 - digits.length) '0' ++ digits
    let n := p.width.getD 9
    some (digits.take n ++ List.replicate (n - 9) '0')
  | 'p' => some (if p.swapped then p.text half |>.map Char.toLower else p.text half)
  | 'P' => some ((p.text half).map Char.toLower)
  | 'q' => some (p.number 1 '0' ((t.month - 1) / 3 + 1 : Nat))
  | 'r' => some (text (plain hour12 ++ ':' :: plain t.minute ++ ':' :: plain t.second ++
      octets (" " ++ half)))
  | 'R' => some (text (plain t.hour ++ ':' :: plain t.minute))
  | 's' => some (p.number 1 '0' m.seconds)
  | 'S' => some (two t.second)
  | 'T' | 'X' => some (text clock)
  | 'u' => some (p.number 1 '0' (if weekday = 0 then 7 else weekday : Nat))
  | 'U' => some (two ((m.dayOfYear + 6 - weekday) / 7))
  | 'V' => some (two m.weekYear.2)
  | 'w' => some (p.number 1 '0' weekday)
  | 'W' => some (two ((m.dayOfYear + 6 - (weekday + 6) % 7) / 7))
  | 'y' => some (two (t.year % 100).toNat)
  | 'Y' => some (p.number 4 '0' t.year)
  | 'z' => some (octets "+0000")
  | 'Z' => some (if p.swapped then (p.text "UTC").map Char.toLower else p.text "UTC")
  | _ => none
where
  /-- A number with its sign. -/
  integerOctets (n : Int) : Octets :=
    (if n < 0 then ['-'] else []) ++ Nat.toDigits 10 n.natAbs

/-- A moment as a format says. -/
def dateText (m : Moment) : (fuel : Nat) → Octets → Octets
  | 0, _ => []
  | fuel + 1, cs =>
    match cs with
    | [] => []
    | '%' :: r =>
      let (p, rest) := datePad ⟨none, false, false, false, none⟩ r
      let (count, rest) := directiveCount? rest
      let p := { p with width := match count with
        | some (.given n) => some n
        | _ => none }
      let colons := (rest.takeWhile (· == ':')).length
      match rest.drop colons with
      | 'z' :: after =>
        let zone := match colons with
          | 0 => "+0000"
          | 1 => "+00:00"
          | 2 => "+00:00:00"
          | _ => "+00"
        octets zone ++ dateText m fuel after
      | c :: after =>
        let (c, after) := match c, after with
          | 'E', d :: after | 'O', d :: after => (d, after)
          | _, _ => (c, after)
        match if colons = 0 then dateField? p m c else none with
        | some cs => cs ++ dateText m fuel after
        | none => '%' :: r.take (r.length - after.length) ++ dateText m fuel after
      | [] => '%' :: r
    | c :: r => c :: dateText m fuel r

/-! ## Reading -/

/-- What has been read of a description of a moment. -/
structure MomentReading where
  date : Option (Int × Nat × Nat)
  /-- Seconds and nanoseconds of the day. -/
  time : Option (Nat × Nat)
  /-- The seconds by which the zone is ahead. -/
  zone : Int
  months : Int
  days : Int
  seconds : Int
  weekday : Option Nat

/-- The number that all of a text is. -/
def wholeNat? (cs : Octets) : Option Nat :=
  if !cs.isEmpty && cs.all Char.isDigit then some (leadingNumber 10 cs.length cs).1 else none

/-- How many days a month has. -/
def daysOfMonth (year : Int) (month : Nat) : Nat :=
  let next := if month = 12 then daysOfDate (year + 1) 1 1 else daysOfDate year (month + 1) 1
  (next - daysOfDate year month 1).toNat

/-- A date that there is. -/
def validDate? (year : Int) (month day : Nat) : Option (Int × Nat × Nat) :=
  if 1 ≤ month && month ≤ 12 && 1 ≤ day && day ≤ daysOfMonth year month then
    some (year, month, day)
  else none

/-- A year that may be written with two digits. -/
def fullYear (cs : Octets) (n : Nat) : Int :=
  if cs.length ≤ 2 then (if n < 69 then 2000 + n else 1900 + n) else n

/-- A date in digits. -/
def numericDate? (cs : Octets) : Option (Int × Nat × Nat) :=
  match (Text.splitOn '-' cs).map fun p => (p, wholeNat? p) with
  | [(y, some year), (_, some month), (_, some day)] => validDate? (fullYear y year) month day
  | _ =>
    match (Text.splitOn '/' cs).map fun p => (p, wholeNat? p) with
    | [(_, some month), (_, some day), (y, some year)] => validDate? (fullYear y year) month day
    | _ =>
      match cs.length, wholeNat? cs with
      | 8, some n => validDate? (n / 10000 : Nat) (n / 100 % 100) (n % 100)
      | _, _ => none

/-- The zone that a text is, in seconds. -/
def zoneOffset? (cs : Octets) : Option Int :=
  let hours (digits : Octets) : Option Int :=
    match (Text.splitOn ':' digits).map wholeNat? with
    | [some h, some m] => some ((h * 3600 + m * 60 : Nat) : Int)
    | [some n] => some (if digits.length ≤ 2 then (n * 3600 : Nat) else
        (n / 100 * 3600 + n % 100 * 60 : Nat))
    | _ => none
  match cs with
  | [] => some 0
  | '+' :: r => hours r
  | '-' :: r => (hours r).map fun n => -n
  | _ => if ["z", "utc", "gmt"].contains (plainString cs) then some 0 else none

/-- The time of day that a text is: seconds, nanoseconds, and the zone. -/
def clockTime? (cs : Octets) : Option (Nat × Nat × Int) :=
  let digits := cs.takeWhile fun c => c.isDigit || c == ':' || c == '.'
  let behind := cs.drop digits.length
  let (half, zone) := match behind with
    | 'a' :: 'm' :: r => (some 0, r)
    | 'p' :: 'm' :: r => (some 12, r)
    | r => (none, r)
  let (clock, fraction) := match Text.cut? ['.'] digits with
    | some (a, b) => (a, b)
    | none => (digits, [])
  let nanos := (leadingNumber 10 9 ((fraction ++ List.replicate 9 '0').take 9)).1
  let hour? (h : Nat) : Option Nat := match half with
    | none => if h < 24 then some h else none
    | some more => if 1 ≤ h && h ≤ 12 then some (h % 12 + more) else none
  let found := match (Text.splitOn ':' clock).map wholeNat? with
    | [some h] => if half.isSome then some (h, 0, 0) else none
    | [some h, some m] => some (h, m, 0)
    | [some h, some m, some s] => some (h, m, s)
    | _ => none
  match found, zoneOffset? zone with
  | some (h, m, s), some zone =>
    match hour? h with
    | some h => if m < 60 && s ≤ 60 then some (h * 3600 + m * 60 + s, nanos, zone) else none
    | none => none
  | _, _ => none

/-- The name that a text is or begins, with at least three letters. -/
def nameIndex? (names : List String) (cs : Octets) : Option Nat :=
  if cs.length < 3 then none
  else names.findIdx? fun name =>
    let lower := name.toList.map Char.toLower
    cs == lower || cs == lower.take 3

/-- A length of time by its name: months, days and seconds. -/
def timeUnit? (cs : Octets) : Option (Int × Int × Int) :=
  let name := plainString (if cs.length > 3 && cs.getLast? == some 's' then cs.dropLast else cs)
  match name with
  | "year" => some (12, 0, 0)
  | "month" => some (1, 0, 0)
  | "fortnight" => some (0, 14, 0)
  | "week" => some (0, 7, 0)
  | "day" => some (0, 1, 0)
  | "hour" => some (0, 0, 3600)
  | "min" | "minute" => some (0, 0, 60)
  | "sec" | "second" => some (0, 0, 1)
  | _ => none

namespace MomentReading

/-- So many lengths of time later. -/
def shift (r : MomentReading) (n : Int) (u : Int × Int × Int) : MomentReading :=
  { r with
    months := r.months + n * u.1, days := r.days + n * u.2.1, seconds := r.seconds + n * u.2.2 }

/-- Reads a description word by word. -/
def readWords (r : MomentReading) : (fuel : Nat) → List Octets → Option MomentReading
  | 0, _ => none
  | fuel + 1, words =>
    match words with
    | [] => some r
    | word :: rest =>
      let goOn (r : MomentReading) (rest : List Octets) := readWords r fuel rest
      let sign := match word with
        | '-' :: _ => (-1 : Int)
        | _ => 1
      let bare := match word with
        | '-' :: w | '+' :: w => w
        | w => w
      let digits := bare.takeWhile Char.isDigit
      -- A count with its unit, in one word or two, and the word that turns it around.
      let counted := match wholeNat? digits, bare.drop digits.length, rest with
        | some n, [], u :: rest => (timeUnit? u).map fun u => (sign * (n : Int), u, rest)
        | some n, u, rest => (timeUnit? u).map fun u => (sign * (n : Int), u, rest)
        | none, u, rest =>
          if bare.isEmpty then none else (timeUnit? u).map fun u => (sign, u, rest)
      match counted with
      | some (n, u, rest) =>
        match rest with
        | w :: after => if w == octets "ago" then goOn (r.shift (-n) u) after
          else goOn (r.shift n u) rest
        | [] => goOn (r.shift n u) rest
      | none =>
        match word, rest with
        | ['+'], w :: after => goOn r (('+' :: w) :: after)
        | ['-'], w :: after => goOn r (('-' :: w) :: after)
        | _, _ =>
          match plainString word, rest.head?.bind timeUnit? with
          | "next", some u => goOn (r.shift 1 u) (rest.drop 1)
          | "last", some u => goOn (r.shift (-1) u) (rest.drop 1)
          | "this", some _ => goOn r (rest.drop 1)
          | "now", _ | "today", _ => goOn r rest
          | "tomorrow", _ => goOn (r.shift 1 (0, 1, 0)) rest
          | "yesterday", _ => goOn (r.shift (-1) (0, 1, 0)) rest
          | _, _ =>
            match numericDate? word, clockTime? word, Text.cut? ['t'] word with
            | some d, _, _ => if r.date.isSome then none else goOn { r with date := some d } rest
            | none, some (s, n, zone), _ =>
              if r.time.isSome then none
              else goOn { r with time := some (s, n), zone := r.zone + zone } rest
            | none, none, some (a, b) =>
              match numericDate? a, clockTime? b with
              | some d, some (s, n, zone) =>
                if r.date.isSome || r.time.isSome then none
                else goOn { r with date := some d, time := some (s, n), zone := zone } rest
              | _, _ => named r fuel word rest
            | none, none, none => named r fuel word rest
where
  /-- A word that names a month, a day of the week or a zone. -/
  named (r : MomentReading) (fuel : Nat) (word : Octets) (rest : List Octets) :
      Option MomentReading :=
    let dated (year : Int) (month day : Nat) (rest : List Octets) : Option MomentReading :=
      match validDate? year month day with
      | some d => if r.date.isSome then none else readWords { r with date := some d } fuel rest
      | none => none
    match nameIndex? monthNames word, rest with
    | some month, d :: y :: rest =>
      match wholeNat? d, wholeNat? y with
      | some day, some year => dated (fullYear y year) (month + 1) day rest
      | _, _ => none
    | _, _ =>
      match wholeNat? word, rest with
      | some day, m :: y :: rest =>
        match nameIndex? monthNames m, wholeNat? y with
        | some month, some year => dated (fullYear y year) (month + 1) day rest
        | _, _ => none
      | _, _ =>
        match nameIndex? dayNames word, zoneOffset? word with
        | some weekday, _ => readWords { r with weekday := some weekday } fuel rest
        | none, some zone => readWords { r with zone := r.zone + zone } fuel rest
        | none, none => none

/-- The moment that has been described, seen from another one. -/
def moment (r : MomentReading) (now : Moment) (moves : Bool) : Moment :=
  let here := now.civil
  let (year, month, day) := r.date.getD (here.year, here.month, here.day)
  let months := year * 12 + ((month : Int) - 1) + r.months
  let day := daysOfDate (months.fdiv 12) ((months % 12).toNat + 1) 1 + (day : Int) - 1 + r.days
  let day := match r.weekday with
    | some w => day + (((w + 7 - weekdayOfDays day) % 7 : Nat) : Int)
    | none => day
  let (seconds, nanos) := match r.time with
    | some t => t
    | none =>
      if r.date.isSome || r.weekday.isSome || !moves then (0, 0)
      else (here.hour * 3600 + here.minute * 60 + here.second, now.nanos)
  ⟨day * 86400 + (seconds : Int) - r.zone + r.seconds, nanos⟩

end MomentReading

/-- The moment that a text describes, seen from another one. -/
def readMoment? (now : Moment) (text : Octets) : Option Moment :=
  let lower := text.map Char.toLower
  match lower with
  | '@' :: r =>
    let (negative, r) := match r with
      | '-' :: r => (true, r)
      | '+' :: r => (false, r)
      | r => (false, r)
    let (whole, fraction) := match Text.cut? ['.'] r with
      | some (a, b) => (a, b)
      | none => (r, [])
    match wholeNat? whole with
    | none => none
    | some n =>
      if !fraction.all Char.isDigit then none
      else
        let nanos := (leadingNumber 10 9 ((fraction ++ List.replicate 9 '0').take 9)).1
        if negative && 0 < nanos then some ⟨-(n : Int) - 1, 1000000000 - nanos⟩
        else some ⟨if negative then -(n : Int) else n, nanos⟩
  | _ =>
    let words := (Text.splitOn ' ' (lower.map fun c => if c == ',' || c == '\t' then ' ' else c))
    let words := words.filter fun w => !w.isEmpty
    (MomentReading.readWords ⟨none, none, 0, 0, 0, 0, none⟩ (2 * words.length + 4) words).map
      fun r => r.moment now !words.isEmpty

/-! ## The tool -/

/-- The formats of dates and times that go down to a unit. -/
def isoFormat? (unit : Octets) : Option String :=
  match plainString unit with
  | "" | "date" => some "%Y-%m-%d"
  | "hours" => some "%Y-%m-%dT%H%:z"
  | "minutes" => some "%Y-%m-%dT%H:%M%:z"
  | "seconds" => some "%Y-%m-%dT%H:%M:%S%:z"
  | "ns" => some "%Y-%m-%dT%H:%M:%S,%N%:z"
  | _ => none

/-- The tool `date`. -/
def dateTool : Tool :=
  ToolM.withOptions ⟨"uR", "dfrs", "I", [("universal", "u"), ("utc", "u"), ("date", "d"),
      ("rfc-email", "R"), ("rfc-2822", "R"), ("iso-8601", "I"), ("rfc-3339", "rfc="),
      ("reference", "r"), ("set", "s"), ("file", "f")], true, 1⟩ fun o => do
    let help := octets "\nTry '" ++ (← read).name ++ octets " \x2d\x2dhelp' for more information."
    let now : Moment := ⟨0, 0⟩
    let formats := (if o.has 'R' then [octets "%a, %d %b %Y %H:%M:%S %z"] else []) ++
      (match o.value? 'I' with
        | some unit => ((isoFormat? unit).map octets).toList
        | none => []) ++
      match o.valueOf? "rfc=" with
        | some unit => [octets (match plainString unit with
            | "date" => "%Y-%m-%d"
            | "ns" => "%Y-%m-%d %H:%M:%S.%N%:z"
            | _ => "%Y-%m-%d %H:%M:%S%:z")]
        | none => []
    match o.rest with
    | _ :: extra :: _ =>
      ToolM.warn (octets "extra operand '" ++ extra ++ ['\x27'] ++ help)
      return 1
    | rest =>
      let given := rest.head?
      match given with
      | some ('+' :: _) | none =>
        let format := match given with
          | some ('+' :: f) => f
          | _ => formats.head?.getD (octets "%a %b %e %H:%M:%S %Z %Y")
        if given.isSome && !formats.isEmpty then
          ToolM.warn (octets "multiple output formats specified")
          return 1
        match o.value? 'd' with
        | none =>
          ToolM.sayLine (dateText now (format.length + 1) format)
          return 0
        | some text =>
          match readMoment? now text with
          | some m =>
            ToolM.sayLine (dateText m (format.length + 1) format)
            return 0
          | none =>
            ToolM.warn (octets "invalid date '" ++ text ++ ['\x27'])
            return 1
      | some text =>
        if o.has 'd' || o.has 'r' then
          ToolM.warn (octets "the argument '" ++ text ++ octets "' lacks a leading '+';\n" ++
            octets "when using an option to specify date(s), any non-option\n" ++
            octets "argument must be a format string beginning with '+'" ++ help)
        else ToolM.warn (octets "invalid date '" ++ text ++ ['\x27'])
        return 1

end MatrixFlow.Script
