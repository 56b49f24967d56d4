import MatrixFlow.Script.Pattern
import MatrixFlow.Script.Tool.Basic

/-!
# Tools for characters

* `trTool`: puts characters in the place of others, or takes them away.
* `cutTool`: shows parts of lines.
-/

namespace MatrixFlow.Script

open ToolM

/-! ## Sets of characters -/

/-- One item of a set. -/
inductive CharSetItem where
  | chars (cs : Octets)
  /-- A class of characters, by its name. -/
  | named (name : String) (cs : Octets)
  /-- A character so many times, or as often as there is room. -/
  | repeated (c : Char) (count : Option Nat)

namespace CharSetItem

/-- The characters of an item, with `room` for one that is repeated. -/
def expand (room : Nat) : CharSetItem → Octets
  | chars cs | named _ cs => cs
  | repeated c count => List.replicate (count.getD room) c

end CharSetItem

/-- The characters from one to another. -/
def charRange (a b : Char) : Octets :=
  (List.range (b.toNat + 1 - a.toNat)).map fun n => Char.ofNat (a.toNat + n)

/-- The character that a set goes on with, and how long its text is. -/
def setChar? (cs : Octets) : Option (Char × Nat) :=
  match cs with
  | '\\' :: r =>
    match (EscapeRules.mk false true false false false false false).escape? r with
    | some ([c], n) => some (c, n + 1)
    | _ =>
      match r with
      | c :: _ => some (c, 2)
      | [] => some ('\\', 1)
  | c :: _ => some (c, 1)
  | [] => none

/-- What is wrong with a set. -/
inductive CharSetFault where
  | reversed (text : Octets)
  | badClass (name : Octets)
deriving DecidableEq, Repr

/-- The fault in words. -/
def CharSetFault.text : CharSetFault → Octets
  | reversed text =>
    octets "range-endpoints of '" ++ text ++ octets "' are in reverse collating sequence order"
  | badClass name => octets "invalid character class '" ++ name ++ ['\x27']

/-- The items of a set. -/
def charSet : (fuel : Nat) → Octets → Except CharSetFault (List CharSetItem)
  | 0, _ => .ok []
  | _, [] => .ok []
  | fuel + 1, cs => do
    let plain : Except CharSetFault (List CharSetItem) :=
      match setChar? cs with
      | none => .ok []
      | some (a, n) =>
        match cs.drop n with
        | '-' :: r =>
          match setChar? r with
          | some (b, m) =>
            if b < a then .error (.reversed (cs.take (n + 1 + m)))
            else (charSet fuel (r.drop m)).map (CharSetItem.chars (charRange a b) :: ·)
          | none => .ok [.chars [a], .chars ['-']]
        | rest => (charSet fuel rest).map (CharSetItem.chars [a] :: ·)
    match cs with
    | '[' :: ':' :: r =>
      match Text.cut? [':', ']'] r with
      | some (name, rest) =>
        let ranges := classRanges (String.ofList name)
        if ranges.isEmpty then .error (.badClass name)
        else
          let members := (ranges.flatMap fun (a, b) => charRange a b).mergeSort (· ≤ ·)
          return .named (String.ofList name) members :: (← charSet fuel rest)
      | none => plain
    | '[' :: '=' :: c :: '=' :: ']' :: rest =>
      return .chars [c] :: (← charSet fuel rest)
    | '[' :: r =>
      match setChar? r with
      | some (c, n) =>
        match r.drop n with
        | '*' :: after =>
          let digits := after.takeWhile Char.isDigit
          match after.drop digits.length with
          | ']' :: rest =>
            let base := if digits.head? == some '0' then 8 else 10
            let value := (leadingNumber base digits.length digits).1
            let count := if value = 0 then none else some value
            return .repeated c count :: (← charSet fuel rest)
          | _ => plain
        | _ => plain
      | none => plain
    | _ => plain

/-- The characters of a set that has to be at least so long, if it can be made so. -/
def setMembers (length : Nat) (items : List CharSetItem) : Octets :=
  let own := total (items.map fun i => (i.expand 0).length)
  items.flatMap (·.expand (length - own))

/-- Of the same members of a set that follow one another only the first stays. -/
def squeeze (members : Char → Bool) : Octets → Octets
  | [] => []
  | [c] => [c]
  | a :: b :: r =>
    if a == b && members a then squeeze members (b :: r) else a :: squeeze members (b :: r)

/-- The options of `tr`. -/
def trOptions : OptionSpec :=
  ⟨"cCdst", "", "", [("complement", "c"), ("delete", "d"), ("squeeze-repeats", "s"),
    ("truncate-set1", "t")], false, 1⟩

/-- What stands for a character when members of one set become those of another. -/
def translated (first second : Octets) (c : Char) : Char :=
  let places := first.zipIdx.filter fun (d, _) => d == c
  match places.getLast? with
  | some (_, i) => (second[i]?).getD (second.getLast?.getD c)
  | none => c

/-- The tool `tr`. -/
def trTool : Tool := withOptions trOptions fun o => do
  let complement := o.has 'c' || o.has 'C'
  let tryHelp (text : Octets) : Tool := do
    warn (text ++ octets "\nTry 'tr --help' for more information.")
    return 1
  let sets ← o.rest.mapM fun s => do
    match charSet (s.length + 1) s with
    | .ok items => return some items
    | .error f =>
      warn f.text
      return none
  let needed := if o.has 'd' then (if o.has 's' then 2 else 1) else if o.has 's' then 1 else 2
  let most := if o.has 'd' && !o.has 's' then 1 else 2
  match o.rest with
  | [] => tryHelp (octets "missing operand")
  | text :: others =>
    if o.rest.length < needed then
      tryHelp (octets "missing operand after '" ++ text ++ octets (if o.has 'd'
        then "'\nTwo strings must be given when both deleting and squeezing repeats."
        else "'\nTwo strings must be given when translating."))
    else if o.rest.length > most then
      tryHelp (octets "extra operand '" ++ (others.drop (most - 1)).head?.getD [] ++
        octets (if most = 1 then
          "'\nOnly one string may be given when deleting without squeezing repeats." else "'"))
    else if sets.any Option.isNone then return 1
    else
      let items := sets.filterMap id
      let listed := setMembers 0 (items.head?.getD [])
      let all := charRange '\x00' (Char.ofNat 255)
      let first := if complement then all.filter fun c => !listed.contains c else listed
      let second := setMembers first.length ((items.drop 1).head?.getD [])
      let input ← standardInput
      let isFirst (c : Char) : Bool := listed.contains c != complement
      if o.has 'd' then
        let kept := input.filter fun c => !isFirst c
        say (if o.has 's' then squeeze second.contains kept else kept)
        return 0
      else if items.length = 1 then
        say (squeeze isFirst input)
        return 0
      else if second.isEmpty && !o.has 't' then
        warn (octets "when not truncating set1, string2 must be non-empty")
        return 1
      else
        let first := if o.has 't' then first.take second.length else first
        let table := all.map (translated first second)
        let changed := input.map fun c => (table[c.toNat]?).getD c
        say (if o.has 's' then squeeze second.contains changed else changed)
        return 0

/-! ## Parts of lines -/

/-- A range of positions; without an end it goes on to the last one. -/
abbrev PositionRange := Nat × Option Nat

/-- What is wrong with a list of positions. -/
inductive PositionFault where
  | bad (text : Octets)
  | zero
  | decreasing
  | noEnds
deriving DecidableEq, Repr

/-- One range of a list. -/
def positionRange (text : Octets) : Except PositionFault PositionRange :=
  match Text.cut? ['-'] text with
  | some (low, high) =>
    if low.isEmpty && high.isEmpty then .error .noEnds
    else match (if low.isEmpty then some 1 else natural? low),
        (if high.isEmpty then some 0 else natural? high) with
      | some a, some b =>
        if a = 0 then .error .zero
        else if high.isEmpty then .ok (a, none)
        else if b < a then .error .decreasing
        else .ok (a, some b)
      | none, _ => .error (.bad low)
      | _, none => .error (.bad high)
  | none =>
    match natural? text with
    | some 0 => .error .zero
    | some n => .ok (n, some n)
    | none => .error (.bad text)

/-- The ranges of a list. -/
def positionRanges (list : Octets) : Except PositionFault (List PositionRange) :=
  ((list.splitOnP fun c => c == ',' || c == ' ').mapM positionRange)

/-- A position is in one of the ranges. -/
def inPositions (ranges : List PositionRange) (n : Nat) : Bool :=
  ranges.any fun (a, b) => a ≤ n && b.all (n ≤ ·)

/-- A position begins a range, which is not joined to one before it. -/
def beginsRange (ranges : List PositionRange) (n : Nat) : Bool :=
  (ranges.any fun (a, _) => a = n) &&
    !(ranges.any fun (a, b) => a < n && b.all (n ≤ ·))

/-- The options of `cut`. -/
def cutOptions : OptionSpec :=
  .of "nsz" "bcfd" [("bytes", "b"), ("characters", "c"), ("fields", "f"), ("delimiter", "d"),
    ("only-delimited", "s"), ("complement", "complement"), ("zero-terminated", "z"),
    ("output-delimiter", "output-delimiter=")]

/-- Characters of a line in ranges, with a text between the ranges. -/
def cutChars (keeps starts : Nat → Bool) (between : Octets) (line : Octets) : Octets :=
  (line.zipIdx.foldl (fun (kept : Octets × Bool) (c, i) =>
    let n := i + 1
    if keeps n then
      let gap := if kept.2 && starts n then between.reverse else []
      (c :: gap ++ kept.1, true)
    else kept) ([], false)).1.reverse

/-- The tool `cut`. -/
def cutTool : Tool := withOptions cutOptions fun o => do
  let refuse (text : String) : Tool := do
    warn (octets (text ++ "\nTry 'cut --help' for more information."))
    return 1
  let lists := ['b', 'c', 'f'].filter o.has
  match lists with
  | [kind] =>
    let byFields := kind == 'f'
    let delimiter := (o.value? 'd').getD ['\t']
    if !byFields && (o.value? 'd').isSome then
      refuse "an input delimiter may be specified only when operating on fields"
    else if !byFields && o.has 's' then
      refuse
        "suppressing non-delimited lines makes sense\n\tonly when operating on fields"
    else if delimiter.length > 1 then refuse "the delimiter must be a single character"
    else match positionRanges ((o.value? kind).getD []) with
      | .error f =>
        refuse (match f with
          | .zero => if byFields then "fields are numbered from 1"
            else "byte/character positions are numbered from 1"
          | .decreasing => "invalid decreasing range"
          | .noEnds => "invalid range with no endpoint: -"
          | .bad text =>
            (if byFields then "invalid field value '" else "invalid byte/character position '") ++
              plainString text ++ "'")
      | .ok ranges =>
        let complement := o.hasName "complement"
        let keeps (n : Nat) : Bool := inPositions ranges n != complement
        let separator := delimiter.head?.getD '\x00'
        let between := (o.valueOf? "output-delimiter=").getD
          (if byFields then [separator] else [])
        let lost ← forInputs o.rest fileMessage fun _ text =>
          (bareLines text).forM fun line => do
            if !byFields then
              let starts (n : Nat) : Bool :=
                if complement then !keeps (n - 1) else beginsRange ranges n
              sayLine (cutChars keeps starts between line)
            else if line.contains separator then
              let kept := (Text.splitOn separator line).zipIdx.filter fun (_, i) => keeps (i + 1)
              sayLine (Text.joinWith between (kept.map (·.1)))
            else if !o.has 's' then sayLine line
        return if lost = 0 then 0 else 1
  | [] => refuse "you must specify a list of bytes, characters, or fields"
  | _ => refuse "only one list may be specified"

end MatrixFlow.Script
