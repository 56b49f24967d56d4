import MatrixFlow.Script.Directive
import MatrixFlow.Script.Quotation

/-!
# Formatted printing

A format holds texts and directives; each directive takes the next argument. A format with
directives is used again while arguments are left.

* `PrintRules`: what differs between those who print.
* `PrintFault`: what is wrong with an argument or a directive.
* `formatted`: the text that a format and its arguments make.
-/

namespace MatrixFlow.Script

/-- What differs between those who print. -/
structure PrintRules where
  /-- Escapes in hexadecimal digits count. -/
  hex : Bool
  /-- Arguments can be printed as words that stand for them. -/
  words : Bool
  /-- How many binary digits numbers with fractions have. -/
  bits : Nat
  /-- An escape ends the format. -/
  stops : Bool
  /-- A number without digits is wrong, too. -/
  strict : Bool

/-- How the command of the plain dialect prints. -/
def PrintRules.plain : PrintRules := ⟨false, false, 53, false, false⟩

/-- How the command of the extended dialect prints. -/
def PrintRules.extended : PrintRules := ⟨true, true, 64, false, false⟩

/-- How the tool prints. -/
def PrintRules.tool : PrintRules := ⟨true, true, 64, true, true⟩

/-- What is wrong with an argument or a directive. -/
inductive PrintFault where
  | notNumber (text : Octets)
  /-- Only the start is a number. -/
  | partly (text : Octets)
  | tooLarge (text : Octets)
  | badDirective (text : Octets)
  /-- A directive has no letter. -/
  | unfinished (text : Octets)
deriving DecidableEq, Repr

/-- A text that has been printed so far, and what was wrong. -/
structure Printing where
  /-- The text, reversed. -/
  text : Octets
  faults : List PrintFault
  args : List Octets
  /-- Nothing more is printed. -/
  stopped : Bool
  /-- An argument has been taken. -/
  consumed : Bool

namespace Printing

/-- Prints a text. -/
def put (p : Printing) (cs : Octets) : Printing :=
  { p with text := cs.reverse ++ p.text }

/-- Takes the next argument. -/
def next (p : Printing) : Printing × Option Octets :=
  match p.args with
  | [] => ({ p with consumed := true }, none)
  | a :: rest => ({ p with args := rest, consumed := true }, some a)

/-- Notes a fault, if there is one. -/
def note (p : Printing) (f : Option PrintFault) : Printing :=
  { p with faults := p.faults ++ f.toList }

end Printing

/-- The code of the character behind a quotation mark. -/
def quotedCode? (text : Octets) : Option Nat :=
  match text with
  | '\x22' :: c :: _ | '\x27' :: c :: _ => some c.toNat
  | _ => none

/-- The whole number that an argument is, and what is wrong with it. -/
def numberArgument (strict unsigned : Bool) (text : Octets) : Int × Option PrintFault :=
  match quotedCode? text with
  | some n => (n, none)
  | none =>
    let trimmed := text.dropWhile fun c => c == ' ' || ('\t' ≤ c && c ≤ '\r')
    let (negative, digits) := match trimmed with
      | '-' :: r => (true, r)
      | '+' :: r => (false, r)
      | r => (false, r)
    let read := match digits with
      | '0' :: x :: r =>
        if x == 'x' || x == 'X' then
          let (value, count) := leadingNumber 16 r.length r
          if count = 0 then (0, 1) else (value, count + 2)
        else leadingNumber 8 digits.length digits
      | _ => leadingNumber 10 digits.length digits
    let (value, count) := read
    if count = 0 then (0, if text.isEmpty && !strict then none else some (.notNumber text))
    else
      let n : Int := if negative then -value else value
      let most : Int := if unsigned then pow2 64 - 1 else pow2 63 - 1
      let least : Int := -(pow2 63)
      if n > most then (most, some (.tooLarge text))
      else if n < least then (least, some (.tooLarge text))
      else (n, if count = digits.length then none else some (.partly text))

/-- The number with a fraction that an argument is, and what is wrong with it. -/
def quantityArgument (rules : PrintRules) (text : Octets) : Quantity × Option PrintFault :=
  match quotedCode? text with
  | some n => (.finite false n 1, none)
  | none =>
    match quantity? text with
    | some (q, n) =>
      (q.rounded rules.bits, if n = text.length then none else some (.partly text))
    | none =>
      (.finite false 0 1, if text.isEmpty && !rules.strict then none else some (.notNumber text))

/-- Makes the next argument into what a directive asks for. -/
def printDirective (rules : PrintRules) (d : Directive) (p : Printing) : Printing :=
  match d.conversion with
  | '%' => p.put ['%']
  | 's' =>
    let (p, arg) := p.next
    p.put (d.text (arg.getD []))
  | 'q' =>
    let (p, arg) := p.next
    p.put ({ d with precision := none }.text (slashedValue (arg.getD [])))
  | 'b' =>
    let (p, arg) := p.next
    let (text, ended) := (EscapeRules.argument rules.hex).apply (arg.getD [])
    { p.put (d.text text) with stopped := ended }
  | 'c' =>
    let (p, arg) := p.next
    let c := match arg with
      | some (c :: _) => [c]
      | _ => if rules.strict then [] else ['\x00']
    p.put (padded d.flags d.width c)
  | 'd' | 'i' | 'u' | 'x' | 'X' | 'o' =>
    let (p, arg) := p.next
    let unsigned := d.conversion != 'd' && d.conversion != 'i'
    let (n, problem) := match arg with
      | some text => numberArgument rules.strict unsigned text
      | none => (0, none)
    (p.note problem).put (d.integer n)
  | _ =>
    let (p, arg) := p.next
    let (q, problem) := match arg with
      | some text => quantityArgument rules text
      | none => (.finite false 0 1, none)
    (p.note problem).put (d.quantity q)

/-- A count in a directive: digits, or a star for the next argument. -/
def takeCount (p : Printing) (cs : Octets) : Printing × Option Int × Octets :=
  match directiveCount? cs with
  | (some (.given n), rest) => (p, some n, rest)
  | (some .argument, rest) =>
    let (p, arg) := p.next
    (p, some (numberArgument false false (arg.getD [])).1, rest)
  | (none, rest) => (p, none, rest)

/-- Letters of directives. -/
def conversions (rules : PrintRules) : List Char :=
  ['%', 's', 'b', 'c', 'd', 'i', 'u', 'x', 'X', 'o', 'f', 'F', 'e', 'E', 'g', 'G'] ++
    if rules.words then ['q'] else []

/-- Prints a format once. -/
def printOnce (rules : PrintRules) : (fuel : Nat) → Octets → Printing → Printing
  | 0, _, p => p
  | _, [], p => p
  | fuel + 1, '%' :: r, p =>
    let flags := r.takeWhile fun c => ['-', '+', ' ', '0', '#'].contains c
    let (p, width, rest) := takeCount p (r.drop flags.length)
    let (p, precision, rest) := match rest with
      | '.' :: rest =>
        let (p, n, rest) := takeCount p rest
        (p, some (n.getD 0), rest)
      | rest => (p, none, rest)
    let width := width.getD 0
    let flags := if width < 0 then '-' :: flags else flags
    let precision := precision.bind fun n => if n < 0 then none else some n.toNat
    match rest with
    | c :: rest =>
      if (conversions rules).contains c then
        let p := printDirective rules ⟨flags, width.natAbs, precision, c⟩ p
        if p.stopped then p else printOnce rules fuel rest p
      else
        let shown := '%' :: r.take (r.length - rest.length)
        { p.note (some (.badDirective shown)) with stopped := true }
    | [] => { p.note (some (.unfinished ('%' :: r))) with stopped := true }
  | fuel + 1, '\\' :: r, p =>
    if rules.stops && r.head? == some 'c' then { p with stopped := true }
    else match (EscapeRules.format rules.hex).escape? r with
      | some (cs, count) => printOnce rules fuel (r.drop count) (p.put cs)
      | none => printOnce rules fuel r (p.put ['\\'])
  | fuel + 1, c :: r, p => printOnce rules fuel r (p.put [c])

/-- Prints a format while arguments are left. -/
def printAll (rules : PrintRules) (format : Octets) : (fuel : Nat) → Printing → Printing
  | 0, p => p
  | fuel + 1, p =>
    let p := printOnce rules (format.length + 1) format { p with consumed := false }
    if p.stopped || p.args.isEmpty || !p.consumed then p else printAll rules format fuel p

/-- The text that a format and its arguments make, and what is wrong with them. -/
def formatted (rules : PrintRules) (format : Octets) (args : List Octets) :
    Octets × List PrintFault :=
  let p := printAll rules format (args.length + 1) ⟨[], [], args, false, false⟩
  (p.text.reverse, p.faults)

end MatrixFlow.Script
