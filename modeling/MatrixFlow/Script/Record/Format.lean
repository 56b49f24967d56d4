import MatrixFlow.Script.Record.Value

/-!
# Formats of record programs

A format holds texts and directives, and each directive takes the next values.

* `FormatFault`: what is wrong with a format or its values.
* `formatValues`: what a format and its values make, up to a fault if there is one.
-/

namespace MatrixFlow.Script.Record

/-- What is wrong with a format or its values. -/
inductive FormatFault where
  /-- A directive has no value left. -/
  | fewValues
  /-- The directive of this number has an unknown letter. -/
  | badDirective (number : Nat)
deriving DecidableEq, Repr

/-- The directive flags that are there. -/
def isDirectiveFlag (c : Char) : Bool :=
  ['-', '+', ' ', '#', '0'].contains c

/-- A width or count that begins here, which may be the next value, with the values that are left;
nothing if the value is missing. -/
def countHere (cs : Octets) (values : List Value) :
    Option (Option Int × Octets × List Value) :=
  match directiveCount? cs, values with
  | (some .argument, _), [] => none
  | (some .argument, rest), v :: values =>
    some (some (clampedInteger v.toNumber), rest, values)
  | (some (.given n), rest), _ => some (some n, rest, values)
  | (none, rest), _ => some (none, rest, values)

/-- A character that a value stands for. -/
def characterOf (form : Octets) : Value → Char
  | .number x => Char.ofNat ((clampedInteger x) % 256).toNat
  | v => (v.toText form).head?.getD '\x00'

/-- A value as a directive prints it. -/
def directiveText? (form : Octets) (d : Directive) (v : Value) : Option Octets :=
  match d.conversion with
  | 'c' => some (padded d.flags d.width [characterOf form v])
  | 's' => some (d.text (v.toText form))
  | 'd' | 'i' | 'o' | 'x' | 'X' | 'u' => some (d.integer (clampedInteger v.toNumber))
  | 'e' | 'E' | 'f' | 'F' | 'g' | 'G' => some (d.quantity (quantityOf v.toNumber))
  | _ => none

/-- What a format and its values make, in front of which `made` has been made in reverse. The next
directive has a number. -/
def formatFrom (form : Octets) : (fuel number : Nat) → (made : Octets) → Octets → List Value →
    Octets × Option FormatFault
  | 0, _, made, _, _ => (made.reverse, none)
  | fuel + 1, number, made, cs, values =>
    match cs with
    | [] => (made.reverse, none)
    | '%' :: '%' :: r => formatFrom form fuel number ('%' :: made) r values
    | '%' :: r =>
      let flags := r.takeWhile isDirectiveFlag
      match countHere (r.drop flags.length) values with
      | none => (made.reverse, some .fewValues)
      | some (width, rest, values) =>
        let precision := match rest with
          | '.' :: r =>
            match countHere r values with
            | some (count, rest, values) => some (some ((count.getD 0)), rest, values)
            | none => none
          | r => some (none, r, values)
        match precision with
        | none => (made.reverse, some .fewValues)
        | some (precision, rest, values) =>
          let rest := match rest with
            | 'l' :: r | 'h' :: r => r
            | r => r
          match values with
          | [] => (made.reverse, some .fewValues)
          | v :: values =>
            let width := width.getD 0
            let flags := if width < 0 then '-' :: flags else flags
            let precision := match precision with
              | some p => if p < 0 then none else some p.toNat
              | none => none
            match rest with
            | [] => (made.reverse, some (.badDirective number))
            | conversion :: rest =>
              match directiveText? form ⟨flags, width.natAbs, precision, conversion⟩ v with
              | none => (made.reverse, some (.badDirective number))
              | some text =>
                formatFrom form fuel (number + 1) (text.reverse ++ made) rest values
    | c :: r => formatFrom form fuel number (c :: made) r values

/-- What a format and its values make, up to a fault if there is one. -/
def formatValues (form format : Octets) (values : List Value) : Octets × Option FormatFault :=
  formatFrom form (format.length + 1) 1 [] format values

end MatrixFlow.Script.Record
