import MatrixFlow.Script.Syntax

/-!
# Variables

A variable holds a text, or elements that have numbers or names.

* `Content`, `Variable`: what a variable holds, and how it is kept.
* `Key`, `Place`: an element of a variable, and where a text is put.
* `Variable.element?`, `Variable.put`, `Variable.drop`: one element.
* `Variable.elements`: all elements in their order.
-/

namespace MatrixFlow.Script

/-- What a variable holds. -/
inductive Content where
  | nothing
  | text (cs : Octets)
  /-- Texts by ascending numbers. -/
  | numbered (items : List (Nat × Octets))
  /-- Texts by names, in the order of `nameSlot`. -/
  | named (items : List (Octets × Octets))
deriving DecidableEq, Repr, Inhabited

/-- How the letters of a value are changed when it is assigned. -/
inductive LetterRule where
  | asTheyAre
  | upper
  | lower
deriving DecidableEq, Repr, Inhabited

/-- A variable. -/
structure Variable where
  name : String
  content : Content
  /-- Programs see it. -/
  exported : Bool
  /-- It keeps its value. -/
  fixed : Bool
  /-- Values are formulas. -/
  computed : Bool
  letters : LetterRule
  /-- Its value is the name of the variable that is meant. -/
  stands : Bool
deriving Repr, Inhabited

/-- An element of a variable. -/
inductive Key where
  | number (n : Int)
  | name (cs : Octets)
deriving DecidableEq, Repr

/-- Where a text is put: a variable or one of its elements. -/
structure Place where
  name : String
  key : Option Key
deriving DecidableEq, Repr

namespace Variable

/-- A variable that holds nothing yet. -/
def empty (name : String) : Variable :=
  ⟨name, .nothing, false, false, false, .asTheyAre, false⟩

/-- A variable that holds a text. -/
def ofText (name : String) (cs : Octets) : Variable :=
  { empty name with content := .text cs }

/-- A variable that holds a text and that programs see. -/
def shared (name : String) (cs : Octets) : Variable :=
  { ofText name cs with exported := true }

end Variable

/-! ## Names of elements -/

/-- How many slots elements with names are spread over. -/
def slotCount : Nat := 1024

/-- A byte as a number of 32 bits, with its sign. -/
def signedByte (c : Char) : UInt32 :=
  if c.toNat < 128 then c.toNat.toUInt32 else c.toNat.toUInt32 + 0xFFFFFF00

/-- The slot of a name. Elements stand in the order of their slots, and within one slot the last
that came is the first. -/
def nameSlot (name : Octets) : Nat :=
  let mixed := name.foldl (fun (h : UInt32) c => (h * 16777619) ^^^ signedByte c) 2166136261
  mixed.toNat % slotCount

/-- The slot of a name among the variables of a shell of the plain dialect. -/
def plainSlot (name : Octets) : Nat :=
  name.foldl (fun n c => n + c.toNat) (16 * (name.headD '\x00').toNat) % 39

/-- Puts a text under a name. -/
def putNamed (name value : Octets) (items : List (Octets × Octets)) : List (Octets × Octets) :=
  if items.any fun (k, _) => k == name then
    items.map fun (k, v) => if k == name then (k, value) else (k, v)
  else
    let before := items.takeWhile fun (k, _) => nameSlot k < nameSlot name
    before ++ (name, value) :: items.drop before.length

/-- Puts a text under a number. -/
def putNumbered (number : Nat) (value : Octets) (items : List (Nat × Octets)) :
    List (Nat × Octets) :=
  let before := items.takeWhile fun (k, _) => k < number
  match items.drop before.length with
  | (k, v) :: rest =>
    if k = number then before ++ (k, value) :: rest else before ++ (number, value) :: (k, v) :: rest
  | [] => before ++ [(number, value)]

/-! ## Elements -/

namespace Content

/-- The number behind the last one. -/
def nextNumber (items : List (Nat × Octets)) : Nat :=
  match items.getLast? with
  | some (n, _) => n + 1
  | none => 0

/-- The number of an element; a negative one counts from the end. -/
def number? (items : List (Nat × Octets)) (n : Int) : Option Nat :=
  if 0 ≤ n then some n.toNat
  else if n.natAbs ≤ nextNumber items then some (nextNumber items - n.natAbs)
  else none

/-- The content as elements with numbers. -/
def asNumbered : Content → List (Nat × Octets)
  | numbered items => items
  | text cs => [(0, cs)]
  | _ => []

/-- All elements by their keys, in order. -/
def elements : Content → List (Key × Octets)
  | nothing => []
  | text cs => [(.number 0, cs)]
  | numbered items => items.map fun (n, v) => (.number n, v)
  | named items => items.map fun (k, v) => (.name k, v)

/-- One element. -/
def element? (c : Content) (key : Key) : Option Octets :=
  match c, key with
  | named items, .name k => (items.find? fun (l, _) => l == k).map (·.2)
  | named items, .number n =>
    (items.find? fun (l, _) => l == (toString n).toList).map (·.2)
  | c, .number n =>
    let items := c.asNumbered
    (number? items n).bind fun n => (items.find? fun (k, _) => k == n).map (·.2)
  | _, .name _ => none

/-- The text that the variable stands for by itself: that of its first element. -/
def text? : Content → Option Octets
  | text cs => some cs
  | nothing => none
  | c => c.element? (.number 0)

/-- Puts a text under a key; none if there is no such element. -/
def put? (c : Content) (key : Key) (value : Octets) : Option Content :=
  match c, key with
  | named items, .name k => some (named (putNamed k value items))
  | named items, .number n => some (named (putNamed (toString n).toList value items))
  | c, .number n =>
    let items := c.asNumbered
    (number? items n).map fun n => numbered (putNumbered n value items)
  | _, .name _ => none

/-- Puts a text in the place of the first element, or of the whole content. -/
def putText (c : Content) (value : Octets) : Content :=
  match c with
  | nothing | text _ => text value
  | c => (c.put? (.number 0) value).getD (text value)

/-- Takes an element away. -/
def drop (c : Content) (key : Key) : Content :=
  match c, key with
  | named items, .name k => named (items.filter fun (l, _) => l != k)
  | named items, .number n => named (items.filter fun (l, _) => l != (toString n).toList)
  | numbered items, .number n =>
    match number? items n with
    | some n => numbered (items.filter fun (k, _) => k != n)
    | none => numbered items
  | c, _ => c

/-- There is more than a text. -/
def isList : Content → Bool
  | numbered _ | named _ => true
  | _ => false

end Content

namespace Variable

/-- The text of a variable. -/
def value (v : Variable) : Option Octets := v.content.text?

/-- The variable with a text in it. -/
def withText (v : Variable) (cs : Octets) : Variable :=
  { v with content := v.content.putText cs }

/-- The elements have names. -/
def isNamed (v : Variable) : Bool :=
  match v.content with
  | .named _ => true
  | _ => false

/-- A value after the letters have been changed. -/
def change (v : Variable) (cs : Octets) : Octets :=
  match v.letters with
  | .asTheyAre => cs
  | .upper => cs.map Char.toUpper
  | .lower => cs.map Char.toLower

end Variable

end MatrixFlow.Script
