import MatrixFlow.Text.Hidden
import MatrixFlow.Yaml.Fault
import MatrixFlow.Yaml.Scalar
import MatrixFlow.Yaml.Value

/-!
# Errors of loading

* `ShapeError`: a value is not what its place calls for.
* `LoadError`: why no data came out of a text: a fault of form, a shape with its place, or a
  limit that is exceeded.
* `LoadError.message`, `LoadError.mark?`: the error in words, and its place.
-/

namespace MatrixFlow.Yaml

/-- What was found in a place. -/
inductive Found where
  | unit
  | bool (value : Bool)
  | int (value : Int)
  | wide (value : Int)
  | float (value : Binary64)
  | text (value : String)
  | sequence
  | map
  | tagged
deriving DecidableEq, Repr

/-- Fractions in messages are positional whatever their size. -/
def plainFloatStyle : FloatStyle := ⟨none, false⟩

/-- A fraction in a message. -/
def plainFloatText : Binary64 → String
  | .finite n m e => plainFloatStyle.render n m e
  | .infinite false => "inf"
  | .infinite true => "-inf"
  | .nan => "NaN"

/-- What was found, in words. -/
def Found.words : Found → String
  | unit => "unit value"
  | bool b => "boolean \x60" ++ (if b then "true" else "false") ++ "\x60"
  | int i => "integer \x60" ++ Number.intText i ++ "\x60"
  | wide i => "integer \x60" ++ Number.intText i ++ "\x60 as " ++ (if i < 0 then "i128" else "u128")
  | float x => "floating point \x60" ++ plainFloatText x ++ "\x60"
  | text s => "string " ++ Text.quoted s
  | sequence => "sequence"
  | map => "map"
  | tagged => "enum"

/-- What a scalar of a meaning counts as. -/
def Resolved.found (r : Resolved) (text : String) : Found :=
  match r with
  | .null => .unit
  | .bool b => .bool b
  | .int i => .int i
  | .wide i => .wide i
  | .float x => .float x
  | .text => .text text

/-- What a value counts as. -/
def Value.found : Value → Found
  | .null => .unit
  | .bool b => .bool b
  | .num (.int i) => .int i
  | .num (.float x) => .float x
  | .str s => .text s
  | .seq _ => .sequence
  | .map _ => .map
  | .tagged .. => .tagged

/-- A value is not what its place calls for. -/
inductive ShapeError where
  | invalidType (found : Found) (expected : String)
  | invalidValue (found : Found) (expected : String)
  | missingField (name : String)
  | duplicateField (name : String)
  | duplicateKey (key : Value)
  | noVariant (name : String)
  | taggedVariant
deriving Repr

/-- The error in words. -/
def ShapeError.message : ShapeError → String
  | invalidType found expected => "invalid type: " ++ found.words ++ ", expected " ++ expected
  | invalidValue found expected => "invalid value: " ++ found.words ++ ", expected " ++ expected
  | missingField name => "missing field \x60" ++ name ++ "\x60"
  | duplicateField name => "duplicate field \x60" ++ name ++ "\x60"
  | duplicateKey .null => "duplicate entry with null key"
  | duplicateKey (.bool b) =>
    "duplicate entry with key \x60" ++ (if b then "true" else "false") ++ "\x60"
  | duplicateKey (.num n) => "duplicate entry with key " ++ numberText n
  | duplicateKey (.str s) => "duplicate entry with key " ++ Text.quoted s
  | duplicateKey _ => "duplicate entry in YAML map"
  | noVariant name => "data did not match any variant of untagged enum " ++ name
  | taggedVariant => "untagged and internally tagged enums do not support enum input"

/-- A step from a value to a value inside it. -/
inductive PathStep where
  | item (index : Nat)
  | entry (key : String)
  /-- The value of a key that is no scalar. -/
  | unnamed
  /-- From an alias to the node that it stands for. -/
  | jump
deriving DecidableEq, Repr

/-- The way from the root of a document to a value, innermost step first. -/
abbrev Path := List PathStep

/-- The path in words; the root is a point. -/
def Path.text : Path → String
  | [] => "."
  | .item i :: rest => Path.text rest ++ "[" ++ toString i ++ "]"
  | .entry key :: rest => parent rest ++ key
  | .unnamed :: rest => parent rest ++ "?"
  | .jump :: rest => Path.text rest
where
  /-- The path of what holds an entry, with a point behind it. -/
  parent : Path → String
  | [] => ""
  | step :: rest => Path.text (step :: rest) ++ "."

/-- Why no data came out of a text. -/
inductive LoadError where
  | form (fault : Fault)
  | shape (cause : ShapeError) (place : Option (Mark × Path))
  | unknownAnchor (mark : Mark)
  | tooDeep (mark : Mark)
  | tooManyAliases
  | severalDocuments
  | noDocument
deriving Repr

namespace LoadError

/-- The place of an error, if it has one. -/
def mark? : LoadError → Option Mark
  | form fault => some fault.mark
  | shape _ place => place.map (·.1)
  | unknownAnchor m => some m
  | tooDeep m => some m
  | _ => none

/-- Gives a place to an error of shape that has none. -/
def atPlace (e : LoadError) (m : Mark) (path : Path) : LoadError :=
  match e with
  | shape cause none => shape cause (some (m, path))
  | e => e

/-- Where the error is, in words. -/
def placeText (e : LoadError) : String :=
  match e.mark? with
  | some m => if m.isOrigin then "" else " at " ++ m.text
  | none => ""

/-- The error in words. -/
def message (e : LoadError) : String :=
  match e with
  | form fault => fault.message
  | shape cause (some (_, path)) =>
    (if Path.text path = "." then "" else Path.text path ++ ": ") ++ cause.message ++
      e.placeText
  | shape cause none => cause.message
  | unknownAnchor _ => "unknown anchor" ++ e.placeText
  | tooDeep _ => "recursion limit exceeded" ++ e.placeText
  | tooManyAliases => "repetition limit exceeded"
  | severalDocuments =>
    "deserializing from YAML containing more than one document is not supported"
  | noDocument => "EOF while parsing a value"

end LoadError

end MatrixFlow.Yaml
