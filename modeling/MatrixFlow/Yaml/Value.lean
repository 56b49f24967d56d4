import MatrixFlow.Number.Basic

/-!
# YAML values

* `Value`: a document as data. Mappings keep the order of their entries.
* `Value.untag`: a value without the tags around it; `asText?`, `asItems?` and `asEntries?` look
  through tags.
* `Value.same`: equality, as it decides whether two keys of a mapping are one.
-/

namespace MatrixFlow.Yaml

/-- A YAML value. -/
inductive Value where
  | null
  | bool (value : Bool)
  | num (value : Number)
  | str (value : String)
  | seq (items : List Value)
  | map (entries : List (Value × Value))
  | tagged (tag : String) (value : Value)
deriving Repr, Inhabited

namespace Value

/-- The value inside all tags. -/
def untag : Value → Value
  | tagged _ v => untag v
  | v => v

/-- The text of a string. -/
def asText? (v : Value) : Option String :=
  match v.untag with
  | str s => some s
  | _ => none

/-- The items of a sequence. -/
def asItems? (v : Value) : Option (List Value) :=
  match v.untag with
  | seq items => some items
  | _ => none

/-- The entries of a mapping. -/
def asEntries? (v : Value) : Option (List (Value × Value)) :=
  match v.untag with
  | map entries => some entries
  | _ => none

/-- A tag without the exclamation mark that may begin it. A mark alone stays. -/
def bareTag (tag : String) : String :=
  match tag.toList with
  | ['!'] => tag
  | '!' :: r => String.ofList r
  | _ => tag

/-- Numbers are the same if they are equal; unlike elsewhere, no number is the same as itself. -/
def sameNumber : Number → Number → Bool
  | .float .nan, .float .nan => true
  | a, b => a.equal b

mutual

/-- Equality of values. The order of a mapping's entries does not count. -/
def same : Value → Value → Bool
  | null, null => true
  | bool a, bool b => a == b
  | num a, num b => sameNumber a b
  | str a, str b => a == b
  | seq a, seq b => sameItems a b
  | map a, map b => a.length == b.length && sameEntries a b
  | tagged t a, tagged u b => bareTag t == bareTag u && same a b
  | _, _ => false

/-- Equality of lists of values. -/
def sameItems : List Value → List Value → Bool
  | [], [] => true
  | a :: as, b :: bs => same a b && sameItems as bs
  | _, _ => false

/-- Every entry of the first list is in the second. -/
def sameEntries : List (Value × Value) → List (Value × Value) → Bool
  | [], _ => true
  | (k, v) :: as, bs => bs.any (fun (l, w) => same k l && same v w) && sameEntries as bs

end

/-- A key is among those of some entries. -/
def hasKey (key : Value) (entries : List (Value × Value)) : Bool :=
  entries.any fun (k, _) => k.same key

mutual

/-- No mapping inside the value has a key twice. -/
def keysUnique : Value → Bool
  | seq items => keysUniqueItems items
  | map entries => keysUniqueEntries [] entries
  | tagged _ v => keysUnique v
  | _ => true

/-- The same for the items of a sequence. -/
def keysUniqueItems : List Value → Bool
  | [] => true
  | v :: rest => keysUnique v && keysUniqueItems rest

/-- The same for the entries of a mapping after those of the keys `seen`. -/
def keysUniqueEntries (seen : List Value) : List (Value × Value) → Bool
  | [] => true
  | (k, v) :: rest =>
    keysUnique k && !seen.any (fun l => l.same k) && keysUnique v &&
      keysUniqueEntries (k :: seen) rest

end

end Value

end MatrixFlow.Yaml
