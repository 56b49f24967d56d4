import MatrixFlow.Json.Print

/-!
# Combinations

* `Combination`: an ordered binding of names to matrix values, each name at most once.
* `Combination.insert`, `Combination.get?`, `Combination.ofList`: binding and looking up.
* `Combination.agrees`: every binding of a partial combination holds.
* `valueText`, `Combination.text`: how values and combinations appear in commands and labels.
-/

namespace MatrixFlow

/-- A matrix value as it appears in commands and labels: texts bare, null as nothing. -/
def valueText : Json → String
  | .null => ""
  | .str s => s
  | v => v.compact

/-- Names bound to matrix values, in order. -/
structure Combination where
  bindings : List (String × Json)
deriving Repr, Inhabited

namespace Combination

/-- Binds nothing. -/
def empty : Combination := ⟨[]⟩

/-- The value of a name. -/
def get? (c : Combination) (name : String) : Option Json :=
  (c.bindings.find? fun (k, _) => k == name).map (·.2)

/-- Bindings with a name bound anew, where it stands or at the end. -/
def insertBinding (name : String) (value : Json) :
    List (String × Json) → List (String × Json)
  | [] => [(name, value)]
  | (k, v) :: rest =>
    if k = name then (k, value) :: rest else (k, v) :: insertBinding name value rest

/-- Binds a name. -/
def insert (c : Combination) (name : String) (value : Json) : Combination :=
  ⟨insertBinding name value c.bindings⟩

/-- Binds several names, in order. -/
def insertAll (c : Combination) (pairs : List (String × Json)) : Combination :=
  pairs.foldl (fun c (k, v) => c.insert k v) c

/-- The combination that a list of pairs makes. A name keeps its first place and takes its last
value. -/
def ofList (pairs : List (String × Json)) : Combination :=
  empty.insertAll pairs

/-- The name is bound to a value equal to `value`. -/
def binds (c : Combination) (name : String) (value : Json) : Bool :=
  match c.get? name with
  | some v => v.equal value
  | none => false

/-- Every binding of `part` holds in the combination. -/
def agrees (c part : Combination) : Bool :=
  part.bindings.all fun (k, v) => c.binds k v

/-- Binds no name. -/
def isEmpty (c : Combination) : Bool :=
  c.bindings.isEmpty

/-- The values in parentheses; nothing where there are none. -/
def text (c : Combination) : String :=
  if c.isEmpty then ""
  else "(" ++ ", ".intercalate (c.bindings.map fun (_, v) => valueText v) ++ ")"

/-- The combination as an object, in the order of its bindings. -/
def toJson (c : Combination) : Json :=
  .obj c.bindings

end Combination

end MatrixFlow
